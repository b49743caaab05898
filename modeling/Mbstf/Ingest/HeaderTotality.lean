import Mbstf.Core.StringView
import Mbstf.Ingest.OwnResponse

/-!
# Which header lines are taken apart without a fault

`Curl.cc` takes a header line apart by hand.  Here its functions are translated
once more, with the precondition of every member of the string view that they
call and with the exceptions of the number conversion.  Where no fault occurs the
result is the one of the plain functions, and two kinds of line cause a fault: a
status line whose code is no number or too large, and a `Location` line of a
permanent redirect with nothing behind the blanks.
-/

namespace Mbstf.Ingest

open Mbstf.Folds Mbstf.Session Mbstf.StringView

/-- What may go wrong in a header callback. -/
abbrev HeaderFault := StringView.Fault StdException

namespace Curl.Checked

/-- `std::stoi` on the text of a status code. -/
def readStatusCode (curl : Curl) (text : List Char) : Except HeaderFault (Bool × Curl) :=
  match stoi text with
  | .error exception => .error (.thrown exception)
  | .ok statusCode => .ok (true, { curl with statusCode := statusCode })

/-- The line from the status code on: its end is found, and the code is converted. -/
def extractStatusCode (curl : Curl) (line : List Char) : Except HeaderFault (Bool × Curl) :=
  match findFirstOf (· = ' ') 0 line with
  | none => readStatusCode curl line
  | some endOfStatuscode => do
      let text ← substr 0 endOfStatuscode line
      readStatusCode curl text

/-- The line from the end of the protocol on. -/
def skipToStatusCode (curl : Curl) (line : List Char) : Except HeaderFault (Bool × Curl) :=
  match findFirstOf (· ≠ ' ') 0 line with
  | none => .ok (false, curl)
  | some startOfStatuscode => do
      let text ← removePrefix startOfStatuscode line
      extractStatusCode curl text

/-- `extractProtocolAndStatusCode(std::string_view&)`. -/
def extractProtocolAndStatusCode (curl : Curl) (headerLine : List Char) :
    Except HeaderFault (Bool × Curl) := do
  let line ← removePrefix 5 headerLine
  match findFirstOf (· = ' ') 0 line with
  | none => .ok (false, curl)
  | some endOfProtocol =>
      let protocol ← substr 0 endOfProtocol line
      let rest ← removePrefix endOfProtocol line
      skipToStatusCode { curl with protocol := String.ofList protocol } rest

/-- A line where a status line may stand, and the state if it is none. -/
def processStatusLine (curl : Curl) (line : List Char) (otherwise : HeaderProcessingState) :
    Except HeaderFault Curl :=
  if "HTTP/".toList.isPrefixOf line then do
    let (found, after) ← extractProtocolAndStatusCode curl line
    return { after with hdrState := if found then .headers else otherwise }
  else .ok { curl with hdrState := otherwise }

/-- The branch of a `Location` line. -/
def processLocation (curl : Curl) (line : List Char) : Except HeaderFault Curl := do
  let value ← removePrefix 9 line
  let url ← skipBlanks value
  return { curl with permanentRedirectUrl := String.ofList url }

/-- The branch of a `Cache-Control` line. -/
def processCacheControl (curl : Curl) (line : List Char) : Except HeaderFault Curl := do
  let field ← removePrefix 14 line
  let value := skipBlanksIfAny field
  match (find "max-age=".toList value).or (find "Max-age=".toList value) with
  | none => return curl
  | some found =>
      let pos := found + 8
      let endPos := (findFirstOf (· ∈ ", \r\n".toList) pos value).getD value.length
      let maxAgeStr ← substr pos (endPos - pos) value
      return { curl with cacheControlMaxAge := (stoul maxAgeStr).toOption.getD 0 }

/-- A line among the headers of a response. -/
def processHeader (curl : Curl) (line : List Char) : Except HeaderFault Curl :=
  if line = [] then .ok { curl with hdrState := .body }
  else if (curl.statusCode = 301 ∨ curl.statusCode = 308) ∧
      ("Location:".toList.isPrefixOf line || "location:".toList.isPrefixOf line) then
    processLocation curl line
  else if isCacheControl line then processCacheControl curl line
  else .ok curl

/-- `processHeaderLine(std::string_view&)`. -/
def processHeaderLine (curl : Curl) (headerLine : List Char) : Except HeaderFault Curl :=
  let line := stripCrLf headerLine
  match curl.hdrState with
  | .headers => processHeader curl line
  | .start => processStatusLine curl line .start
  | .body | .trailing => processStatusLine curl line .trailing

/-- `headerCallback(char*, size_t, size_t, void*)`: the object after it, and the size that
libcurl is told. -/
def headerCallback (curl : Curl) (buffer : List Char) : Except HeaderFault (Curl × ℕ) := do
  let after ← processHeaderLine curl buffer
  return (after, buffer.length)

/-- The object after the callbacks for some lines. -/
def headerCallbacks (curl : Curl) (buffers : List (List Char)) : Except HeaderFault Curl :=
  buffers.foldlM (fun current buffer => (headerCallback current buffer).map Prod.fst) curl

end Curl.Checked

/-! ## The status line -/

theorem takeWhile_ne_blank (text : List Char) :
    text.takeWhile (fun character => !decide (character = ' ')) = text.takeWhile (· ≠ ' ') := by
  congr 1
  funext character
  exact (decide_not).symm

/-- Nothing but blanks are skipped, or something is left. -/
theorem dropWhile_of_findIdx? {text : List Char} :
    (text.findIdx? (· ≠ ' ') = none → text.dropWhile (· = ' ') = []) ∧
      ∀ position, text.findIdx? (· ≠ ' ') = some position →
        position < text.length ∧ text.drop position = text.dropWhile (· = ' ') := by
  have hsame : (fun character : Char => !decide (character ≠ ' ')) = (· = ' ') := by
    funext character
    simp
  constructor
  · intro hnone
    have hall := takeWhile_of_findIdx?_none hnone
    rw [hsame] at hall
    exact List.dropWhile_eq_nil_iff.mpr (List.takeWhile_eq_self_iff.mp hall)
  · intro position hsome
    obtain ⟨hlt, -, hdrop⟩ := take_of_findIdx? hsome
    rw [hsame] at hdrop
    exact ⟨hlt, hdrop⟩

namespace Curl

variable {curl : Curl} {line : List Char}

/-- From the status code on, both read the text up to the next blank. -/
theorem Checked.extractStatusCode_eq (curl : Curl) (line : List Char) :
    Checked.extractStatusCode curl line =
      Checked.readStatusCode curl (line.takeWhile (· ≠ ' ')) := by
  rw [Checked.extractStatusCode, findFirstOf_zero]
  cases hfind : line.findIdx? (· = ' ') with
  | none =>
      have hall := takeWhile_of_findIdx?_none hfind
      rw [takeWhile_ne_blank] at hall
      rw [hall]
  | some position =>
      obtain ⟨hlt, htake, -⟩ := take_of_findIdx? hfind
      rw [takeWhile_ne_blank] at htake
      simp only [← htake, substr_ok (Nat.zero_le _), List.drop_zero]
      rfl

theorem Checked.skipToStatusCode_eq (curl : Curl) (line : List Char) :
    Checked.skipToStatusCode curl line =
      if (line.dropWhile (· = ' ')).takeWhile (· ≠ ' ') = [] then .ok (false, curl)
      else Checked.readStatusCode curl ((line.dropWhile (· = ' ')).takeWhile (· ≠ ' ')) := by
  rw [Checked.skipToStatusCode, findFirstOf_zero]
  cases hfind : line.findIdx? (· ≠ ' ') with
  | none =>
      rw [dropWhile_of_findIdx?.1 hfind]
      rfl
  | some position =>
      obtain ⟨hlt, hdrop⟩ := dropWhile_of_findIdx?.2 position hfind
      have hne : (line.dropWhile (· = ' ')).takeWhile (· ≠ ' ') ≠ [] := by
        -- The first character behind the blanks is none.
        cases hrest : line.dropWhile (· = ' ') with
        | nil =>
            rw [hrest, List.drop_eq_nil_iff] at hdrop
            exact absurd hlt (not_lt.mpr hdrop)
        | cons first rest =>
            have hfirst := List.head?_dropWhile_not (fun c : Char => decide (c = ' ')) line
            rw [hrest] at hfirst
            have hnot : first ≠ ' ' := by simpa using hfirst
            simp [hnot]
      rw [if_neg hne, ← Checked.extractStatusCode_eq, ← hdrop]
      simp only [removePrefix_ok hlt.le]
      rfl

/-- A status line is taken apart without a fault of the view; only the conversion of the
code may throw. -/
theorem Checked.extractProtocolAndStatusCode_eq (curl : Curl)
    (hhttp : "HTTP/".toList.isPrefixOf line) :
    Checked.extractProtocolAndStatusCode curl line =
      (curl.extractProtocolAndStatusCode line).mapError .thrown := by
  have hremove : (removePrefix 5 line : Except HeaderFault _) = .ok (line.drop 5) :=
    removePrefix_of_isPrefixOf hhttp
  rw [Checked.extractProtocolAndStatusCode, hremove, Curl.extractProtocolAndStatusCode]
  simp only [findFirstOf_zero, Except.bind, bind]
  cases hfind : (line.drop 5).findIdx? (· = ' ') with
  | none =>
      have hall := takeWhile_of_findIdx?_none hfind
      rw [takeWhile_ne_blank] at hall
      have hprotocol : protocolOf line = none := by
        rw [protocolOf, hall]
        simp
      simp only [hprotocol]
      rfl
  | some position =>
      obtain ⟨hlt, htake, -⟩ := take_of_findIdx? hfind
      rw [takeWhile_ne_blank] at htake
      have hlength : ((line.drop 5).takeWhile (· ≠ ' ')).length = position := by
        rw [← htake, List.length_take]
        omega
      have hprotocol : protocolOf line = some ((line.drop 5).takeWhile (· ≠ ' ')) := by
        rw [protocolOf, if_neg (by rw [hlength]; exact hlt.ne)]
      have htext : statusCodeText line ((line.drop 5).takeWhile (· ≠ ' ')) =
          (((line.drop 5).drop position).dropWhile (· = ' ')).takeWhile (· ≠ ' ') := by
        rw [statusCodeText, hlength, List.drop_drop]
      simp only [hprotocol, htext, substr_ok (Nat.zero_le _), List.drop_zero, htake,
        removePrefix_ok hlt.le, Checked.skipToStatusCode_eq]
      split
      · rfl
      · rw [Checked.readStatusCode]
        cases stoi ((((line.drop 5).drop position).dropWhile (· = ' ')).takeWhile (· ≠ ' ')) with
        | error exception => rfl
        | ok statusCode => rfl

theorem Checked.processStatusLine_eq (curl : Curl) (line : List Char)
    (otherwise : HeaderProcessingState) :
    Checked.processStatusLine curl line otherwise =
      (curl.processStatusLine line otherwise).mapError .thrown := by
  rw [Checked.processStatusLine, Curl.processStatusLine]
  split
  · rename_i hhttp
    rw [Checked.extractProtocolAndStatusCode_eq curl hhttp]
    cases curl.extractProtocolAndStatusCode line with
    | error exception => rfl
    | ok answer => rfl
  · rfl

/-! ## The headers -/

/-- The number that the search leads to is the one that follows the pattern. -/
theorem map_find {pattern : List Char} (value : List Char) :
    (find pattern value).map (fun position => value.drop (position + pattern.length)) =
      afterFirst pattern value := by
  induction value with
  | nil =>
      rw [find, afterFirst]
      split
      · simp
      · rfl
  | cons first rest ih =>
      rw [find, afterFirst]
      split
      · rw [Option.map_some, Nat.zero_add]
      · rw [← ih, Option.map_map]
        congr 1
        funext position
        rw [Function.comp_apply, Nat.add_right_comm, List.drop_succ_cons]

theorem map_or_find {first second : List Char} (hlength : second.length = first.length)
    (value : List Char) :
    ((find first value).or (find second value)).map
        (fun position => value.drop (position + first.length)) =
      (afterFirst first value).or (afterFirst second value) := by
  rw [← map_find, ← map_find, hlength]
  cases find first value with
  | none => rfl
  | some position => rfl

/-- The text of the number ends before the next comma, blank or line end. -/
theorem clip_eq (value : List Char) (position : ℕ) (wanted : Char → Bool) :
    (value.drop position).take
        ((findFirstOf wanted position value).getD value.length - position) =
      (value.drop position).takeWhile (!wanted ·) := by
  rw [findFirstOf]
  cases hfind : (value.drop position).findIdx? wanted with
  | none =>
      rw [takeWhile_of_findIdx?_none hfind, Option.map_none, Option.getD_none,
        ← List.length_drop, List.take_length]
  | some found =>
      obtain ⟨-, htake, -⟩ := take_of_findIdx? hfind
      rw [Option.map_some, Option.getD_some, Nat.add_sub_cancel_left, htake]

theorem Checked.processCacheControl_eq (curl : Curl) (hline : isCacheControl line) :
    Checked.processCacheControl curl line =
      .ok { curl with cacheControlMaxAge := (readMaxAge line).getD curl.cacheControlMaxAge } := by
  have hlength : 14 ≤ line.length := by
    simp only [isCacheControl, Bool.or_eq_true, List.isPrefixOf_iff_prefix] at hline
    rcases hline with (hline | hline) | hline
    · exact hline.length_le
    · exact hline.length_le
    · exact hline.length_le
  have hpattern : "max-age=".toList.length = 8 := rfl
  have hother : "Max-age=".toList.length = 8 := rfl
  have hor := map_or_find (hother.trans hpattern.symm) ((line.drop 14).dropWhile (· = ' '))
  rw [Checked.processCacheControl, removePrefix_ok hlength, readMaxAge, if_pos hline]
  simp only [bind, Except.bind, skipBlanksIfAny_eq]
  rw [← hor]
  cases hfind : (find "max-age=".toList ((line.drop 14).dropWhile (· = ' '))).or
      (find "Max-age=".toList ((line.drop 14).dropWhile (· = ' '))) with
  | none => rfl
  | some found =>
      have hle : found + 8 ≤ ((line.drop 14).dropWhile (· = ' ')).length := by
        rcases Option.or_eq_some_iff.mp hfind with hfirst | ⟨-, hsecond⟩
        · exact find_le hfirst
        · exact find_le hsecond
      have hkept : (fun character : Char => !decide (character ∈ ", \r\n".toList)) =
          fun character => decide (character ∉ ", \r\n".toList) := by
        funext character
        exact decide_not.symm
      simp only [substr_ok hle, clip_eq, hkept]
      simp only [Option.map_some, Option.getD_some, hpattern]
      generalize stoul _ = number
      cases number with
      | error exception => rfl
      | ok maxAge => rfl

/-- A `Location` line of a permanent redirect with nothing but blanks behind the name. -/
def BlankLocation (curl : Curl) (headerLine : List Char) : Prop :=
  curl.hdrState = .headers ∧ (curl.statusCode = 301 ∨ curl.statusCode = 308) ∧
    ("Location:".toList.isPrefixOf (stripCrLf headerLine) ||
      "location:".toList.isPrefixOf (stripCrLf headerLine)) ∧
    ∀ character ∈ (stripCrLf headerLine).drop 9, character = ' '

theorem Checked.processLocation_eq (curl : Curl)
    (hline : "Location:".toList.isPrefixOf line || "location:".toList.isPrefixOf line) :
    Checked.processLocation curl line =
      if ∀ character ∈ line.drop 9, character = ' ' then .error .emptyFront
      else .ok { curl with
        permanentRedirectUrl := String.ofList ((line.drop 9).dropWhile (· = ' ')) } := by
  have hlength : 9 ≤ line.length := by
    rw [Bool.or_eq_true, List.isPrefixOf_iff_prefix, List.isPrefixOf_iff_prefix] at hline
    rcases hline with hupper | hlower
    · exact hupper.length_le
    · exact hlower.length_le
  have hblank : (line.drop 9).dropWhile (· = ' ') = [] ↔
      ∀ character ∈ line.drop 9, character = ' ' := by
    rw [List.dropWhile_eq_nil_iff]
    simp only [decide_eq_true_eq]
  have hskip : (skipBlanks (line.drop 9) : Except HeaderFault _) =
      if (line.drop 9).dropWhile (· = ' ') = [] then .error .emptyFront
      else .ok ((line.drop 9).dropWhile (· = ' ')) := skipBlanks_eq _
  rw [Checked.processLocation, removePrefix_ok hlength]
  by_cases hall : ∀ character ∈ line.drop 9, character = ' '
  · rw [if_pos (hblank.mpr hall)] at hskip
    rw [if_pos hall]
    simp only [bind, Except.bind, hskip]
  · rw [if_neg (mt hblank.mp hall)] at hskip
    rw [if_neg hall]
    simp only [bind, Except.bind, hskip, pure, Except.pure]

theorem Checked.processHeader_eq (curl : Curl) (line : List Char) :
    Checked.processHeader curl line =
      if (curl.statusCode = 301 ∨ curl.statusCode = 308) ∧
          ("Location:".toList.isPrefixOf line || "location:".toList.isPrefixOf line) ∧
          ∀ character ∈ line.drop 9, character = ' ' then .error .emptyFront
      else .ok (curl.processHeader line) := by
  rw [Checked.processHeader]
  by_cases hempty : line = []
  · have hnone : ¬ ("Location:".toList.isPrefixOf line || "location:".toList.isPrefixOf line) := by
      rw [hempty]
      decide
    rw [if_pos hempty, if_neg fun hall => hnone hall.2.1, Curl.processHeader, if_pos hempty]
  · rw [if_neg hempty, curl.processHeader_eq hempty]
    by_cases hlocation : (curl.statusCode = 301 ∨ curl.statusCode = 308) ∧
        ("Location:".toList.isPrefixOf line || "location:".toList.isPrefixOf line)
    · have hread : readLocation curl.statusCode line =
          some (String.ofList ((line.drop 9).dropWhile (· = ' '))) := if_pos hlocation
      rw [if_pos hlocation, Checked.processLocation_eq curl hlocation.2, hread,
        readMaxAge_of_readLocation hread]
      simp only [hlocation.1, hlocation.2, true_and, Option.getD_some, Option.getD_none]
    · have hread : readLocation curl.statusCode line = none := if_neg hlocation
      rw [if_neg hlocation, if_neg (fun hall => hlocation ⟨hall.1, hall.2.1⟩ :
        ¬ ((curl.statusCode = 301 ∨ curl.statusCode = 308) ∧
          ("Location:".toList.isPrefixOf line || "location:".toList.isPrefixOf line) ∧
            ∀ character ∈ line.drop 9, character = ' ')), hread]
      by_cases hcache : isCacheControl line
      · rw [if_pos hcache, Checked.processCacheControl_eq curl hcache]
        rfl
      · rw [if_neg hcache, readMaxAge, if_neg hcache]
        rfl

open Classical in
/-- The checked function is the plain one, with one fault of the view added. -/
theorem Checked.processHeaderLine_eq (curl : Curl) (headerLine : List Char) :
    Checked.processHeaderLine curl headerLine =
      if curl.BlankLocation headerLine then .error .emptyFront
      else (curl.processHeaderLine headerLine).mapError .thrown := by
  rw [Checked.processHeaderLine, Curl.processHeaderLine, BlankLocation]
  cases hstate : curl.hdrState with
  | start =>
      rw [if_neg fun hall => HeaderProcessingState.noConfusion hall.1]
      exact Checked.processStatusLine_eq curl _ _
  | headers =>
      simp only [Checked.processHeader_eq, true_and]
      rfl
  | body =>
      rw [if_neg fun hall => HeaderProcessingState.noConfusion hall.1]
      exact Checked.processStatusLine_eq curl _ _
  | trailing =>
      rw [if_neg fun hall => HeaderProcessingState.noConfusion hall.1]
      exact Checked.processStatusLine_eq curl _ _

end Curl

/-! ## Runs of callbacks -/

/-- A text that begins with a number, after white space, that fits an `int`. -/
def IsInt (text : List Char) : Prop :=
  (scanWhole text).2 ≠ [] ∧
    -2 ^ 31 ≤ (scanWhole text).1 * digitsValue (scanWhole text).2 ∧
      (scanWhole text).1 * digitsValue (scanWhole text).2 < (2 ^ 31 : ℤ)

theorem stoi_ok_iff {text : List Char} : (∃ value, stoi text = .ok value) ↔ IsInt text := by
  simp only [stoi, IsInt]
  by_cases hdigits : (scanWhole text).2 = []
  · simp [hdigits]
  · rw [if_neg hdigits]
    split
    · rename_i hfits
      exact ⟨fun _ => ⟨hdigits, hfits⟩, fun _ => ⟨_, rfl⟩⟩
    · rename_i hlarge
      constructor
      · rintro ⟨value, hvalue⟩
        cases hvalue
      · exact fun hall => absurd hall.2 hlarge

namespace Curl

variable {curl : Curl}

/-- A status line, where one may stand, whose code is there but is no `int`. -/
def BadStatusCode (curl : Curl) (headerLine : List Char) : Prop :=
  curl.hdrState ≠ .headers ∧ "HTTP/".toList.isPrefixOf (stripCrLf headerLine) ∧
    ∃ protocol ∈ protocolOf (stripCrLf headerLine),
      statusCodeText (stripCrLf headerLine) protocol ≠ [] ∧
        ¬ IsInt (statusCodeText (stripCrLf headerLine) protocol)

/-- A line that is taken apart without a fault. -/
def Clean (curl : Curl) (headerLine : List Char) : Prop :=
  ¬ curl.BlankLocation headerLine ∧ ¬ curl.BadStatusCode headerLine

theorem extractProtocolAndStatusCode_ok_iff (curl : Curl) (line : List Char) :
    (∃ answer, curl.extractProtocolAndStatusCode line = .ok answer) ↔
      ¬ ∃ protocol ∈ protocolOf line, statusCodeText line protocol ≠ [] ∧
        ¬ IsInt (statusCodeText line protocol) := by
  rw [extractProtocolAndStatusCode]
  cases hprotocol : protocolOf line with
  | none => simp
  | some protocol =>
      simp only [Option.mem_some_iff, exists_eq_left', ← stoi_ok_iff]
      by_cases htext : statusCodeText line protocol = []
      · simp [htext]
      · rw [if_neg htext]
        cases stoi (statusCodeText line protocol) with
        | error exception =>
            have hnotInt :
                ¬ ∃ value, (Except.error exception : Except StdException ℤ) = .ok value := by
              rintro ⟨value, hvalue⟩
              cases hvalue
            constructor
            · rintro ⟨answer, hanswer⟩
              cases hanswer
            · intro hnone
              exact absurd ⟨htext, hnotInt⟩ hnone
        | ok statusCode => exact ⟨fun _ hbad => hbad.2 ⟨statusCode, rfl⟩, fun _ => ⟨_, rfl⟩⟩

theorem processStatusLine_ok_iff (curl : Curl) (line : List Char)
    (otherwise : HeaderProcessingState) :
    (∃ after, curl.processStatusLine line otherwise = .ok after) ↔
      ¬ ("HTTP/".toList.isPrefixOf line ∧ ∃ protocol ∈ protocolOf line,
        statusCodeText line protocol ≠ [] ∧ ¬ IsInt (statusCodeText line protocol)) := by
  rw [processStatusLine]
  split
  · rename_i hhttp
    rw [not_and, ← extractProtocolAndStatusCode_ok_iff curl]
    cases curl.extractProtocolAndStatusCode line with
    | error exception =>
        constructor
        · rintro ⟨after, hafter⟩
          cases hafter
        · intro hextracted
          obtain ⟨answer, hanswer⟩ := hextracted hhttp
          cases hanswer
    | ok answer => exact ⟨fun _ _ => ⟨answer, rfl⟩, fun _ => ⟨_, rfl⟩⟩
  · rename_i hhttp
    exact ⟨fun _ hboth => hhttp hboth.1, fun _ => ⟨_, rfl⟩⟩

theorem processHeaderLine_ok_iff (curl : Curl) (headerLine : List Char) :
    (∃ after, curl.processHeaderLine headerLine = .ok after) ↔
      ¬ curl.BadStatusCode headerLine := by
  rw [processHeaderLine, BadStatusCode]
  cases hstate : curl.hdrState with
  | headers => exact ⟨fun _ hbad => hbad.1 rfl, fun _ => ⟨_, rfl⟩⟩
  | start =>
      rw [processStatusLine_ok_iff]
      simp
  | body =>
      rw [processStatusLine_ok_iff]
      simp
  | trailing =>
      rw [processStatusLine_ok_iff]
      simp

namespace Checked

/-- Where no fault occurs, the callback does what the plain function does. -/
theorem headerCallback_ok {after : Curl} {size : ℕ} {buffer : List Char}
    (hcallback : headerCallback curl buffer = .ok (after, size)) :
    curl.processHeaderLine buffer = .ok after ∧ size = buffer.length := by
  rw [headerCallback, Checked.processHeaderLine_eq] at hcallback
  split at hcallback
  · cases hcallback
  · cases hline : curl.processHeaderLine buffer with
    | error exception =>
        rw [hline] at hcallback
        cases hcallback
    | ok next =>
        rw [hline] at hcallback
        cases hcallback
        exact ⟨rfl, rfl⟩

theorem headerCallback_ok_iff (curl : Curl) (buffer : List Char) :
    (∃ after, (headerCallback curl buffer).map Prod.fst = .ok after) ↔ curl.Clean buffer := by
  rw [headerCallback, Checked.processHeaderLine_eq, Clean, ← processHeaderLine_ok_iff]
  by_cases hblank : curl.BlankLocation buffer
  · rw [if_pos hblank]
    simp [hblank, bind, Except.bind, Except.map]
  · rw [if_neg hblank]
    cases curl.processHeaderLine buffer with
    | error exception => simp [bind, Except.bind, Except.map, Except.mapError]
    | ok after =>
        simp [hblank, bind, Except.bind, Except.map, Except.mapError, pure, Except.pure]

/-- The callbacks for any lines, one after another from any state, all return if and only
if each line is clean in the state that the lines before it lead to. -/
theorem headerCallbacks_return_iff (curl : Curl) (buffers : List (List Char)) :
    (∃ after, headerCallbacks curl buffers = .ok after) ↔
      EachMeets (fun current buffer => (headerCallback current buffer).map Prod.fst) Clean
        curl buffers :=
  foldlM_ok_iff headerCallback_ok_iff buffers curl

/-- A status code that is no number throws out of the callback, and the target of a
permanent redirect without a value is looked for in front of an empty view. -/
theorem headerCallbacks_fault :
    headerCallbacks (Curl.new true) ["HTTP/1.1 abc\r\n".toList] =
        .error (.thrown ⟨.invalidArgument, "stoi"⟩) ∧
      headerCallbacks (Curl.new true)
          ["HTTP/1.1 301 Moved Permanently\r\n".toList, "Location:\r\n".toList] =
        .error .emptyFront := by
  constructor
  · rfl
  · rfl

end Checked

end Curl

end Mbstf.Ingest
