import Mbstf.Ingest.HeaderTotality

/-!
# Header lines that differ in letter case

Two sequences of header lines that differ only in the case of field names, and of the
directive names of `Cache-Control`, mean the same.  The client looks for a handful of
spellings, so it reads the same from both exactly when each pair of lines is seen in one
of these spellings in both or in neither, at the same place, or the difference happens to
set what was set already.
-/

namespace Mbstf.Ingest

open Mbstf.Folds Mbstf.Session Mbstf.StringView

/-! ## Lines that mean the same -/

/-- Where a character of a `Cache-Control` value stands: in the name of a directive, in its
argument, in a quoted string of the argument, or behind a backslash in that. -/
inductive Part where
  | name
  | argument
  | quoted
  | escaped
  deriving DecidableEq

/-- Where the next character stands. -/
def Part.after (part : Part) (character : Char) : Part :=
  match part with
  | .name => if character = '=' then .argument else .name
  | .argument =>
      if character = ',' then .name else if character = '"' then .quoted else .argument
  | .quoted =>
      if character = '"' then .argument else if character = '\\' then .escaped else .quoted
  | .escaped => .quoted

/-- Two texts that differ only in the case of directive names, from some part on. -/
def VariesFrom : Part → List Char → List Char → Prop
  | _, [], [] => True
  | part, left :: lefts, right :: rights =>
      (left = right ∨ part = .name ∧ left.toLower = right.toLower) ∧
        VariesFrom (part.after left) lefts rights
  | _, _, _ => False

instance VariesFrom.decidable : ∀ part left right, Decidable (VariesFrom part left right)
  | _, [], [] => isTrue trivial
  | part, left :: lefts, _ :: rights =>
      have : Decidable (VariesFrom (part.after left) lefts rights) :=
        VariesFrom.decidable (part.after left) lefts rights
      inferInstanceAs (Decidable (_ ∧ _))
  | _, [], _ :: _ => isFalse id
  | _, _ :: _, [] => isFalse id

/-- The characters of a field name: visible ones that are no delimiters. -/
def IsToken (character : Char) : Prop :=
  33 ≤ character.toNat ∧ character.toNat < 127 ∧
    character ∉ "\"(),/:;<=>?@[\\]\x7b\x7d".toList

instance (character : Char) : Decidable (IsToken character) :=
  inferInstanceAs (Decidable (_ ∧ _))

/-- A header field. -/
structure HeaderField where
  name : List Char
  value : List Char
  hname : ∀ character ∈ name, IsToken character

/-- The header line of the field. -/
def HeaderField.line (field : HeaderField) : List Char := field.name ++ ':' :: field.value

/-- Two fields that differ only in the case of the name and, for `Cache-Control`, of the
names of directives. -/
def HeaderField.SameButCase (left right : HeaderField) : Prop :=
  left.name.map Char.toLower = right.name.map Char.toLower ∧
    if left.name.map Char.toLower = "cache-control".toList then
      VariesFrom .name left.value right.value
    else left.value = right.value

instance (left right : HeaderField) : Decidable (left.SameButCase right) :=
  inferInstanceAs (Decidable (_ ∧ _))

/-- Two header lines that are the same, or fields that differ only in case. -/
structure CasePair where
  left : List Char
  right : List Char
  hvaries : stripCrLf left = stripCrLf right ∨
    ∃ leftField rightField : HeaderField, stripCrLf left = leftField.line ∧
      stripCrLf right = rightField.line ∧ leftField.SameButCase rightField

/-! ## What is seen of a line -/

/-- Where `max-age=` is found in a line whose name is in a spelling that is looked for. -/
def maxAgePlace (line : List Char) : Option ℕ :=
  if isCacheControl line then
    (find "max-age=".toList ((line.drop 14).dropWhile (· = ' '))).or
      (find "Max-age=".toList ((line.drop 14).dropWhile (· = ' ')))
  else none

/-- The number behind the directive at a place. -/
def numberAt (line : List Char) (place : ℕ) : ℕ :=
  (stoul ((((line.drop 14).dropWhile (· = ' ')).drop (place + 8)).takeWhile
    (· ∉ ", \r\n".toList))).toOption.getD 0

namespace Curl

/-- The line is seen as the `Location` of a permanent redirect. -/
def SeesLocation (curl : Curl) (line : List Char) : Prop :=
  (curl.statusCode = 301 ∨ curl.statusCode = 308) ∧
    ("Location:".toList.isPrefixOf line || "location:".toList.isPrefixOf line)

/-- The `Location` is seen in both lines or in neither, or it gives the URL that is held. -/
def LocationAlike (curl : Curl) (left right : List Char) : Prop :=
  (curl.SeesLocation left ↔ curl.SeesLocation right) ∨
    (left.drop 9).dropWhile (· = ' ') ≠ [] ∧
      String.ofList ((left.drop 9).dropWhile (· = ' ')) = curl.permanentRedirectUrl

/-- The `max-age` is seen at the same place of both lines or in neither, or the numbers at
the two places, or the one and the number that is held, are the same. -/
def MaxAgeAlike (curl : Curl) (left right : List Char) : Prop :=
  maxAgePlace left = maxAgePlace right ∨
    ((maxAgePlace left).map (numberAt left)).getD curl.cacheControlMaxAge =
      ((maxAgePlace right).map (numberAt right)).getD curl.cacheControlMaxAge

/-- Both lines of a pair are seen alike. -/
def SeenAlike (curl : Curl) (pair : CasePair) : Prop :=
  curl.hdrState = .headers →
    curl.LocationAlike (stripCrLf pair.left) (stripCrLf pair.right) ∧
      curl.MaxAgeAlike (stripCrLf pair.left) (stripCrLf pair.right)

end Curl

/-! ## Letter case -/

theorem eq_of_toLower_eq {character other : Char} (hother : other.toNat < 97)
    (hlower : character.toLower = other) : character = other := by
  rw [Char.toLower] at hlower
  split at hlower
  · rename_i hupper
    subst hlower
    have hlow : 65 ≤ character.val.toNat := hupper.1
    have hhigh : character.val.toNat ≤ 90 := hupper.2
    have hsum : (character.val + ('a'.val - 'A'.val)).toNat = character.val.toNat + 32 := by
      rw [UInt32.toNat_add]
      have hshift : ('a'.val - 'A'.val).toNat = 32 := rfl
      omega
    have hlarge : 97 ≤ (character.val + ('a'.val - 'A'.val)).toNat := by omega
    exact absurd hother (not_lt.mpr hlarge)
  · exact hlower

/-- A character that is no letter stands in both texts or in neither. -/
theorem eq_iff_of_toLower_eq {left right other : Char} (hother : other.toNat < 65)
    (hsame : left = right ∨ left.toLower = right.toLower) : left = other ↔ right = other := by
  have hfixed : other.toLower = other := by
    rw [Char.toLower]
    split
    · rename_i hupper
      have hlow : 65 ≤ other.val.toNat := hupper.1
      exact absurd hother (not_lt.mpr hlow)
    · rfl
  rcases hsame with rfl | hlower
  · exact Iff.rfl
  · constructor
    · rintro rfl
      exact eq_of_toLower_eq (by omega) (hlower.symm.trans hfixed)
    · rintro rfl
      exact eq_of_toLower_eq (by omega) (hlower.trans hfixed)

namespace VariesFrom

variable {part : Part} {left right : List Char}

theorem same (hpart : part ≠ .name) {first second : Char} {lefts rights : List Char}
    (hvaries : VariesFrom part (first :: lefts) (second :: rights)) : first = second := by
  rcases hvaries.1 with heq | ⟨hname, -⟩
  · exact heq
  · exact absurd hname hpart

theorem drop (hvaries : VariesFrom part left right) (count : ℕ) :
    ∃ later, VariesFrom later (left.drop count) (right.drop count) := by
  induction count generalizing part left right with
  | zero => exact ⟨part, hvaries⟩
  | succ count ih =>
      cases left with
      | nil =>
          cases right with
          | nil => exact ⟨part, trivial⟩
          | cons second rights => exact absurd hvaries id
      | cons first lefts =>
          cases right with
          | nil => exact absurd hvaries id
          | cons second rights => exact ih hvaries.2

/-- Behind an equals sign no name stands. -/
theorem behind_equals {lefts rights : List Char}
    (hvaries : VariesFrom part ('=' :: lefts) rights) :
    ∃ later, later ≠ .name ∧ VariesFrom later lefts rights.tail := by
  cases rights with
  | nil => exact absurd hvaries id
  | cons second rights =>
      refine ⟨part.after '=', ?_, hvaries.2⟩
      cases part with
      | name => decide
      | argument => decide
      | quoted => decide
      | escaped => decide

/-- Up to the next comma nothing varies where no name stands. -/
theorem takeWhile_eq {keep : Char → Bool} (hcomma : keep ',' = false) (hpart : part ≠ .name)
    (hvaries : VariesFrom part left right) : left.takeWhile keep = right.takeWhile keep := by
  induction left generalizing part right with
  | nil =>
      cases right with
      | nil => rfl
      | cons second rights => exact absurd hvaries id
  | cons first lefts ih =>
      cases right with
      | nil => exact absurd hvaries id
      | cons second rights =>
          obtain rfl := hvaries.same hpart
          rw [List.takeWhile_cons, List.takeWhile_cons]
          by_cases hkeep : keep first
          · -- The character is no comma, so no name begins behind it.
            have hne : first ≠ ',' := by
              rintro rfl
              rw [hcomma] at hkeep
              cases hkeep
            have hafter : part.after first ≠ .name := by
              cases part with
              | name => exact absurd rfl hpart
              | argument =>
                  rw [Part.after, if_neg hne]
                  split
                  · decide
                  · decide
              | quoted =>
                  rw [Part.after]
                  split
                  · decide
                  · split
                    · decide
                    · decide
              | escaped =>
                  rw [Part.after]
                  decide
            rw [if_pos hkeep, if_pos hkeep, ih hafter hvaries.2]
          · rw [if_neg hkeep, if_neg hkeep]

/-- Blanks in front are skipped in both texts. -/
theorem dropWhile_blank (hvaries : VariesFrom .name left right) :
    VariesFrom .name (left.dropWhile (· = ' ')) (right.dropWhile (· = ' ')) := by
  induction left generalizing right with
  | nil =>
      cases right with
      | nil => trivial
      | cons second rights => exact absurd hvaries id
  | cons first lefts ih =>
      cases right with
      | nil => exact absurd hvaries id
      | cons second rights =>
          have hsame : first = ' ' ↔ second = ' ' :=
            eq_iff_of_toLower_eq (by decide) (hvaries.1.imp_right And.right)
          rw [List.dropWhile_cons, List.dropWhile_cons]
          by_cases hblank : first = ' '
          · obtain rfl := hsame.mp hblank
            subst hblank
            simpa using ih hvaries.2
          · have hother : second ≠ ' ' := mt hsame.mpr hblank
            rw [if_neg (by simp [hblank]), if_neg (by simp [hother])]
            exact hvaries

end VariesFrom

namespace HeaderField

variable (field : HeaderField) {left right : HeaderField}

theorem not_mem_name : ':' ∉ field.name := by
  intro hcolon
  exact absurd (field.hname ':' hcolon) (by rw [IsToken]; decide)

/-- A line begins with a name and a colon when the name of its field is that name. -/
theorem isPrefixOf_line_iff (spelling : List Char) (hspelling : ':' ∉ spelling) :
    (spelling ++ [':']).isPrefixOf field.line ↔ field.name = spelling :=
  StringView.isPrefixOf_name_iff hspelling field.not_mem_name field.value

theorem isCacheControl_line_iff : isCacheControl field.line ↔
    (field.name = "Cache-Control".toList ∨ field.name = "cache-control".toList) ∨
      field.name = "Cache-control".toList := by
  have hfirst : "Cache-Control:".toList.isPrefixOf field.line ↔
      field.name = "Cache-Control".toList :=
    field.isPrefixOf_line_iff "Cache-Control".toList (by decide +kernel)
  have hsecond : "cache-control:".toList.isPrefixOf field.line ↔
      field.name = "cache-control".toList :=
    field.isPrefixOf_line_iff "cache-control".toList (by decide +kernel)
  have hthird : "Cache-control:".toList.isPrefixOf field.line ↔
      field.name = "Cache-control".toList :=
    field.isPrefixOf_line_iff "Cache-control".toList (by decide +kernel)
  rw [isCacheControl, Bool.or_eq_true, Bool.or_eq_true, hfirst, hsecond, hthird]

theorem seesLocation_line_iff (curl : Curl) : curl.SeesLocation field.line ↔
    (curl.statusCode = 301 ∨ curl.statusCode = 308) ∧
      (field.name = "Location".toList ∨ field.name = "location".toList) := by
  have hupper : "Location:".toList.isPrefixOf field.line ↔ field.name = "Location".toList :=
    field.isPrefixOf_line_iff "Location".toList (by decide +kernel)
  have hlower : "location:".toList.isPrefixOf field.line ↔ field.name = "location".toList :=
    field.isPrefixOf_line_iff "location".toList (by decide +kernel)
  rw [Curl.SeesLocation, Bool.or_eq_true, hupper, hlower]

theorem toLower_name_of_isCacheControl (hcache : isCacheControl field.line) :
    field.name.map Char.toLower = "cache-control".toList := by
  rcases field.isCacheControl_line_iff.mp hcache with (hspelled | hspelled) | hspelled
  · rw [hspelled]
    decide +kernel
  · rw [hspelled]
    decide +kernel
  · rw [hspelled]
    decide +kernel

theorem toLower_name_of_seesLocation {curl : Curl} (hsees : curl.SeesLocation field.line) :
    field.name.map Char.toLower = "location".toList := by
  rcases (field.seesLocation_line_iff curl).mp hsees with ⟨-, hspelled | hspelled⟩
  · rw [hspelled]
    decide +kernel
  · rw [hspelled]
    decide +kernel

/-- A `Location` has no `max-age`, whatever its value says. -/
theorem readMaxAge_line_of_location (hname : field.name.map Char.toLower = "location".toList) :
    readMaxAge field.line = none := by
  apply if_neg
  intro hcache
  rw [field.toLower_name_of_isCacheControl hcache] at hname
  exact absurd hname (by decide +kernel)

theorem line_ne_nil : field.line ≠ [] := by
  simp [line]

/-- A field is no status line. -/
theorem not_http_line : "HTTP/".toList.isPrefixOf field.line = false := by
  have hslash : '/' ∉ field.name := by
    intro hin
    exact absurd (field.hname '/' hin) (by rw [IsToken]; decide)
  have hhttp : '/' ∈ "HTTP/".toList ∧ ':' ∉ "HTTP/".toList := by decide +kernel
  rw [Bool.eq_false_iff, ne_eq, List.isPrefixOf_iff_prefix]
  rintro ⟨rest, hrest⟩
  rw [line] at hrest
  rcases List.append_eq_append_iff.mp hrest with ⟨inside, hname, -⟩ | ⟨behind, hprotocol, hcolon⟩
  · exact hslash (hname ▸ List.mem_append_left _ hhttp.1)
  · cases behind with
    | nil =>
        rw [List.append_nil] at hprotocol
        exact hslash (hprotocol ▸ hhttp.1)
    | cons first behind =>
        obtain rfl : ':' = first := (List.cons.inj hcolon).1
        exact hhttp.2 (hprotocol ▸ List.mem_append_right _ List.mem_cons_self)

/-- What follows the colon. -/
theorem drop_line {count : ℕ} (hcount : field.name.length = count) :
    field.line.drop (count + 1) = field.value := by
  rw [line, List.drop_append, List.drop_eq_nil_of_le (by omega), hcount,
    Nat.add_sub_cancel_left]
  rfl

theorem length_name {lower : List Char} (hname : field.name.map Char.toLower = lower) :
    field.name.length = lower.length := by
  rw [← hname, List.length_map]

end HeaderField

/-! ## One pair of lines -/

/-- The number that is read is the one at the place. -/
theorem readMaxAge_eq (line : List Char) :
    readMaxAge line = (maxAgePlace line).map (numberAt line) := by
  have hpattern : "max-age=".toList.length = 8 := rfl
  have hother : "Max-age=".toList.length = 8 := rfl
  have hor := Curl.map_or_find (hother.trans hpattern.symm) ((line.drop 14).dropWhile (· = ' '))
  rw [readMaxAge, maxAgePlace]
  split
  · dsimp only
    rw [← hor, Option.map_map, hpattern]
    congr 1
    funext place
    rw [Function.comp_apply, numberAt]
    generalize stoul _ = number
    cases number with
    | error exception => rfl
    | ok maxAge => rfl
  · rfl

/-- In front of the number there is an equals sign. -/
theorem equals_at_place {line : List Char} {place : ℕ} (hplace : maxAgePlace line = some place) :
    ((line.drop 14).dropWhile (· = ' ')).drop (place + 7) =
      '=' :: ((line.drop 14).dropWhile (· = ' ')).drop (place + 8) := by
  have hspelled : ∀ text : List Char,
      "max-age=".toList <+: text ∨ "Max-age=".toList <+: text →
        text.drop 7 = '=' :: text.drop 8 := by
    rintro text (⟨rest, rfl⟩ | ⟨rest, rfl⟩)
    · rfl
    · rfl
  rw [maxAgePlace, Option.ite_none_right_eq_some] at hplace
  have hfound := hspelled (((line.drop 14).dropWhile (· = ' ')).drop place) <| by
    rcases Option.or_eq_some_iff.mp hplace.2 with hfirst | ⟨-, hsecond⟩
    · exact Or.inl (isPrefixOf_drop_find hfirst)
    · exact Or.inr (isPrefixOf_drop_find hsecond)
  rw [List.drop_drop, List.drop_drop] at hfound
  exact hfound

namespace HeaderField.SameButCase

variable {left right : HeaderField}

/-- The same place gives the same number. -/
theorem numberAt_eq (hsame : left.SameButCase right)
    (hname : left.name.map Char.toLower = "cache-control".toList) {place : ℕ}
    (hplace : maxAgePlace left.line = some place) :
    numberAt left.line place = numberAt right.line place := by
  have hvaries := hsame.2
  rw [if_pos hname] at hvaries
  have hdropLeft : left.line.drop 14 = left.value := left.drop_line (left.length_name hname)
  have hdropRight : right.line.drop 14 = right.value :=
    right.drop_line (right.length_name (hsame.1.symm.trans hname))
  have hequals := equals_at_place hplace
  rw [hdropLeft] at hequals
  obtain ⟨part, hpart⟩ := hvaries.dropWhile_blank.drop (place + 7)
  rw [hequals] at hpart
  obtain ⟨later, hlater, hbehind⟩ := hpart.behind_equals
  rw [List.tail_drop] at hbehind
  have hcut : ((left.value.dropWhile (· = ' ')).drop (place + 8)).takeWhile
        (· ∉ ", \r\n".toList) =
      ((right.value.dropWhile (· = ' ')).drop (place + 7 + 1)).takeWhile (· ∉ ", \r\n".toList) :=
    hbehind.takeWhile_eq (by decide +kernel) hlater
  rw [numberAt, numberAt, hdropLeft, hdropRight, hcut]

theorem maxAgeAlike_iff (hsame : left.SameButCase right) (curl : Curl) :
    curl.MaxAgeAlike left.line right.line ↔
      (readMaxAge left.line).getD curl.cacheControlMaxAge =
        (readMaxAge right.line).getD curl.cacheControlMaxAge := by
  rw [Curl.MaxAgeAlike, readMaxAge_eq, readMaxAge_eq, or_iff_right_iff_imp]
  intro hplaces
  cases hplace : maxAgePlace left.line with
  | none => rw [← hplaces, hplace]; rfl
  | some place =>
      have hcache := (Option.ite_none_right_eq_some.mp hplace).1
      have hname := left.toLower_name_of_isCacheControl hcache
      rw [← hplaces, hplace, Option.map_some, Option.map_some, hsame.numberAt_eq hname hplace]

end HeaderField.SameButCase

namespace Curl

variable {line : List Char}

theorem Checked.processHeader_of_sees {curl : Curl} (hsees : curl.SeesLocation line) :
    Checked.processHeader curl line =
      if (line.drop 9).dropWhile (· = ' ') = [] then .error .emptyFront
      else .ok { curl with
        permanentRedirectUrl := String.ofList ((line.drop 9).dropWhile (· = ' ')) } := by
  have hne : line ≠ [] := by
    rintro rfl
    exact absurd hsees.2 (by decide)
  have hblank : (line.drop 9).dropWhile (· = ' ') = [] ↔
      ∀ character ∈ line.drop 9, character = ' ' := by
    rw [List.dropWhile_eq_nil_iff]
    simp only [decide_eq_true_eq]
  rw [SeesLocation] at hsees
  rw [Checked.processHeader, if_neg hne, if_pos hsees, Checked.processLocation_eq curl hsees.2]
  exact if_congr hblank.symm rfl rfl

theorem Checked.processHeader_of_not_sees {curl : Curl} (hne : line ≠ [])
    (hsees : ¬ curl.SeesLocation line) :
    Checked.processHeader curl line =
      .ok { curl with
        cacheControlMaxAge := (readMaxAge line).getD curl.cacheControlMaxAge } := by
  rw [SeesLocation] at hsees
  rw [Checked.processHeader, if_neg hne, if_neg hsees]
  by_cases hcache : isCacheControl line
  · rw [if_pos hcache, Checked.processCacheControl_eq curl hcache]
  · rw [if_neg hcache, readMaxAge, if_neg hcache]
    rfl

/-- What is held already is not changed by a redirect to it. -/
theorem redirect_eq_iff (curl : Curl) (url : List Char) :
    (if url = [] then .error .emptyFront
      else .ok { curl with permanentRedirectUrl := String.ofList url } :
        Except HeaderFault Curl) = .ok curl ↔
      url ≠ [] ∧ String.ofList url = curl.permanentRedirectUrl := by
  by_cases hempty : url = []
  · simp [hempty]
  · rw [if_neg hempty, Except.ok.injEq]
    constructor
    · intro hcurl
      exact ⟨hempty, congrArg Curl.permanentRedirectUrl hcurl⟩
    · rintro ⟨-, hurl⟩
      rw [hurl]

end Curl

/-- A `Location` that is not seen changes nothing. -/
theorem HeaderField.processHeader_of_location {curl : Curl} (field : HeaderField)
    (hname : field.name.map Char.toLower = "location".toList)
    (hsees : ¬ curl.SeesLocation field.line) :
    Curl.Checked.processHeader curl field.line = .ok curl := by
  rw [Curl.Checked.processHeader_of_not_sees field.line_ne_nil hsees,
    field.readMaxAge_line_of_location hname]
  rfl

namespace HeaderField.SameButCase

variable {left right : HeaderField}

/-- The values of two `Location` fields are the same. -/
theorem drop_line_eq (hsame : left.SameButCase right)
    (hname : left.name.map Char.toLower = "location".toList) :
    left.line.drop 9 = right.line.drop 9 := by
  have hvalue := hsame.2
  rw [if_neg (by rw [hname]; decide +kernel)] at hvalue
  have hdropLeft : left.line.drop 9 = left.value := left.drop_line (left.length_name hname)
  have hdropRight : right.line.drop 9 = right.value :=
    right.drop_line (right.length_name (hsame.1.symm.trans hname))
  rw [hdropLeft, hdropRight, hvalue]

theorem processHeader_eq_iff_of_location (hsame : left.SameButCase right)
    (hname : left.name.map Char.toLower = "location".toList) (curl : Curl) :
    Curl.Checked.processHeader curl left.line = Curl.Checked.processHeader curl right.line ↔
      curl.LocationAlike left.line right.line ∧ curl.MaxAgeAlike left.line right.line := by
  have hnameRight := hsame.1.symm.trans hname
  have htext := hsame.drop_line_eq hname
  have hage : curl.MaxAgeAlike left.line right.line := by
    rw [hsame.maxAgeAlike_iff, left.readMaxAge_line_of_location hname,
      right.readMaxAge_line_of_location hnameRight]
  rw [and_iff_left hage, Curl.LocationAlike]
  by_cases hleft : curl.SeesLocation left.line
  · rw [Curl.Checked.processHeader_of_sees hleft]
    by_cases hright : curl.SeesLocation right.line
    · rw [Curl.Checked.processHeader_of_sees hright, htext]
      exact iff_of_true rfl (Or.inl (iff_of_true hleft hright))
    · rw [right.processHeader_of_location hnameRight hright, Curl.redirect_eq_iff, htext]
      simp [hleft, hright]
  · rw [left.processHeader_of_location hname hleft]
    by_cases hright : curl.SeesLocation right.line
    · rw [Curl.Checked.processHeader_of_sees hright, eq_comm, Curl.redirect_eq_iff, htext]
      simp [hleft, hright]
    · rw [right.processHeader_of_location hnameRight hright]
      exact iff_of_true rfl (Or.inl (iff_of_false hleft hright))

theorem processHeader_eq_iff_of_not_location (hsame : left.SameButCase right)
    (hname : left.name.map Char.toLower ≠ "location".toList) (curl : Curl) :
    Curl.Checked.processHeader curl left.line = Curl.Checked.processHeader curl right.line ↔
      curl.LocationAlike left.line right.line ∧ curl.MaxAgeAlike left.line right.line := by
  have hleft : ¬ curl.SeesLocation left.line := mt left.toLower_name_of_seesLocation hname
  have hright : ¬ curl.SeesLocation right.line :=
    mt right.toLower_name_of_seesLocation (hsame.1 ▸ hname)
  have hlocation : curl.LocationAlike left.line right.line :=
    Or.inl (iff_of_false hleft hright)
  rw [Curl.Checked.processHeader_of_not_sees left.line_ne_nil hleft,
    Curl.Checked.processHeader_of_not_sees right.line_ne_nil hright, hsame.maxAgeAlike_iff,
    and_iff_right hlocation]
  constructor
  · intro heq
    exact congrArg Curl.cacheControlMaxAge (Except.ok.inj heq)
  · intro hnumbers
    rw [hnumbers]

/-- Two fields among the headers lead to the same state exactly when they are seen alike. -/
theorem processHeader_eq_iff (hsame : left.SameButCase right) (curl : Curl) :
    Curl.Checked.processHeader curl left.line = Curl.Checked.processHeader curl right.line ↔
      curl.LocationAlike left.line right.line ∧ curl.MaxAgeAlike left.line right.line := by
  by_cases hname : left.name.map Char.toLower = "location".toList
  · exact hsame.processHeader_eq_iff_of_location hname curl
  · exact hsame.processHeader_eq_iff_of_not_location hname curl

end HeaderField.SameButCase

/-! ## Sequences of lines -/

namespace CasePair

/-- A pair of lines leads from one state to one state exactly when it is seen alike. -/
theorem processHeaderLine_eq_iff (curl : Curl) (pair : CasePair) :
    Curl.Checked.processHeaderLine curl pair.left =
      Curl.Checked.processHeaderLine curl pair.right ↔ curl.SeenAlike pair := by
  rw [Curl.Checked.processHeaderLine, Curl.Checked.processHeaderLine, Curl.SeenAlike]
  rcases pair.hvaries with heq | ⟨leftField, rightField, hleft, hright, hsame⟩
  · rw [heq]
    exact iff_of_true rfl fun _ => ⟨Or.inl Iff.rfl, Or.inl rfl⟩
  · -- Where a status line may stand, both fields are just no status line.
    have hstatus : ∀ otherwise, Curl.Checked.processStatusLine curl leftField.line otherwise =
        Curl.Checked.processStatusLine curl rightField.line otherwise := by
      intro otherwise
      rw [Curl.Checked.processStatusLine, Curl.Checked.processStatusLine,
        leftField.not_http_line, rightField.not_http_line]
      rfl
    rw [hleft, hright]
    cases hstate : curl.hdrState with
    | headers => simpa using hsame.processHeader_eq_iff curl
    | start => exact iff_of_true (hstatus _) HeaderProcessingState.noConfusion
    | body => exact iff_of_true (hstatus _) HeaderProcessingState.noConfusion
    | trailing => exact iff_of_true (hstatus _) HeaderProcessingState.noConfusion

end CasePair

/-- Two sequences of lines that differ only in case lead from any state to the same result,
line by line, if and only if each pair of lines is seen alike in the state that the lines
before it lead to. -/
theorem sameResults_iff_seenAlike (curl : Curl) (pairs : List CasePair) :
    (∀ taken, taken <+: pairs →
      (taken.map CasePair.left).foldlM Curl.Checked.processHeaderLine curl =
        (taken.map CasePair.right).foldlM Curl.Checked.processHeaderLine curl) ↔
      EachMeets (fun current pair => Curl.Checked.processHeaderLine current pair.left)
        Curl.SeenAlike curl pairs := by
  induction pairs generalizing curl with
  | nil =>
      refine iff_of_true (fun taken htaken => ?_) trivial
      rw [List.prefix_nil.mp htaken]
      rfl
  | cons pair pairs ih =>
      have hbind : ∀ taken : List CasePair,
          ((pair :: taken).map CasePair.left).foldlM Curl.Checked.processHeaderLine curl =
              (Curl.Checked.processHeaderLine curl pair.left >>= fun next =>
                (taken.map CasePair.left).foldlM Curl.Checked.processHeaderLine next) ∧
            ((pair :: taken).map CasePair.right).foldlM Curl.Checked.processHeaderLine curl =
              (Curl.Checked.processHeaderLine curl pair.right >>= fun next =>
                (taken.map CasePair.right).foldlM Curl.Checked.processHeaderLine next) :=
        fun taken => ⟨rfl, rfl⟩
      rw [EachMeets, ← CasePair.processHeaderLine_eq_iff]
      constructor
      · intro hall
        have hfirst : Curl.Checked.processHeaderLine curl pair.left =
            Curl.Checked.processHeaderLine curl pair.right := by
          simpa using hall [pair] (List.prefix_append [pair] pairs)
        refine ⟨hfirst, fun next hnext => (ih next).mp fun taken htaken => ?_⟩
        have hlater := hall (pair :: taken) (List.cons_prefix_cons.mpr ⟨rfl, htaken⟩)
        rw [(hbind taken).1, (hbind taken).2, ← hfirst, hnext] at hlater
        exact hlater
      · rintro ⟨hfirst, hrest⟩ taken htaken
        cases taken with
        | nil => rfl
        | cons head taken =>
            obtain ⟨rfl, hbehind⟩ := List.cons_prefix_cons.mp htaken
            rw [(hbind taken).1, (hbind taken).2, ← hfirst]
            cases hnext : Curl.Checked.processHeaderLine curl head.left with
            | error fault => rfl
            | ok next => exact (ih next).mpr (hrest next hnext) taken hbehind

/-- A field from its two parts. -/
def fieldOf (name value : String)
    (hname : name.toList.all fun character => IsToken character) : HeaderField where
  name := name.toList
  value := value.toList
  hname := fun character hin => of_decide_eq_true (List.all_eq_true.mp hname character hin)

/-- The same line twice. -/
def samePair (line : String) : CasePair where
  left := line.toList
  right := line.toList
  hvaries := .inl rfl

def locationPair : CasePair where
  left := "Location: http://example.com/b\r\n".toList
  right := "LOCATION: http://example.com/b\r\n".toList
  hvaries := .inr ⟨fieldOf "Location" " http://example.com/b" (by decide +kernel),
    fieldOf "LOCATION" " http://example.com/b" (by decide +kernel), by decide +kernel,
    by decide +kernel, by decide +kernel⟩

def cacheControlPair : CasePair where
  left := "Cache-Control: max-age=60\r\n".toList
  right := "CACHE-CONTROL: max-age=60\r\n".toList
  hvaries := .inr ⟨fieldOf "Cache-Control" " max-age=60" (by decide +kernel),
    fieldOf "CACHE-CONTROL" " max-age=60" (by decide +kernel), by decide +kernel,
    by decide +kernel, by decide +kernel⟩

def maxAgePair : CasePair where
  left := "Cache-Control: max-age=60\r\n".toList
  right := "Cache-Control: MAX-AGE=60\r\n".toList
  hvaries := .inr ⟨fieldOf "Cache-Control" " max-age=60" (by decide +kernel),
    fieldOf "Cache-Control" " MAX-AGE=60" (by decide +kernel), by decide +kernel,
    by decide +kernel, by decide +kernel⟩

/-- The redirect URL and the `max-age` that a sequence of lines leaves in a new object. -/
def leaves (lines : List (List Char)) : Except HeaderFault (String × ℕ) :=
  (lines.foldlM Curl.Checked.processHeaderLine (.new true)).map fun curl =>
    (curl.permanentRedirectUrl, curl.cacheControlMaxAge)

/-- A redirect is missed under the name in capitals, and so is a `max-age`, under the name
of the field or of the directive in capitals. -/
theorem capitals_are_missed :
    (leaves ([samePair "HTTP/1.1 301 Moved Permanently\r\n", locationPair].map CasePair.left) =
        .ok ("http://example.com/b", 0) ∧
      leaves ([samePair "HTTP/1.1 301 Moved Permanently\r\n", locationPair].map CasePair.right) =
        .ok ("", 0)) ∧
    (leaves ([samePair "HTTP/1.1 200 OK\r\n", cacheControlPair].map CasePair.left) =
        .ok ("", 60) ∧
      leaves ([samePair "HTTP/1.1 200 OK\r\n", cacheControlPair].map CasePair.right) =
        .ok ("", 0)) ∧
    (leaves ([samePair "HTTP/1.1 200 OK\r\n", maxAgePair].map CasePair.left) = .ok ("", 60) ∧
      leaves ([samePair "HTTP/1.1 200 OK\r\n", maxAgePair].map CasePair.right) =
        .ok ("", 0)) := by
  decide +kernel

end Mbstf.Ingest
