import Mbstf.Core.StringView
import Mbstf.Ingest.PullIngester

/-!
# Which redirects are permanent

A fetch may be redirected several times, and only what an initial run of permanent
redirects leads to may be used in place of the requested URL.  The client keeps the
target of the last permanent redirect it has read, wherever in the chain that stands.
-/

namespace Mbstf.Ingest

open Mbstf.Folds Mbstf.Objects Mbstf.Session

/-! ## Chains of redirects -/

/-- The optional white space of a header field. -/
def IsBlank (character : Char) : Prop := character = ' ' ∨ character = '\t'

instance (character : Char) : Decidable (IsBlank character) :=
  inferInstanceAs (Decidable (_ ∨ _))

/-- A `Location` field as a response carries it. -/
structure LocationField where
  name : List Char
  blank : List Char
  value : List Char
  trailing : List Char
  hname : name.map Char.toLower = "location".toList
  hblank : ∀ character ∈ blank, IsBlank character
  htrailing : ∀ character ∈ trailing, IsBlank character
  hvalue : value ≠ []
  hfirst : ∀ character ∈ value.head?, ¬ IsBlank character
  hlast : ∀ character ∈ value.getLast?, ¬ IsBlank character

namespace LocationField

/-- The header line of the field. -/
def line (field : LocationField) : List Char :=
  field.name ++ ':' :: (field.blank ++ field.value ++ field.trailing)

/-- The name is in one of the two spellings that are looked for. -/
def Recognised (field : LocationField) : Prop :=
  field.name = "Location".toList ∨ field.name = "location".toList

instance (field : LocationField) : Decidable field.Recognised :=
  inferInstanceAs (Decidable (_ ∨ _))

/-- Nothing but spaces around the value, and these in front of it only. -/
def Plain (field : LocationField) : Prop :=
  (∀ character ∈ field.blank, character = ' ') ∧ field.trailing = []

instance (field : LocationField) : Decidable field.Plain :=
  inferInstanceAs (Decidable (_ ∧ _))

end LocationField

/-- A header line with the name of the field, in any spelling. -/
def hasLocationName (line : List Char) : Bool :=
  (line.take 9).map Char.toLower = "location:".toList

/-- A response of a chain, with its `Location` field, if any. -/
structure Hop where
  response : Response
  location : Option LocationField
  hlocation : (response.headers.map stripCrLf).filter hasLocationName =
    (location.map LocationField.line).toList

namespace Hop

/-- An informational response, which comes before the final response to a request. -/
def IsInterim (hop : Hop) : Prop := 100 ≤ hop.response.statusCode ∧ hop.response.statusCode < 200

def IsPermanent (hop : Hop) : Prop :=
  hop.response.statusCode = 301 ∨ hop.response.statusCode = 308

instance (hop : Hop) : Decidable hop.IsInterim := inferInstanceAs (Decidable (_ ∧ _))

instance (hop : Hop) : Decidable hop.IsPermanent := inferInstanceAs (Decidable (_ ∨ _))

/-- The target of a permanent redirect. -/
def permanentLocation (hop : Hop) : Option LocationField :=
  if hop.IsPermanent then hop.location else none

end Hop

/-- The longest initial run of permanent redirects, interim responses left aside. -/
def initialRun (hops : List Hop) : List LocationField :=
  (((hops.filter fun hop => ¬ hop.IsInterim).map Hop.permanentLocation).takeWhile
    Option.isSome).reduceOption

/-- The permanent redirects of the whole chain whose name is spelt as it is looked for. -/
def recognisedRedirects (hops : List Hop) : List LocationField :=
  (hops.filterMap Hop.permanentLocation).filter fun field => field.Recognised

/-- How a transfer ends after its header lines. -/
inductive Ending where
  | completed (etag : Option String) (effectiveUrl : String)
  | failed (timedOut : Bool)

/-- One `get` on a handle, with the responses that it delivers as header lines. -/
structure RedirectedFetch where
  curl : Curl
  earlier : List Hop
  final : Hop
  ending : Ending
  body : ObjectData
  hhandle : curl.hasHandle = true

namespace RedirectedFetch

def hops (fetch : RedirectedFetch) : List Hop := fetch.earlier ++ [fetch.final]

def transfer (fetch : RedirectedFetch) : Transfer :=
  match fetch.ending with
  | .completed etag effectiveUrl => .completed {
      earlier := fetch.earlier.map Hop.response
      final := fetch.final.response
      etag := etag
      effectiveUrl := effectiveUrl
      body := fetch.body }
  | .failed timedOut =>
      .failed ((fetch.hops.map Hop.response).flatMap Response.lines) fetch.body timedOut

/-- The target of the last redirect in the initial run, and nothing if there is none. -/
def permanentUrl (fetch : RedirectedFetch) : String :=
  ((initialRun fetch.hops).getLast?.map fun field => String.ofList field.value).getD ""

/-- The redirect URL that is left is the one of the initial run, and so is the URL that an
object is said to be fetched from. -/
def ReallyPermanent (fetch : RedirectedFetch) : Prop :=
  ∃ after count, fetch.curl.get fetch.transfer = .ok (after, count) ∧
    after.permanentRedirectUrl = fetch.permanentUrl ∧
      ∀ item, PullObjectIngester.fetchedUrl item after =
        if fetch.permanentUrl = "" then item.url else fetch.permanentUrl

/-- The last redirect that is recognised is plainly written and has the target of the last
redirect in the initial run, or there is no redirect of either kind. -/
def LastIsOfRun (fetch : RedirectedFetch) : Prop :=
  match (recognisedRedirects fetch.hops).getLast?, (initialRun fetch.hops).getLast? with
  | none, none => True
  | some read, some last => read.Plain ∧ read.value = last.value
  | _, _ => False

end RedirectedFetch

/-! ## What the client reads -/

namespace LocationField

variable (field : LocationField)

theorem length_name : field.name.length = 8 := by
  have hlengths := congrArg List.length field.hname
  simpa using hlengths

theorem not_mem_name : ':' ∉ field.name := by
  intro hcolon
  have hlower : Char.toLower ':' ∈ "location".toList := by
    rw [← field.hname]
    exact List.mem_map_of_mem hcolon
  exact absurd hlower (by decide +kernel)

/-- The text that the client takes for the URL. -/
def read : List Char :=
  (field.blank ++ field.value ++ field.trailing).dropWhile (· = ' ')

theorem readLocation_line (statusCode : ℤ) :
    readLocation statusCode field.line =
      if (statusCode = 301 ∨ statusCode = 308) ∧ field.Recognised then
        some (String.ofList field.read)
      else none := by
  have hdrop : field.line.drop 9 = field.blank ++ field.value ++ field.trailing := by
    rw [line, List.drop_append, List.drop_eq_nil_of_le (by rw [length_name]; decide),
      length_name]
    rfl
  have hupper : "Location:".toList.isPrefixOf field.line = true ↔
      field.name = "Location".toList :=
    have hspelling : ':' ∉ "Location".toList := by decide +kernel
    StringView.isPrefixOf_name_iff hspelling field.not_mem_name _
  have hlower : "location:".toList.isPrefixOf field.line = true ↔
      field.name = "location".toList :=
    have hspelling : ':' ∉ "location".toList := by decide +kernel
    StringView.isPrefixOf_name_iff hspelling field.not_mem_name _
  simp only [readLocation, Bool.or_eq_true, hupper, hlower, hdrop, read]
  exact if_congr Iff.rfl rfl rfl

/-- Behind spaces the value is read, and what follows it. -/
theorem read_of_spaces (hspaces : ∀ character ∈ field.blank, character = ' ') :
    field.read = field.value ++ field.trailing := by
  have hdrop : field.blank.dropWhile (· = ' ') = [] :=
    List.dropWhile_eq_nil_iff.mpr fun character hin => decide_eq_true (hspaces character hin)
  rw [read, List.append_assoc, List.dropWhile_append, hdrop, List.isEmpty_nil, if_pos rfl]
  cases hvalue : field.value with
  | nil => exact absurd hvalue field.hvalue
  | cons first rest =>
      have hfirst : ¬ IsBlank first := field.hfirst first (by rw [hvalue]; rfl)
      have hspace : first ≠ ' ' := fun heq => hfirst (Or.inl heq)
      rw [List.cons_append, List.dropWhile_cons, if_neg (by simp [hspace])]

/-- Otherwise the text that is read begins with a blank. -/
theorem read_of_tab (htab : ¬ ∀ character ∈ field.blank, character = ' ') :
    ∃ character ∈ field.read.head?, IsBlank character := by
  rw [read, List.append_assoc, List.dropWhile_append]
  cases hdrop : field.blank.dropWhile (· = ' ') with
  | nil =>
      refine absurd (fun character hin => ?_) htab
      exact of_decide_eq_true (List.dropWhile_eq_nil_iff.mp hdrop character hin)
  | cons first rest =>
      refine ⟨first, rfl, field.hblank first ?_⟩
      have hsuffix := List.dropWhile_suffix (fun character : Char => decide (character = ' '))
        (l := field.blank)
      exact hsuffix.subset (hdrop ▸ List.mem_cons_self)

/-- The value is read as it is exactly from a plain field. -/
theorem read_eq_iff (other : LocationField) :
    field.read = other.value ↔ field.Plain ∧ field.value = other.value := by
  constructor
  · intro hread
    have hspaces : ∀ character ∈ field.blank, character = ' ' := by
      by_contra htab
      obtain ⟨character, hhead, hblank⟩ := field.read_of_tab htab
      exact other.hfirst character (hread ▸ hhead) hblank
    rw [field.read_of_spaces hspaces] at hread
    have htrailing : field.trailing = [] := by
      by_contra hne
      have hlast : field.trailing.getLast hne ∈ other.value.getLast? := by
        rw [← hread, List.getLast?_append_of_ne_nil _ hne]
        exact List.getLast?_eq_some_getLast hne
      exact other.hlast _ hlast (field.htrailing _ (List.getLast_mem hne))
    rw [htrailing, List.append_nil] at hread
    exact ⟨⟨hspaces, htrailing⟩, hread⟩
  · rintro ⟨⟨hspaces, htrailing⟩, hvalue⟩
    rw [field.read_of_spaces hspaces, htrailing, List.append_nil, hvalue]

theorem read_ne_nil : field.read ≠ [] := by
  intro hnil
  have hspaces : ∀ character ∈ field.blank, character = ' ' := by
    by_contra htab
    obtain ⟨character, hhead, -⟩ := field.read_of_tab htab
    rw [hnil] at hhead
    cases hhead
  rw [field.read_of_spaces hspaces] at hnil
  exact field.hvalue (List.append_eq_nil_iff.mp hnil).1

end LocationField

/-! ## What the chain leaves -/

theorem hasLocationName_of_readLocation {statusCode : ℤ} {line : List Char}
    (hread : readLocation statusCode line ≠ none) : hasLocationName line = true := by
  have hnamed : "Location:".toList.isPrefixOf line || "location:".toList.isPrefixOf line := by
    by_contra hnot
    exact hread (if_neg fun hboth => hnot hboth.2)
  simp only [Bool.or_eq_true, List.isPrefixOf_iff_prefix] at hnamed
  rcases hnamed with ⟨rest, rfl⟩ | ⟨rest, rfl⟩
  · rfl
  · rfl

/-- The field decides which redirect URL the response gives. -/
theorem Hop.location_eq (hop : Hop) :
    hop.response.location =
      (hop.permanentLocation.filter fun field => field.Recognised).map
        fun field => String.ofList field.read := by
  have hnamed : ∀ line ∈ hop.response.headers.map stripCrLf,
      readLocation hop.response.statusCode line ≠ none → hasLocationName line = true :=
    fun line _ => hasLocationName_of_readLocation
  have hmap : hop.response.headers.filterMap
        (fun line => readLocation hop.response.statusCode (stripCrLf line)) =
      (hop.response.headers.map stripCrLf).filterMap
        (readLocation hop.response.statusCode) := by
    rw [List.filterMap_map]
    rfl
  rw [Response.location, hmap, ← filterMap_filter_of_imp hnamed, hop.hlocation,
    Hop.permanentLocation]
  cases hop.location with
  | none => simp
  | some field =>
      rw [Option.map_some, Option.toList_some, List.filterMap_cons, field.readLocation_line]
      by_cases hpermanent : hop.IsPermanent
      · by_cases hrecognised : field.Recognised
        · rw [if_pos ⟨hpermanent, hrecognised⟩, if_pos hpermanent]
          simp [hrecognised]
        · rw [if_neg fun hboth => hrecognised hboth.2, if_pos hpermanent]
          simp [hrecognised]
      · rw [if_neg fun hboth => hpermanent hboth.1, if_neg hpermanent]
        rfl

theorem filterMap_location (hops : List Hop) :
    (hops.map Hop.response).filterMap Response.location =
      (recognisedRedirects hops).map fun field => String.ofList field.read := by
  rw [recognisedRedirects, List.filterMap_map, List.filter_filterMap, List.map_filterMap]
  apply List.filterMap_congr
  intro hop _
  exact hop.location_eq

/-- However a transfer ends, it leaves the redirect URL that its header lines lead to. -/
theorem Curl.get_permanentRedirectUrl {curl called : Curl} {transfer : Transfer}
    (hhandle : curl.hasHandle = true)
    (hcalled : transfer.headerLines.foldlM processHeaderLine
      { curl with
        etag := "", receivedData := [], hdrState := .start, statusCode := 0, protocol := ""
        permanentRedirectUrl := "" } = .ok called) :
    ∃ after count, curl.get transfer = .ok (after, count) ∧
      after.permanentRedirectUrl = called.permanentRedirectUrl := by
  rw [get, if_pos hhandle]
  dsimp only
  rw [hcalled]
  cases transfer with
  | completed chain => exact ⟨_, _, rfl, rfl⟩
  | failed headerLines body timedOut => exact ⟨_, _, rfl, rfl⟩

namespace RedirectedFetch

variable (fetch : RedirectedFetch)

theorem headerLines_transfer :
    fetch.transfer.headerLines = (fetch.hops.map Hop.response).flatMap Response.lines := by
  rw [transfer, hops, List.map_append]
  cases fetch.ending with
  | completed etag effectiveUrl => rfl
  | failed timedOut => simp [Transfer.headerLines]

/-- The last recognised redirect gives the URL. -/
theorem get_eq : ∃ after count, fetch.curl.get fetch.transfer = .ok (after, count) ∧
    after.permanentRedirectUrl =
      ((recognisedRedirects fetch.hops).getLast?.map
        fun field => String.ofList field.read).getD "" := by
  let reset : Curl := { fetch.curl with
    etag := "", receivedData := [], hdrState := .start, statusCode := 0, protocol := ""
    permanentRedirectUrl := "" }
  have hcalled : fetch.transfer.headerLines.foldlM Curl.processHeaderLine reset =
      .ok ((fetch.hops.map Hop.response).foldl
        (fun current response => response.applyTo current) reset) := by
    rw [fetch.headerLines_transfer]
    exact foldlM_responses _ HeaderProcessingState.noConfusion
  obtain ⟨after, count, hget, hurl⟩ := Curl.get_permanentRedirectUrl fetch.hhandle hcalled
  refine ⟨after, count, hget, ?_⟩
  rw [hurl, (collected_foldl _ reset).permanentRedirectUrl, filterMap_location,
    List.getLast?_map]

theorem reallyPermanent_iff_url :
    fetch.ReallyPermanent ↔ ((recognisedRedirects fetch.hops).getLast?.map
      fun field => String.ofList field.read).getD "" = fetch.permanentUrl := by
  obtain ⟨after, count, hget, hurl⟩ := fetch.get_eq
  rw [← hurl]
  constructor
  · rintro ⟨other, otherCount, hother, hsame, -⟩
    have hpair := Except.ok.inj (hget.symm.trans hother)
    rw [(Prod.mk.inj hpair).1]
    exact hsame
  · intro hsame
    refine ⟨after, count, hget, hsame, fun item => ?_⟩
    rw [PullObjectIngester.fetchedUrl, hsame]

/-- Over any chain of responses, with trailers and interim responses, the redirect URL is
the one of the initial run of permanent redirects if and only if the last permanent
redirect of the whole chain has it. -/
theorem reallyPermanent_iff : fetch.ReallyPermanent ↔ fetch.LastIsOfRun := by
  rw [reallyPermanent_iff_url, permanentUrl, LastIsOfRun]
  have hvalue : ∀ field : LocationField, String.ofList field.value ≠ "" := by
    intro field hempty
    exact field.hvalue (String.ofList_injective hempty)
  have hread : ∀ field : LocationField, String.ofList field.read ≠ "" := by
    intro field hempty
    exact field.read_ne_nil (String.ofList_injective hempty)
  cases (recognisedRedirects fetch.hops).getLast? with
  | none =>
      cases (initialRun fetch.hops).getLast? with
      | none => simp
      | some last => simp [(hvalue last).symm]
  | some read =>
      cases (initialRun fetch.hops).getLast? with
      | none => simp [hread read]
      | some last =>
          rw [Option.map_some, Option.map_some, Option.getD_some, Option.getD_some,
            String.ofList_inj]
          exact read.read_eq_iff last

theorem isBlank_of_mem_space : ∀ character ∈ [' '], IsBlank character :=
  List.forall_mem_singleton.mpr (Or.inl rfl)

/-- A field with the URL of a page, as servers usually write it. -/
def fieldTo (page : Char) (hpage : ¬ IsBlank page) : LocationField where
  name := "Location".toList
  blank := [' ']
  value := "http://example.com/".toList ++ [page]
  trailing := []
  hname := by decide +kernel
  hblank := isBlank_of_mem_space
  htrailing := by simp
  hvalue := List.append_ne_nil_of_right_ne_nil _ (List.cons_ne_nil page [])
  hfirst := by
    intro character hcharacter
    obtain rfl : 'h' = character := Option.some.inj hcharacter
    decide
  hlast := by
    intro character hcharacter
    rw [List.getLast?_concat] at hcharacter
    exact Option.some.inj hcharacter ▸ hpage

def temporaryHop : Hop where
  response := {
    statusCode := 302
    statusLine := "HTTP/1.1 302 Found\r\n".toList
    headers := ["Location: http://example.com/b\r\n".toList]
    trailers := []
    contentType := none
    hstatus := by decide +kernel
    hheaders := by decide +kernel
    htrailers := Response.no_trailers }
  location := some (fieldTo 'b' (by decide))
  hlocation := by decide +kernel

def permanentHop : Hop where
  response := {
    statusCode := 301
    statusLine := "HTTP/1.1 301 Moved Permanently\r\n".toList
    headers := ["Location: http://example.com/c\r\n".toList]
    trailers := []
    contentType := none
    hstatus := by decide +kernel
    hheaders := by decide +kernel
    htrailers := Response.no_trailers }
  location := some (fieldTo 'c' (by decide))
  hlocation := by decide +kernel

def finalHop : Hop where
  response := Curl.plainSegment.final
  location := none
  hlocation := by decide +kernel

/-- A temporary redirect that is followed by a permanent one. -/
def temporaryFirst : RedirectedFetch where
  curl := .new true
  earlier := [temporaryHop, permanentHop]
  final := finalHop
  ending := .completed none "http://example.com/c"
  body := [7]
  hhandle := rfl

/-- The target of the permanent redirect is kept, though only a temporary redirect leads
there. -/
theorem temporaryFirst_not_reallyPermanent :
    (temporaryFirst.curl.get temporaryFirst.transfer).map
        (fun answer => answer.1.permanentRedirectUrl) = .ok "http://example.com/c" ∧
      temporaryFirst.permanentUrl = "" ∧ ¬ temporaryFirst.ReallyPermanent := by
  have hkept : (temporaryFirst.curl.get temporaryFirst.transfer).map
      (fun answer => answer.1.permanentRedirectUrl) = .ok "http://example.com/c" := by
    decide +kernel
  have hurl : temporaryFirst.permanentUrl = "" := by decide +kernel
  refine ⟨hkept, hurl, ?_⟩
  rintro ⟨after, count, hget, hsame, -⟩
  rw [hget] at hkept
  have hother : after.permanentRedirectUrl = "http://example.com/c" := Except.ok.inj hkept
  rw [hother, hurl] at hsame
  exact absurd hsame (by decide)

end RedirectedFetch

end Mbstf.Ingest
