import Mbstf.Ingest.PushAnswers
import Mbstf.Session.Controllers

/-!
# Base URLs

A relative path is put behind the ingest base URL when an object is ingested, with a
slash between the two if there is none, and the packager replaces the ingest base URL of
the fetched URL by the distribution base URL before it sends the object.  The packager
works on the characters: it does not know where the base ended and the path began.
-/

namespace Mbstf.Ingest

open Mbstf.Objects Mbstf.Session

/-- A URL that needs no slash before a path is put behind it. -/
def EndsWithSlash (url : String) : Prop := url.toList.getLast? = some '/'

instance (url : String) : Decidable (EndsWithSlash url) :=
  inferInstanceAs (Decidable (_ = _))

theorem hasLeadingSlash_iff {text : String} :
    hasLeadingSlash text = true ↔ text.toList.head? = some '/' := by
  rw [hasLeadingSlash, List.isPrefixOf_iff_prefix, List.head?_eq_some_iff]
  exact exists_congr fun rest => eq_comm

/-- A path behind a base URL, with a slash between them. -/
def join (base path : String) : String :=
  if EndsWithSlash base then base ++ path else base ++ "/" ++ path

/-- A URL that lies under a base URL: the base is a prefix, and it ends where a path
segment ends. -/
def LiesUnder (base url : String) : Prop :=
  base.toList <+: url.toList ∧
    (EndsWithSlash base ∨ url = base ∨ (url.toList.drop base.length).head? = some '/')

instance (base url : String) : Decidable (LiesUnder base url) :=
  inferInstanceAs (Decidable (_ ∧ _))

/-- A URL that a base URL is a prefix of, though it does not lie under it. -/
def Sibling (base url : String) : Prop :=
  base.toList <+: url.toList ∧ ¬ LiesUnder base url

/-- A URL that was made by putting a relative path behind a base URL. -/
def Joined (base url : String) : Prop := ∃ path, hasLeadingSlash path = false ∧ url = join base path

/-! ## How the ingesters build URLs -/

theorem joinUrl_eq_join (base url : String) : joinUrl base url = join base (trimSlashes url) := by
  unfold joinUrl join
  by_cases hslash : EndsWithSlash base
  · rw [if_pos hslash]
    exact congrArg (· ++ trimSlashes url) (if_pos hslash)
  · rw [if_neg hslash]
    exact congrArg (· ++ trimSlashes url) (if_neg hslash)

/-- A path without the slash it begins with. -/
def withoutSlash : List Char → List Char
  | '/' :: rest => rest
  | path => path

theorem withoutSlash_of_head?_ne {path : List Char} (hhead : path.head? ≠ some '/') :
    withoutSlash path = path := by
  unfold withoutSlash
  split
  · exact absurd rfl hhead
  · rfl

/-- `trim_slashes` takes one slash from each end; a single slash is taken once. -/
theorem toList_trimSlashes (url : String) :
    (trimSlashes url).toList =
      withoutSlash (if EndsWithSlash url then url.toList.dropLast else url.toList) := by
  have htake : url.toList.take
      (if url.toList.getLast? = some '/' then url.length - 1 else url.length) =
        if EndsWithSlash url then url.toList.dropLast else url.toList := by
    by_cases hslash : EndsWithSlash url
    · have hlast : url.toList.getLast? = some '/' := hslash
      rw [if_pos hslash, if_pos hlast, List.dropLast_eq_take, String.length_toList]
    · have hlast : ¬ url.toList.getLast? = some '/' := hslash
      rw [if_neg hslash, if_neg hlast, ← String.length_toList, List.take_length]
  unfold trimSlashes
  rw [String.toList_ofList, htake]
  by_cases hhead : url.toList.head? = some '/'
  · obtain ⟨rest, hrest⟩ := List.head?_eq_some_iff.mp hhead
    rw [if_pos hhead, hrest]
    by_cases hslash : EndsWithSlash url
    · rw [if_pos hslash]
      cases rest with
      | nil => rfl
      | cons second rest => rfl
    · rw [if_neg hslash]
      rfl
  · rw [if_neg hhead, List.drop_zero, withoutSlash_of_head?_ne]
    intro hkept
    apply hhead
    by_cases hslash : EndsWithSlash url
    · rw [if_pos hslash] at hkept
      obtain ⟨rest, hrest⟩ := List.head?_eq_some_iff.mp hkept
      rw [← List.dropLast_append_getLast? '/' hslash, hrest]
      rfl
    · rwa [if_neg hslash] at hkept

/-- What is left of a path that does not begin with two slashes has none in front. -/
theorem hasLeadingSlash_trimSlashes {url : String}
    (hurl : "//".toList.isPrefixOf url.toList = false) :
    hasLeadingSlash (trimSlashes url) = false := by
  have hprefixed : (if EndsWithSlash url then url.toList.dropLast else url.toList) <+:
      url.toList := by
    split
    · exact List.dropLast_prefix url.toList
    · exact List.prefix_rfl
  rw [← Bool.not_eq_true, hasLeadingSlash_iff, toList_trimSlashes]
  intro hstarts
  generalize (if EndsWithSlash url then url.toList.dropLast else url.toList) = path
    at hstarts hprefixed
  -- Only two slashes leave one.
  have htwo : "//".toList <+: path := by
    unfold withoutSlash at hstarts
    split at hstarts
    case h_1 rest =>
        obtain ⟨tail, rfl⟩ := List.head?_eq_some_iff.mp hstarts
        exact ⟨tail, rfl⟩
    case h_2 hnone =>
        obtain ⟨tail, rfl⟩ := List.head?_eq_some_iff.mp hstarts
        exact absurd rfl (hnone tail)
  rw [List.isPrefixOf_iff_prefix.mpr (htwo.trans hprefixed)] at hurl
  cases hurl

/-- A pull item has the base URL it was built with, and a URL joined to it. -/
theorem ingestItem_joined {base url : String} {distributionBase : Option String}
    {item : IngestItem} (hitem : ingestItem (some base) distributionBase (some url) = some item) :
    item.objIngestBaseUrl = some base ∧ item.objDistributionBaseUrl = distributionBase ∧
      Joined base item.url := by
  simp only [ingestItem, Option.bind_some, Option.ite_none_left_eq_some,
    Option.some.injEq] at hitem
  obtain ⟨habsolute, rfl⟩ := hitem
  have hslashes : "//".toList.isPrefixOf url.toList = false := by
    simp only [isAbsoluteUrl, Bool.or_eq_true, not_or, Bool.not_eq_true] at habsolute
    exact habsolute.2
  exact ⟨rfl, rfl, trimSlashes url, hasLeadingSlash_trimSlashes hslashes,
    joinUrl_eq_join base url⟩

/-- The URL of a pushed object is its path behind the prefix of the ingest server. -/
theorem objectUrl_eq_join (ingester : PushObjectIngester) (path found : String)
    (hprefixed : EndsWithSlash (ingester.getIngestServerPrefix found).2) :
    (ingester.objectUrl ("/" ++ path) found).2 =
      join (ingester.getIngestServerPrefix found).2 path := by
  have hchars : ("/" ++ path).toList = '/' :: path.toList := String.toList_append
  rw [join, if_pos hprefixed, PushObjectIngester.objectUrl, hchars]
  simp only [String.ofList_toList]

/-! ## What the packager makes of them -/

/-- What is asked of the location of an object: a path behind the ingest base URL is put
behind the distribution base URL, and a URL elsewhere is left as it is. -/
structure Substituted (ingestBase distributionBase url location : String) : Prop where
  under : ∀ path, hasLeadingSlash path = false → url = join ingestBase path →
    location = join distributionBase path
  elsewhere : ¬ LiesUnder ingestBase url → location = url

section

variable {metadata : Metadata} {ingestBase distributionBase : String}

theorem sendLocation_eq (hingest : metadata.objIngestBaseUrl = some ingestBase)
    (hdistribution : metadata.objDistributionBaseUrl = some distributionBase)
    (hingestBase : ingestBase ≠ "") (hdistributionBase : distributionBase ≠ "") :
    sendLocation metadata =
      if ingestBase.toList <+: metadata.fetchedUrl.toList then
        distributionBase ++ String.ofList (metadata.fetchedUrl.toList.drop ingestBase.length)
      else metadata.fetchedUrl := by
  simp [sendLocation, hingest, hdistribution, hingestBase, hdistributionBase]

/-- A URL that begins with the ingest base URL is sent with the other base in its place. -/
theorem sendLocation_append (hingest : metadata.objIngestBaseUrl = some ingestBase)
    (hdistribution : metadata.objDistributionBaseUrl = some distributionBase)
    (hingestBase : ingestBase ≠ "") (hdistributionBase : distributionBase ≠ "") {rest : String}
    (hurl : metadata.fetchedUrl = ingestBase ++ rest) :
    sendLocation metadata = distributionBase ++ rest := by
  have hchars : metadata.fetchedUrl.toList = ingestBase.toList ++ rest.toList := by
    rw [hurl, String.toList_append]
  rw [sendLocation_eq hingest hdistribution hingestBase hdistributionBase, hchars,
    if_pos (List.prefix_append _ _), ← String.length_toList, List.drop_left,
    String.ofList_toList]

/-- A joined path comes out joined again exactly when both bases end with a slash or
neither does. -/
theorem sendLocation_join_iff (hingest : metadata.objIngestBaseUrl = some ingestBase)
    (hdistribution : metadata.objDistributionBaseUrl = some distributionBase)
    (hingestBase : ingestBase ≠ "") (hdistributionBase : distributionBase ≠ "") {path : String}
    (hurl : metadata.fetchedUrl = join ingestBase path) :
    sendLocation metadata = join distributionBase path ↔
      (EndsWithSlash ingestBase ↔ EndsWithSlash distributionBase) := by
  have hslash : ∀ base : String, base ++ path ≠ base ++ "/" ++ path := by
    intro base hsame
    have hlength := congrArg String.length hsame
    simp only [String.length_append] at hlength
    have hone : "/".length = 1 := rfl
    omega
  unfold join at hurl
  split at hurl
  case isTrue hends =>
      rw [sendLocation_append hingest hdistribution hingestBase hdistributionBase hurl, join]
      simp only [hends, true_iff]
      split
      case isTrue hother => exact iff_of_true rfl hother
      case isFalse hother => exact iff_of_false (hslash distributionBase) hother
  case isFalse hends =>
      rw [String.append_assoc] at hurl
      rw [sendLocation_append hingest hdistribution hingestBase hdistributionBase hurl, join,
        ← String.append_assoc]
      simp only [hends, false_iff]
      split
      case isTrue hother => exact iff_of_false (hslash distributionBase).symm (not_not.mpr hother)
      case isFalse hother => exact iff_of_true rfl hother

/-- A URL that is not under the base is left as it is exactly when the base is no prefix
of it, or is replaced by itself. -/
theorem sendLocation_elsewhere_iff (hingest : metadata.objIngestBaseUrl = some ingestBase)
    (hdistribution : metadata.objDistributionBaseUrl = some distributionBase)
    (hingestBase : ingestBase ≠ "") (hdistributionBase : distributionBase ≠ "") :
    (¬ LiesUnder ingestBase metadata.fetchedUrl →
        sendLocation metadata = metadata.fetchedUrl) ↔
      (Sibling ingestBase metadata.fetchedUrl → distributionBase = ingestBase) := by
  by_cases hprefixed : ingestBase.toList <+: metadata.fetchedUrl.toList
  · obtain ⟨rest, hrest⟩ := hprefixed
    have hurl : metadata.fetchedUrl = ingestBase ++ String.ofList rest := by
      apply String.toList_inj.mp
      rw [← hrest, String.toList_append, String.toList_ofList]
    rw [Sibling, and_iff_right ⟨rest, hrest⟩,
      sendLocation_append hingest hdistribution hingestBase hdistributionBase hurl, hurl]
    simp only [String.append_left_inj]
  · rw [sendLocation_eq hingest hdistribution hingestBase hdistributionBase, if_neg hprefixed]
    exact iff_of_true (fun _ => rfl) fun hsibling => absurd hsibling.1 hprefixed

/-- The substitution undoes the join of the ingesters exactly when both base URLs end with
a slash or neither does, for a URL that was joined, and leaves other URLs alone exactly
when the ingest base URL is no prefix of one that it does not lie under. -/
theorem sendLocation_substituted_iff (hingest : metadata.objIngestBaseUrl = some ingestBase)
    (hdistribution : metadata.objDistributionBaseUrl = some distributionBase)
    (hingestBase : ingestBase ≠ "") (hdistributionBase : distributionBase ≠ "") :
    Substituted ingestBase distributionBase metadata.fetchedUrl (sendLocation metadata) ↔
      (Joined ingestBase metadata.fetchedUrl →
          (EndsWithSlash ingestBase ↔ EndsWithSlash distributionBase)) ∧
        (Sibling ingestBase metadata.fetchedUrl → distributionBase = ingestBase) := by
  have hunder := fun path =>
    @sendLocation_join_iff metadata ingestBase distributionBase hingest hdistribution
      hingestBase hdistributionBase path
  have helsewhere :=
    sendLocation_elsewhere_iff hingest hdistribution hingestBase hdistributionBase
  constructor
  · intro hsubstituted
    refine ⟨?_, helsewhere.mp hsubstituted.elsewhere⟩
    rintro ⟨path, hpath, hurl⟩
    exact (hunder path hurl).mp (hsubstituted.under path hpath hurl)
  · intro hboth
    refine ⟨?_, helsewhere.mpr hboth.2⟩
    intro path hpath hurl
    exact (hunder path hurl).mpr (hboth.1 ⟨path, hpath, hurl⟩)

end

/-- The metadata of a pulled item that was not redirected. -/
def pulledFrom (item : IngestItem) : Metadata :=
  Metadata.new 100 "1" "text/plain" item.url item.url item.acquisitionId 90
    item.objIngestBaseUrl item.objDistributionBaseUrl none

theorem sendLocation_substituted_iff_pulled :
    Substituted "http://a.example/x" "http://d.example/y" "http://a.example/x/seg/1.mp4"
        "http://d.example/y/seg/1.mp4" ↔
      (Joined "http://a.example/x" "http://a.example/x/seg/1.mp4" →
          (EndsWithSlash "http://a.example/x" ↔ EndsWithSlash "http://d.example/y")) ∧
        (Sibling "http://a.example/x" "http://a.example/x/seg/1.mp4" →
          "http://d.example/y" = "http://a.example/x") := by
  let item : IngestItem := ⟨"http://a.example/x/seg/1.mp4", "/seg/1.mp4",
    some "http://a.example/x", some "http://d.example/y"⟩
  have hlocation : sendLocation (pulledFrom item) = "http://d.example/y/seg/1.mp4" := by
    decide +kernel
  rw [← hlocation]
  exact @sendLocation_substituted_iff (pulledFrom item) _ _ rfl rfl (by decide) (by decide)

/-- With a slash at the end of the distribution base URL only, the location gets two
slashes; and a URL whose last segment begins like that of the base is moved. -/
theorem slash_doubled_and_sibling_moved :
    (∃ item, ingestItem (some "http://a.example/x") (some "http://d.example/y/") (some "r") =
        some item ∧ sendLocation (pulledFrom item) = "http://d.example/y//r" ∧
      ¬ Substituted "http://a.example/x" "http://d.example/y/" item.url
        (sendLocation (pulledFrom item))) ∧
    (∃ item : IngestItem, item.url = "http://a.example/xy" ∧
      item.objIngestBaseUrl = some "http://a.example/x" ∧
      item.objDistributionBaseUrl = some "http://d.example/z" ∧
      sendLocation (pulledFrom item) = "http://d.example/zy" ∧
      ¬ Substituted "http://a.example/x" "http://d.example/z" item.url
        (sendLocation (pulledFrom item))) := by
  constructor
  · let item : IngestItem := ⟨"http://a.example/x/r", "r", some "http://a.example/x",
      some "http://d.example/y/"⟩
    have hlocation : sendLocation (pulledFrom item) = "http://d.example/y//r" := by decide +kernel
    refine ⟨item, by decide +kernel, hlocation, ?_⟩
    intro hsubstituted
    have hunder := hsubstituted.under "r" (by decide) (by decide +kernel)
    rw [hlocation] at hunder
    exact absurd hunder (by decide +kernel)
  · let item : IngestItem := ⟨"http://a.example/xy", "", some "http://a.example/x",
      some "http://d.example/z"⟩
    have hlocation : sendLocation (pulledFrom item) = "http://d.example/zy" := by decide +kernel
    refine ⟨item, rfl, rfl, rfl, hlocation, ?_⟩
    intro hsubstituted
    have helsewhere := hsubstituted.elsewhere (by decide +kernel)
    rw [hlocation] at helsewhere
    exact absurd helsewhere (by decide +kernel)

end Mbstf.Ingest
