import Mbstf.Ingest.BaseUrl
import Mbstf.Ingest.PullIngester

/-!
# The items of the configured pull URLs

Both controllers turn the pull URLs of a session into ingest items with the same loop.
With an ingest base URL the relative ones are joined to it; without one an item should
have the URL itself, which the loop forgets to set.
-/

namespace Mbstf.Session

/-- `ObjectListController::initPullObjectIngester()`. -/
def ObjectListController.initPullObjectIngester (session : DistSession) :
    Option (List IngestItem) :=
  Session.initPullObjectIngester session

/-- `ObjectManifestController::initPullObjectIngester()`. -/
def ObjectManifestController.initPullObjectIngester (session : DistSession) :
    Option (List IngestItem) :=
  Session.initPullObjectIngester session

end Mbstf.Session

namespace Mbstf.Ingest

open Mbstf.Session

/-! ## The right items -/

/-- A base URL without the slash at its end, if it has one. -/
def withoutLastSlash (base : String) : List Char :=
  if EndsWithSlash base then base.toList.dropLast else base.toList

/-- A path without the slash at each of its ends. -/
def withoutOuterSlashes (path : String) : List Char :=
  withoutSlash (withoutLastSlash path)

/-- The base URL and the path with one slash between them; a slash at the end of the base
is that slash. -/
def oneSlash (base path : String) : String :=
  String.ofList (withoutLastSlash base ++ '/' :: withoutOuterSlashes path)

/-- What is to be fetched for a pull URL: the URL itself, or a relative one behind the
base. -/
def expectedUrl (ingestBase : Option String) (url : String) : Option String :=
  ingestBase.elim (some url) fun base =>
    if isAbsoluteUrl url then none else some (oneSlash base url)

/-- The pull URLs that become items, each with what is to be fetched for it. -/
def expectedItems (session : DistSession) (urls : List (Option String)) :
    List (String × String) :=
  urls.reduceOption.filterMap fun url =>
    (expectedUrl session.getObjectIngestBaseUrl url).map fun found => (url, found)

/-- One of the two functions makes the right items of the pull URLs of a session, hands
them to the ingester in their order, and leaves none without a URL. -/
def MakesItems (initPull : DistSession → Option (List Session.IngestItem))
    (session : DistSession) : Prop :=
  ∀ urls, session.getObjectAcquisitionPullUrls = some urls →
    ∃ items, initPull session = some items ∧
      items.map (fun item => (item.acquisitionId, item.url)) = expectedItems session urls ∧
      (∀ hasHandle ids, ids.length = items.length →
        (PullObjectIngester.new hasHandle
            (List.zipWith PullObjectIngester.IngestItem.ofSession ids items)).fetchList.map
          (fun item => (item.acquisitionId, item.url)) = expectedItems session urls) ∧
      ∀ item ∈ items,
        item.acquisitionId ≠ "" ∨ (∃ base ∈ session.getObjectIngestBaseUrl, base ≠ "") →
          item.url ≠ ""

/-- There is an ingest base URL, or no pull URL that is not empty. -/
def HasBaseOrNoUrl (session : DistSession) : Prop :=
  session.getObjectIngestBaseUrl.isSome ∨
    ∀ urls, session.getObjectAcquisitionPullUrls = some urls →
      ∀ url, some url ∈ urls → url = ""

/-! ## What the loop makes -/

/-- With a base the URL is joined by one slash. -/
theorem joinUrl_eq_oneSlash (base url : String) : joinUrl base url = oneSlash base url := by
  rw [← String.toList_inj, joinUrl_eq_join, oneSlash, String.toList_ofList, join,
    withoutLastSlash, withoutOuterSlashes, withoutLastSlash]
  by_cases hslash : EndsWithSlash base
  · have hlast : base.toList = base.toList.dropLast ++ ['/'] :=
      (List.dropLast_append_getLast? '/' hslash).symm
    rw [if_pos hslash, if_pos hslash, String.toList_append, toList_trimSlashes]
    conv_lhs => rw [hlast]
    simp
  · rw [if_neg hslash, if_neg hslash, String.toList_append, String.toList_append,
      toList_trimSlashes]
    simp

/-- The item of a present URL, by its two texts. -/
def itemTexts (ingestBase : Option String) (url : String) : Option (String × String) :=
  ingestBase.elim (some (url, "")) fun base =>
    if isAbsoluteUrl url then none else some (url, oneSlash base url)

theorem map_ingestItem (ingestBase distributionBase url : Option String) :
    (ingestItem ingestBase distributionBase url).map
        (fun item => (item.acquisitionId, item.url)) = url.bind (itemTexts ingestBase) := by
  cases url with
  | none => rfl
  | some url =>
      cases ingestBase with
      | none => rfl
      | some base =>
          simp only [ingestItem, itemTexts, Option.bind_some, Option.elim_some]
          split
          · rfl
          · rw [Option.map_some, joinUrl_eq_oneSlash]

theorem map_initPull {session : DistSession} {urls : List (Option String)}
    (hurls : session.getObjectAcquisitionPullUrls = some urls) :
    ∃ items, initPullObjectIngester session = some items ∧
      items.map (fun item => (item.acquisitionId, item.url)) =
        urls.reduceOption.filterMap (itemTexts session.getObjectIngestBaseUrl) := by
  refine ⟨_, by rw [initPullObjectIngester, hurls, Option.map_some], ?_⟩
  rw [List.map_filterMap]
  simp only [map_ingestItem]
  rw [List.reduceOption, List.filterMap_filterMap]
  rfl

/-- The ingester keeps the order of items without a deadline. -/
theorem map_fetchList_new (hasHandle : Bool) {ids : List String}
    {items : List Session.IngestItem} (hlength : ids.length = items.length) :
    (PullObjectIngester.new hasHandle
        (List.zipWith PullObjectIngester.IngestItem.ofSession ids items)).fetchList.map
      (fun item => (item.acquisitionId, item.url)) =
        items.map fun item => (item.acquisitionId, item.url) := by
  have hnone : ∀ item ∈ List.zipWith PullObjectIngester.IngestItem.ofSession ids items,
      item.deadline = none := by
    intro item hitem
    obtain ⟨index, hindex, rfl⟩ := List.getElem_of_mem hitem
    rw [List.getElem_zipWith]
    rfl
  have hsort : (PullObjectIngester.new hasHandle
      (List.zipWith PullObjectIngester.IngestItem.ofSession ids items)).fetchList =
        List.zipWith PullObjectIngester.IngestItem.ofSession ids items :=
    DeadlineOrder.sort_of_no_deadline _ hnone
  rw [hsort, List.map_zipWith, ← List.map_uncurry_zip_eq_zipWith]
  calc (ids.zip items).map (Function.uncurry fun id item =>
          ((PullObjectIngester.IngestItem.ofSession id item).acquisitionId,
            (PullObjectIngester.IngestItem.ofSession id item).url))
      = ((ids.zip items).map Prod.snd).map fun item => (item.acquisitionId, item.url) := by
        rw [List.map_map]
        rfl
    _ = items.map fun item => (item.acquisitionId, item.url) := by
        rw [List.map_snd_zip hlength.ge]

/-! ## When the items are right -/

/-- What is expected of an absolute URL without a base is what the loop makes of an empty
one only. -/
theorem itemTexts_eq_iff (urls : List String) :
    urls.filterMap (itemTexts none) =
        urls.filterMap (fun url => (expectedUrl none url).map fun found => (url, found)) ↔
      ∀ url ∈ urls, url = "" := by
  have hmade : urls.filterMap (itemTexts none) = urls.map fun url => (url, "") :=
    congrFun (List.filterMap_eq_map (f := fun url : String => (url, ""))) urls
  have hexpected : (urls.filterMap fun url =>
      (expectedUrl none url).map fun found => (url, found)) = urls.map fun url => (url, url) :=
    congrFun (List.filterMap_eq_map (f := fun url : String => (url, url))) urls
  rw [hmade, hexpected, List.map_inj_left]
  constructor
  · intro hsame url hurl
    exact (Prod.mk.inj (hsame url hurl)).2.symm
  · intro hempty url hurl
    rw [hempty url hurl]

theorem oneSlash_ne_empty (base url : String) : oneSlash base url ≠ "" := by
  intro hempty
  have hlist : withoutLastSlash base ++ '/' :: withoutOuterSlashes url = [] :=
    String.ofList_injective hempty
  simp at hlist

/-- With a base every item is the joined URL that is expected. -/
theorem itemTexts_eq_expectedItems {session : DistSession} {base : String}
    (hbase : session.getObjectIngestBaseUrl = some base) (urls : List (Option String)) :
    urls.reduceOption.filterMap (itemTexts session.getObjectIngestBaseUrl) =
      expectedItems session urls := by
  apply List.filterMap_congr
  intro url _
  rw [hbase, itemTexts, expectedUrl, Option.elim_some, Option.elim_some]
  split
  · rfl
  · rfl

/-- Each pair that is expected with a base has a URL: the joining slash is part of it. -/
theorem ne_empty_of_mem_expectedItems {session : DistSession} {base : String}
    (hbase : session.getObjectIngestBaseUrl = some base) {urls : List (Option String)}
    {text url : String} (hmem : (text, url) ∈ expectedItems session urls) : url ≠ "" := by
  obtain ⟨reference, -, hfound⟩ := List.mem_filterMap.mp hmem
  obtain ⟨found, hurl, heq⟩ := Option.map_eq_some_iff.mp hfound
  rw [hbase, expectedUrl, Option.elim_some, Option.ite_none_left_eq_some] at hurl
  obtain ⟨-, rfl⟩ := Prod.mk.inj heq
  rw [← Option.some.inj hurl.2]
  exact oneSlash_ne_empty base reference

theorem makesItems_of_base {session : DistSession} {base : String}
    (hbase : session.getObjectIngestBaseUrl = some base) :
    MakesItems Session.initPullObjectIngester session := by
  intro urls hurls
  obtain ⟨items, hitems, htexts⟩ := map_initPull hurls
  rw [itemTexts_eq_expectedItems hbase] at htexts
  refine ⟨items, hitems, htexts, fun hasHandle ids hlength => ?_, fun item hitem _ => ?_⟩
  · rw [map_fetchList_new hasHandle hlength, htexts]
  · have hpair := List.mem_map_of_mem hitem (f := fun item : Session.IngestItem =>
      (item.acquisitionId, item.url))
    rw [htexts] at hpair
    exact ne_empty_of_mem_expectedItems hbase hpair

/-- Without a base the items are those expected exactly when every pull URL is empty. -/
theorem map_items_eq_expectedItems_iff {session : DistSession}
    (hbase : session.getObjectIngestBaseUrl = none) (urls : List (Option String)) :
    urls.reduceOption.filterMap (itemTexts none) = expectedItems session urls ↔
      ∀ url, some url ∈ urls → url = "" := by
  have hexpected : expectedItems session urls = urls.reduceOption.filterMap fun url =>
      (expectedUrl none url).map fun found => (url, found) := by
    rw [expectedItems, hbase]
  rw [hexpected, itemTexts_eq_iff]
  simp only [List.reduceOption_mem_iff]

theorem makesItems_iff_of_no_base {session : DistSession}
    (hbase : session.getObjectIngestBaseUrl = none) :
    MakesItems Session.initPullObjectIngester session ↔
      ∀ urls, session.getObjectAcquisitionPullUrls = some urls →
        ∀ url, some url ∈ urls → url = "" := by
  rw [MakesItems]
  apply forall₂_congr
  intro urls hurls
  obtain ⟨items, hitems, htexts⟩ := map_initPull hurls
  rw [hbase] at htexts
  rw [← map_items_eq_expectedItems_iff hbase, ← htexts]
  constructor
  · rintro ⟨others, hothers, hsame, -, -⟩
    rw [Option.some.inj (hitems.symm.trans hothers)]
    exact hsame
  · intro hsame
    refine ⟨items, hitems, hsame, fun hasHandle ids hlength => ?_, fun item hitem htext => ?_⟩
    · rw [map_fetchList_new hasHandle hlength, hsame]
    · -- All the URLs are empty, and there is no base.
      rw [htexts, map_items_eq_expectedItems_iff hbase] at hsame
      have hpair := List.mem_map_of_mem hitem (f := fun item : Session.IngestItem =>
        (item.acquisitionId, item.url))
      rw [htexts] at hpair
      obtain ⟨url, hurl, hfound⟩ := List.mem_filterMap.mp hpair
      have hurlEq : url = item.acquisitionId := (Prod.mk.inj (Option.some.inj hfound)).1
      rcases htext with hne | ⟨base, hmem, -⟩
      · exact absurd (hurlEq ▸ hsame url (List.reduceOption_mem_iff.mp hurl)) hne
      · rw [hbase] at hmem
        cases hmem

theorem makesItems_iff (session : DistSession) :
    MakesItems Session.initPullObjectIngester session ↔ HasBaseOrNoUrl session := by
  cases hbase : session.getObjectIngestBaseUrl with
  | some base =>
      exact iff_of_true (makesItems_of_base hbase) (Or.inl (by rw [hbase]; rfl))
  | none =>
      rw [makesItems_iff_of_no_base hbase, HasBaseOrNoUrl, hbase]
      simp

/-- The two functions make the right items if and only if there is an ingest base URL, or
there are no pull URLs but empty ones. -/
theorem initPullObjectIngester_right_iff (session : DistSession) :
    (MakesItems ObjectListController.initPullObjectIngester session ∧
        MakesItems ObjectManifestController.initPullObjectIngester session) ↔
      HasBaseOrNoUrl session := by
  have hlist := makesItems_iff session
  have hmanifest := makesItems_iff session
  exact ⟨fun hboth => hlist.mp hboth.1, fun hright => ⟨hlist.mpr hright, hmanifest.mpr hright⟩⟩

/-- A session with one absolute pull URL and no ingest base URL. -/
def oneAbsoluteUrl : DistSession where
  distSessionId := "d"
  distSessionState := none
  mbr := none
  objDistributionData := some {
    objDistributionOperatingMode := "SINGLE"
    objAcquisitionMethod := "PULL"
    objAcquisitionIdsPull := some [some "http://example.com/a"]
    objAcquisitionIdPush := none
    objIngestBaseUrl := none
    objDistributionBaseUrl := none }
  upTrafficFlowInfo := none
  mbUpfTunAddr := none
  others := ""

/-- Its item has an empty URL. -/
theorem item_without_url :
    (ObjectListController.initPullObjectIngester oneAbsoluteUrl).map
        (fun items => items.map fun item => (item.acquisitionId, item.url)) =
      some [("http://example.com/a", "")] ∧
    ¬ MakesItems ObjectListController.initPullObjectIngester oneAbsoluteUrl := by
  refine ⟨by decide +kernel, fun hmakes => ?_⟩
  obtain ⟨items, hitems, -, -, hurls⟩ := hmakes _ rfl
  obtain rfl := Option.some.inj hitems
  exact hurls _ List.mem_cons_self (Or.inl (by decide)) rfl

end Mbstf.Ingest
