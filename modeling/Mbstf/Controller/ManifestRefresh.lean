import Mbstf.Core.Runs
import Mbstf.Objects.Store
import Mbstf.Session.BitRate

/-!
# The refresh of a manifest

A `DASHManifestHandler` has the parsed MPD, and a pointer to the stored object that it was
made from.  When it is to pull, and the MPD has a minimum update period, it adds the
manifest itself to the objects to pull, at a time and from a URL it reads through the
pointer.  The pointer is set by the constructor alone.

The MPD library is not part of the repository: it is a parameter.
-/

namespace Mbstf.Controller

open Mbstf.Objects Mbstf.Runs Mbstf.Session

/-- `SegmentAvailability` of libmpd++. -/
structure SegmentAvailability where
  availabilityStartTime : TimePoint
  segmentDuration : ℤ
  segmentURL : String
  availabilityEndTime : Option TimePoint
  deriving DecidableEq

/-- What the code uses of libmpd++: `MPD` made from the data and the URL of a manifest, and
its member functions. -/
structure MpdLibrary (MPD : Type) where
  parse : ObjectData → String → Except StdException MPD
  selectAllRepresentations : MPD → MPD
  selectedInitializationSegments : MPD → List SegmentAvailability
  minimumUpdatePeriod : MPD → Option ℤ
  availabilityEndTime : MPD → Option TimePoint

variable {MPD : Type} (library : MpdLibrary MPD)

/-- `ingest_manifest`. -/
def ingestManifest (newManifest : Object) : Except StdException MPD :=
  if newManifest.2.mediaType ≠ "application/dash+xml" then
    .error ⟨.invalidArgument, "Does not look like a DASH Manifest as the media type is invalid." ++
      " Expected media type: application/dash+xml"⟩
  else library.parse newManifest.1 newManifest.2.fetchedUrl

/-- When to fetch a manifest again: after the period, and not before it expires. -/
def timeToUpdate (metadata : Metadata) (minimumUpdatePeriod : ℤ) : TimePoint :=
  let minUpdateTime := metadata.receivedTime + minimumUpdatePeriod
  match metadata.cacheExpires with
  | some expiryTime => max minUpdateTime expiryTime
  | none => minUpdateTime

/-- `DASHManifestHandler`; `manifest` is the id of the object that `m_manifest` points to.
`m_refreshMpd` and `m_mpdReceivedTime` are never read. -/
structure DASHManifestHandler (MPD : Type) where
  pullDistribution : Bool
  mpd : MPD
  manifest : String
  extraPullObjects : List SegmentAvailability

namespace DASHManifestHandler

/-- The entry for the manifest itself, with the metadata that `m_manifest` leads to. -/
def refreshEntry (mpd : MPD) (manifest : Metadata) : Option SegmentAvailability :=
  (library.minimumUpdatePeriod mpd).map fun period =>
    { availabilityStartTime := timeToUpdate manifest period
      segmentDuration := 0
      segmentURL := manifest.fetchedUrl
      availabilityEndTime := library.availabilityEndTime mpd }

/-- `addMPDRefreshToExtraPullObjects()`. -/
def addMPDRefreshToExtraPullObjects (handler : DASHManifestHandler MPD) (manifest : Metadata) :
    DASHManifestHandler MPD :=
  if handler.pullDistribution then
    { handler with
      extraPullObjects :=
        handler.extraPullObjects ++ (refreshEntry library handler.mpd manifest).toList }
  else handler

/-- `DASHManifestHandler(const ObjectStore::Object&, ObjectController*, bool)`, with the
object that is stored under the id. -/
def new (objectId : String) (object : Object) (pullDistribution : Bool) :
    Except StdException (DASHManifestHandler MPD) :=
  (ingestManifest library object).map fun ingested =>
    let mpd := library.selectAllRepresentations ingested
    addMPDRefreshToExtraPullObjects library
      { pullDistribution := pullDistribution, mpd := mpd, manifest := objectId
        extraPullObjects := library.selectedInitializationSegments mpd } object.2

/-- `update(const ObjectStore::Object&)`, when `m_manifest` leads to the metadata given.
It returns true whenever it returns. -/
def update (handler : DASHManifestHandler MPD) (manifest : Metadata) (newManifest : Object) :
    Except StdException (DASHManifestHandler MPD) :=
  (ingestManifest library newManifest).map fun ingested =>
    let mpd := library.selectAllRepresentations ingested
    addMPDRefreshToExtraPullObjects library
      { handler with
        mpd := mpd, extraPullObjects := library.selectedInitializationSegments mpd } manifest

/-- `update` of a handler that is to pull, with a manifest that can be ingested. -/
theorem update_ingested {handler : DASHManifestHandler MPD}
    (hpull : handler.pullDistribution = true) (manifest : Metadata) {newManifest : Object}
    {ingested : MPD} (hingested : ingestManifest library newManifest = .ok ingested) :
    handler.update library manifest newManifest =
      .ok { handler with
        mpd := library.selectAllRepresentations ingested
        extraPullObjects :=
          library.selectedInitializationSegments (library.selectAllRepresentations ingested) ++
            (refreshEntry library (library.selectAllRepresentations ingested)
              manifest).toList } := by
  rw [update, hingested]
  exact congrArg Except.ok (if_pos hpull)

end DASHManifestHandler

/-- A handler, and the last object it was given, as it was then. -/
structure Refresher (MPD : Type) where
  handler : DASHManifestHandler MPD
  newest : Object

/-- A call of `update` with an object of the store, as the store is then. -/
structure Update where
  objects : ObjectStore
  objectId : String

namespace Refresher

/-- A successful `update`.  The object `m_manifest` points to is still in the store. -/
def step (refresher : Refresher MPD) (call : Update) : Option (Refresher MPD) := do
  let manifest ← call.objects.store[refresher.handler.manifest]?
  let newManifest ← call.objects.store[call.objectId]?
  let handler ← (refresher.handler.update library manifest.2 newManifest).toOption
  some ⟨handler, newManifest⟩

/-- The MPD of the newest manifest. -/
def newestMpd (refresher : Refresher MPD) : Except StdException MPD :=
  (ingestManifest library refresher.newest).map library.selectAllRepresentations

/-- The refresh of the newest manifest, and nothing else, is scheduled when that has a
minimum update period, and no refresh when it has none. -/
def Scheduled (refresher : Refresher MPD) : Prop :=
  ∃ mpd entries, refresher.newestMpd library = .ok mpd ∧
    refresher.handler.extraPullObjects =
      library.selectedInitializationSegments mpd ++ entries ∧
    (library.minimumUpdatePeriod mpd = none → entries = []) ∧
    ∀ period, library.minimumUpdatePeriod mpd = some period →
      ∃ entry, entries = [entry] ∧
        entry.segmentURL = refresher.newest.2.fetchedUrl ∧
        entry.availabilityStartTime = timeToUpdate refresher.newest.2 period

/-- An update with a manifest that is not to be refreshed, or is to be at the same time
and from the same URL as the one that the handler was made from. -/
def Current (refresher : Refresher MPD) (call : Update) : Prop :=
  ∀ manifest newManifest ingested period,
    call.objects.store[refresher.handler.manifest]? = some manifest →
    call.objects.store[call.objectId]? = some newManifest →
    ingestManifest library newManifest = .ok ingested →
    library.minimumUpdatePeriod (library.selectAllRepresentations ingested) = some period →
      manifest.2.fetchedUrl = newManifest.2.fetchedUrl ∧
        timeToUpdate manifest.2 period = timeToUpdate newManifest.2 period

variable {library}

/-- What a handler that is to pull schedules with the metadata its pointer leads to. -/
structure SchedulesWith (library : MpdLibrary MPD) (refresher : Refresher MPD) (mpd : MPD)
    (manifest : Metadata) : Prop where
  newest : refresher.newestMpd library = .ok mpd
  extra : refresher.handler.extraPullObjects =
    library.selectedInitializationSegments mpd ++
      (DASHManifestHandler.refreshEntry library mpd manifest).toList

theorem newestMpd_of_ingested {refresher : Refresher MPD} {ingested : MPD}
    (hingested : ingestManifest library refresher.newest = .ok ingested) :
    refresher.newestMpd library = .ok (library.selectAllRepresentations ingested) := by
  rw [newestMpd, hingested]
  rfl

/-- The metadata behind the pointer schedules the refresh of the newest manifest if it
gives the same URL and the same time as that. -/
theorem SchedulesWith.scheduled_iff {refresher : Refresher MPD} {mpd : MPD}
    {manifest : Metadata} (hwith : SchedulesWith library refresher mpd manifest) :
    refresher.Scheduled library ↔ ∀ period, library.minimumUpdatePeriod mpd = some period →
      manifest.fetchedUrl = refresher.newest.2.fetchedUrl ∧
        timeToUpdate manifest period = timeToUpdate refresher.newest.2 period := by
  constructor
  · rintro ⟨other, entries, hother, hextra, -, hrefresh⟩ period hperiod
    obtain rfl : mpd = other := Except.ok.inj (hwith.newest.symm.trans hother)
    have hentries := List.append_cancel_left (hwith.extra.symm.trans hextra)
    obtain ⟨entry, rfl, hurl, htime⟩ := hrefresh period hperiod
    rw [DASHManifestHandler.refreshEntry, hperiod] at hentries
    obtain rfl := List.head_eq_of_cons_eq hentries
    exact ⟨hurl, htime⟩
  · intro hsame
    refine ⟨mpd, _, hwith.newest, hwith.extra, ?_, ?_⟩
    · intro hnone
      rw [DASHManifestHandler.refreshEntry, hnone]
      rfl
    · intro period hperiod
      obtain ⟨hurl, htime⟩ := hsame period hperiod
      rw [DASHManifestHandler.refreshEntry, hperiod]
      exact ⟨_, rfl, hurl, htime⟩

/-- What a successful `update` of a handler that is to pull leads to. -/
theorem step_eq_some {refresher next : Refresher MPD} {call : Update}
    (hpull : refresher.handler.pullDistribution = true)
    (hstep : refresher.step library call = some next) :
    ∃ manifest newManifest ingested,
      call.objects.store[refresher.handler.manifest]? = some manifest ∧
      call.objects.store[call.objectId]? = some newManifest ∧
      ingestManifest library newManifest = .ok ingested ∧
      next.newest = newManifest ∧ next.handler.pullDistribution = true ∧
      SchedulesWith library next (library.selectAllRepresentations ingested) manifest.2 := by
  simp only [step, Option.bind_eq_bind, Option.bind_eq_some_iff] at hstep
  obtain ⟨manifest, hmanifest, newManifest, hnew, handler, hhandler, hnext⟩ := hstep
  obtain rfl := Option.some.inj hnext
  cases hingested : ingestManifest library newManifest with
  | error exception =>
      rw [DASHManifestHandler.update, hingested] at hhandler
      cases hhandler
  | ok ingested =>
      rw [DASHManifestHandler.update_ingested library hpull manifest.2 hingested] at hhandler
      obtain rfl := Option.some.inj hhandler
      exact ⟨manifest, newManifest, ingested, hmanifest, hnew, hingested, rfl, hpull,
        newestMpd_of_ingested hingested, rfl⟩

/-- One update leaves the refresh of the newest manifest scheduled if and only if that
agrees with the manifest of the constructor. -/
theorem scheduled_step {refresher next : Refresher MPD} {call : Update}
    (hpull : refresher.handler.pullDistribution = true)
    (hstep : refresher.step library call = some next) :
    next.Scheduled library ↔ refresher.Current library call := by
  obtain ⟨manifest, newManifest, ingested, hmanifest, hnew, hingested, rfl, -, hwith⟩ :=
    step_eq_some hpull hstep
  rw [hwith.scheduled_iff]
  constructor
  · intro hsame other otherNew otherIngested period hother hotherNew hotherIngested hperiod
    obtain rfl := Option.some.inj (hmanifest.symm.trans hother)
    obtain rfl := Option.some.inj (hnew.symm.trans hotherNew)
    obtain rfl := Except.ok.inj (hingested.symm.trans hotherIngested)
    exact hsame period hperiod
  · intro hcurrent period hperiod
    exact hcurrent manifest next.newest ingested period hmanifest hnew hingested hperiod

/-- The constructor schedules with its own manifest. -/
theorem new_schedulesWith {objectId : String} {object : Object} {ingested : MPD}
    {handler : DASHManifestHandler MPD} (hingested : ingestManifest library object = .ok ingested)
    (hnew : DASHManifestHandler.new library objectId object true = .ok handler) :
    handler.pullDistribution = true ∧
      SchedulesWith library ⟨handler, object⟩ (library.selectAllRepresentations ingested)
        object.2 := by
  rw [DASHManifestHandler.new, hingested] at hnew
  obtain rfl := Except.ok.inj hnew
  exact ⟨rfl, newestMpd_of_ingested hingested, rfl⟩

theorem scheduled_new {objectId : String} {object : Object}
    {handler : DASHManifestHandler MPD}
    (hnew : DASHManifestHandler.new library objectId object true = .ok handler) :
    handler.pullDistribution = true ∧ Scheduled library ⟨handler, object⟩ := by
  cases hingested : ingestManifest library object with
  | error exception =>
      rw [DASHManifestHandler.new, hingested] at hnew
      cases hnew
  | ok ingested =>
      obtain ⟨hpull, hwith⟩ := new_schedulesWith hingested hnew
      exact ⟨hpull, hwith.scheduled_iff.mpr fun _ _ => ⟨rfl, rfl⟩⟩

/-- For a handler made for pull distribution and any successful updates, the refresh of the
newest manifest is scheduled after each of them if and only if each updates to a manifest
that is not to be refreshed, or is to be like the one of the constructor. -/
theorem scheduled_throughout_iff {objectId : String} {object : Object}
    {handler : DASHManifestHandler MPD}
    (hnew : DASHManifestHandler.new library objectId object true = .ok handler)
    (calls : List Update) :
    Throughout (step library) (Scheduled library) ⟨handler, object⟩ calls ↔
      Guarded (step library) (Current library) ⟨handler, object⟩ calls := by
  obtain ⟨hpull, hscheduled⟩ := scheduled_new hnew
  have hkept : ∀ (refresher : Refresher MPD) (call : Update) (next : Refresher MPD),
      refresher.handler.pullDistribution = true → refresher.Scheduled library →
        refresher.step library call = some next →
          next.handler.pullDistribution = true := by
    intro refresher call next hbefore _ hstep
    obtain ⟨-, -, -, -, -, -, -, hafter, -⟩ := step_eq_some hbefore hstep
    exact hafter
  have hexact : ∀ (refresher : Refresher MPD) (call : Update) (next : Refresher MPD),
      refresher.handler.pullDistribution = true → refresher.Scheduled library →
        refresher.step library call = some next →
          (next.Scheduled library ↔ refresher.Current library call) :=
    fun _ _ _ hbefore _ hstep => scheduled_step hbefore hstep
  exact throughout_iff_guarded hkept hexact hpull hscheduled

/-! ## A live manifest -/

/-- A live manifest without media, to be fetched again after two seconds. -/
def liveManifest : String :=
  "<MPD xmlns=\"urn:mpeg:dash:schema:mpd:2011\" type=\"dynamic\" " ++
    "profiles=\"urn:mpeg:dash:profile:isoff-live:2011\" " ++
    "availabilityStartTime=\"2024-01-01T00:00:00Z\" minBufferTime=\"PT2S\" " ++
    "minimumUpdatePeriod=\"PT2S\"><Period id=\"1\" start=\"PT0S\"/></MPD>"

/-- What libmpd++ answers about it, in nanoseconds. -/
def liveLibrary : MpdLibrary Unit where
  parse := fun _ _ => .ok ()
  selectAllRepresentations := id
  selectedInitializationSegments := fun _ => []
  minimumUpdatePeriod := fun _ => some 2000000000
  availabilityEndTime := fun _ => none

/-- The manifest, received at a time. -/
def liveObject (receivedTime : TimePoint) (cacheExpires : Option TimePoint) (objectId : String) :
    Object :=
  (liveManifest.toUTF8.toList,
    .new receivedTime objectId "application/dash+xml" "http://example.com/live.mpd"
      "http://example.com/live.mpd" "live.mpd" 0 none none cacheExpires)

/-- The store after the manifest was fetched a first time and, under another id, again. -/
def liveStore (cacheExpires : Option TimePoint) : ObjectStore :=
  .history [
    .addObject "1" (liveObject 100000000000 cacheExpires "1").1
      (liveObject 100000000000 cacheExpires "1").2,
    .addObject "2" (liveObject 200000000000 cacheExpires "2").1
      (liveObject 200000000000 cacheExpires "2").2]

theorem liveStore_first (cacheExpires : Option TimePoint) :
    (liveStore cacheExpires).store["1"]? = some (liveObject 100000000000 cacheExpires "1") := by
  rw [liveStore, ObjectStore.getElem?_history]
  rfl

theorem liveStore_second (cacheExpires : Option TimePoint) :
    (liveStore cacheExpires).store["2"]? = some (liveObject 200000000000 cacheExpires "2") := by
  rw [liveStore, ObjectStore.getElem?_history]
  rfl

/-- The two agree on the refresh as long as they expire later than that. -/
theorem scheduled_of_same_expiry :
    ∃ handler,
      DASHManifestHandler.new liveLibrary "1" (liveObject 100000000000 (some 900000000000) "1")
        true = .ok handler ∧
      Throughout (step liveLibrary) (Scheduled liveLibrary)
        ⟨handler, liveObject 100000000000 (some 900000000000) "1"⟩
        [⟨liveStore (some 900000000000), "2"⟩] := by
  refine ⟨_, rfl, (scheduled_throughout_iff rfl _).mpr ?_⟩
  intro next _
  refine ⟨?_, trivial⟩
  intro manifest newManifest ingested period hmanifest hnewManifest _ hperiod
  obtain rfl := Option.some.inj ((liveStore_first _).symm.trans hmanifest)
  obtain rfl := Option.some.inj ((liveStore_second _).symm.trans hnewManifest)
  obtain rfl : 2000000000 = period := Option.some.inj hperiod
  exact ⟨rfl, by decide⟩

/-- After the update the refresh is scheduled two seconds after the first manifest was
received, which is before the second was. -/
theorem refresh_of_first_manifest :
    ∃ handler,
      DASHManifestHandler.new liveLibrary "1" (liveObject 100000000000 none "1") true =
        .ok handler ∧
      ∃ refresher,
        run (step liveLibrary) ⟨handler, liveObject 100000000000 none "1"⟩
          [⟨liveStore none, "2"⟩] = some refresher ∧
        refresher.newest.2.receivedTime = 200000000000 ∧
        refresher.handler.extraPullObjects =
          [⟨102000000000, 0, "http://example.com/live.mpd", none⟩] ∧
        ¬ refresher.Scheduled liveLibrary := by
  refine ⟨⟨true, (), "1", [⟨102000000000, 0, "http://example.com/live.mpd", none⟩]⟩, rfl, ?_⟩
  have hstep : step liveLibrary
      ⟨⟨true, (), "1", [⟨102000000000, 0, "http://example.com/live.mpd", none⟩]⟩,
        liveObject 100000000000 none "1"⟩ ⟨liveStore none, "2"⟩ =
      some ⟨⟨true, (), "1", [⟨102000000000, 0, "http://example.com/live.mpd", none⟩]⟩,
        liveObject 200000000000 none "2"⟩ := by
    simp only [step, liveStore_first, liveStore_second]
    rfl
  refine ⟨_, run_cons_eq_some.mpr ⟨_, hstep, rfl⟩, rfl, rfl, ?_⟩
  intro hscheduled
  have hcurrent := (scheduled_step rfl hstep).mp hscheduled
  obtain ⟨-, htime⟩ := hcurrent _ _ () 2000000000 (liveStore_first none)
    (liveStore_second none) rfl rfl
  exact absurd htime (by decide)

end Refresher

end Mbstf.Controller
