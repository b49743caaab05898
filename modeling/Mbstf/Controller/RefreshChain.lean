import Mbstf.Controller.ManifestUrl
import Mbstf.Controller.ScheduledPulls
import Mbstf.Ingest.Freshness

/-!
# The chain of refreshes of a live manifest

The handler of a live manifest has one entry for the manifest itself.  The worker of the
scheduled pulls takes the entry and passes it to an ingester; the object that comes of it
goes to the handler when it is recognised as the manifest; and the update makes the next
entry.  The refresh is at one place of this chain at a time.  A refresh that is not answered,
is not recognised, cannot be ingested or has no period ends the chain, and so does a worker
that finds nothing to pull: there is nothing else that makes an entry.
-/

namespace Mbstf.Controller

open Mbstf.Ingest Mbstf.Objects Mbstf.Runs Mbstf.Session

/-- The object is taken for the manifest, as in `check_if_object_added_is_manifest`. -/
def RecognisedAs (manifestUrl : String) (metadata : Metadata) : Prop :=
  metadata.originalUrl = manifestUrl ∨ metadata.fetchedUrl = manifestUrl

instance (manifestUrl : String) (metadata : Metadata) :
    Decidable (RecognisedAs manifestUrl metadata) :=
  inferInstanceAs (Decidable (_ ∨ _))

theorem isManifest_iff_recognisedAs (session : DistSession) (objects : ObjectStore)
    (objectId : String) (data : ObjectData) (metadata : Metadata) :
    IsManifest session (objects.addObject objectId data metadata) objectId ↔
      RecognisedAs (manifestUrl session) metadata :=
  isManifest_addObject session objects objectId data metadata

/-- A handler with the pulls it leads to.  `working` says whether the worker is in its loop,
`requested` has the items that ingesters have and `arrived` the objects whose events are
still to be handled. -/
structure Live (MPD : Type) where
  handler : DASHManifestHandler MPD
  working : Bool
  requested : List PullObjectIngester.IngestItem
  arrived : List Object

/-- The steps: a round of the worker; an item is answered, and the object added to the store,
or is not; and the event of an object is handled. -/
inductive LiveLabel where
  | round (call : NextIngestCall)
  | answered (place : ℕ) (curl : Curl) (round : PullObjectIngester.Round)
  | unanswered (place : ℕ)
  | handle

namespace Live

variable {MPD : Type}

/-- The handler is there, and the worker in its loop. -/
def start (handler : DASHManifestHandler MPD) : Live MPD where
  handler := handler
  working := true
  requested := []
  arrived := []

/-- `nextIngestItems()` in a round of the worker, which leaves its loop without items. -/
def round (live : Live MPD) (call : NextIngestCall) : Live MPD :=
  match live.handler.nextIngestItems call with
  | .error _ => { live with working := false }
  | .ok ((_, items), handler) =>
      { live with
        handler := handler
        working := !items.isEmpty
        requested := live.requested ++ items }

/-- The event of an object: a manifest goes to `update`, which reads the URL and the time of
the refresh from the manifest that the handler was made from, and leaves the handler as it
was when it throws.  `startWorker()` does not start a second worker. -/
def handle (library : MpdLibrary MPD) (manifestUrl : String) (first : Metadata)
    (live : Live MPD) (object : Object) : DASHManifestHandler MPD :=
  if RecognisedAs manifestUrl object.2 then
    (live.handler.update library first object).toOption.getD live.handler
  else live.handler

def step (library : MpdLibrary MPD) (manifestUrl : String) (first : Metadata)
    (live : Live MPD) : LiveLabel → Option (Live MPD)
  | .round call => if live.working then some (live.round call) else none
  | .answered place curl round =>
      (live.requested[place]?).map fun item =>
        { live with
          requested := live.requested.eraseIdx place
          arrived := live.arrived ++ [(curl.receivedData,
            (PullObjectIngester.objectMetadata item curl round).moveConstruct)] }
  | .unanswered place =>
      (live.requested[place]?).map fun _ =>
        { live with requested := live.requested.eraseIdx place }
  | .handle =>
      match live.arrived with
      | [] => none
      | object :: rest =>
          some { live with
            handler := live.handle library manifestUrl first object
            arrived := rest }

/-! ## Where the refresh is -/

/-- How many refreshes there are: entries of the handler, requested items, and objects that
have arrived. -/
def refreshes (first : Metadata) (live : Live MPD) : ℕ :=
  (live.handler.extraPullObjects.map SegmentAvailability.segmentURL).count first.fetchedUrl +
    (live.requested.map PullObjectIngester.IngestItem.url).count first.fetchedUrl +
      (live.arrived.map fun object => object.2.originalUrl).count first.fetchedUrl

/-- The manifest is going to be fetched again, or has been. -/
def Refreshing (first : Metadata) (live : Live MPD) : Prop :=
  live.working = true ∧ 0 < live.refreshes first

/-- The step does not end the chain: the worker has something to pull; an item that is not
answered is no refresh; and a refresh is recognised as the manifest, and the manifest can be
ingested and has a minimum update period. -/
def Renews (library : MpdLibrary MPD) (manifestUrl : String) (first : Metadata)
    (live : Live MPD) : LiveLabel → Prop
  | .round call => ∃ fetchTime items next,
      live.handler.nextIngestItems call = .ok ((fetchTime, items), next) ∧ items ≠ []
  | .answered _ _ _ => True
  | .unanswered place => ∀ item, live.requested[place]? = some item →
      item.url ≠ first.fetchedUrl
  | .handle => ∀ object rest, live.arrived = object :: rest →
      object.2.originalUrl = first.fetchedUrl →
        RecognisedAs manifestUrl object.2 ∧ ∃ mpd period,
          ingestManifest library object = .ok mpd ∧
          library.minimumUpdatePeriod (library.selectAllRepresentations mpd) = some period

/-- What the surroundings do not do: libmpd++ does not report the manifest as a segment, and
no segment comes from the URL of the manifest. -/
def Distinct (manifestUrl : String) (first : Metadata) (live : Live MPD) : LiveLabel → Prop
  | .round call => ∀ reported, call.selectedSegmentAvailability = .ok reported →
      ∀ segment ∈ reported, segment.segmentURL ≠ first.fetchedUrl
  | .handle => ∀ object rest, live.arrived = object :: rest →
      object.2.originalUrl ≠ first.fetchedUrl → ¬ RecognisedAs manifestUrl object.2
  | _ => True

/-- There is at most one refresh. -/
structure OneRefresh (first : Metadata) (live : Live MPD) : Prop where
  pullDistribution : live.handler.pullDistribution = true
  refreshes : live.refreshes first ≤ 1

variable {library : MpdLibrary MPD} {manifestUrl : String} {first : Metadata}
variable {live next : Live MPD}

/-! ## What a step does with it -/

/-- The worker takes the entry and requests it: the refresh is an item then. -/
theorem count_requested {call : NextIngestCall}
    {reported extraPullObjects remaining : List SegmentAvailability} {fetchTime : TimePoint}
    {items : List PullObjectIngester.IngestItem} {url : String}
    (htakes : TakesEarliest call reported extraPullObjects fetchTime items remaining)
    (hreported : ∀ segment ∈ reported, segment.segmentURL ≠ url) :
    (remaining.map SegmentAvailability.segmentURL).count url +
        (items.map PullObjectIngester.IngestItem.url).count url =
      (extraPullObjects.map SegmentAvailability.segmentURL).count url := by
  have hitems : (items.map PullObjectIngester.IngestItem.url).count url ≤
      (extraPullObjects.map SegmentAvailability.segmentURL).count url := by
    have hnone : (reported.map SegmentAvailability.segmentURL).count url = 0 := by
      rw [List.count_eq_zero]
      intro hmem
      obtain ⟨segment, hsegment, hurl⟩ := List.mem_map.mp hmem
      exact hreported segment hsegment hurl
    rw [htakes.taken, DASHManifestHandler.map_url_mapIdx_ingestItem]
    calc (((reported ++ extraPullObjects).filter _).map SegmentAvailability.segmentURL).count url
        ≤ ((reported ++ extraPullObjects).map SegmentAvailability.segmentURL).count url :=
          (List.filter_sublist.map _).count_le url
      _ = (extraPullObjects.map SegmentAvailability.segmentURL).count url := by
          rw [List.map_append, List.count_append, hnone, Nat.zero_add]
  rw [htakes.removed, List.count_diff]
  exact Nat.sub_add_cancel hitems

theorem nextIngestItems_pullDistribution {handler next : DASHManifestHandler MPD}
    {call : NextIngestCall} {fetchTime : TimePoint}
    {items : List PullObjectIngester.IngestItem}
    (hanswer : handler.nextIngestItems call = .ok ((fetchTime, items), next)) :
    next.pullDistribution = handler.pullDistribution := by
  unfold DASHManifestHandler.nextIngestItems at hanswer
  obtain ⟨reported, -, hnext⟩ := Folds.map_eq_ok hanswer
  dsimp only at hnext
  split at hnext
  · rw [(Prod.mk.inj hnext).2]
  · rw [← (Prod.mk.inj hnext).2]

/-- A round keeps the refresh. -/
theorem round_refreshes {call : NextIngestCall}
    (hdistinct : live.Distinct manifestUrl first (.round call)) :
    (live.round call).refreshes first = live.refreshes first ∧
      (live.round call).handler.pullDistribution = live.handler.pullDistribution := by
  unfold round
  cases hreported : call.selectedSegmentAvailability with
  | error exception =>
      have herror : live.handler.nextIngestItems call = .error exception := by
        rw [DASHManifestHandler.nextIngestItems, hreported]
        rfl
      rw [herror]
      exact ⟨rfl, rfl⟩
  | ok reported =>
      obtain ⟨fetchTime, items, handler, hanswer, htakes⟩ :=
        DASHManifestHandler.nextIngestItems_takesEarliest live.handler hreported
      have hcount := count_requested htakes (hdistinct reported hreported)
      rw [hanswer]
      refine ⟨?_, nextIngestItems_pullDistribution hanswer⟩
      simp only [refreshes, List.map_append, List.count_append]
      omega

/-- The worker stays in its loop when it has something to pull. -/
theorem round_working {call : NextIngestCall} :
    (live.round call).working = true ↔
      live.Renews library manifestUrl first (.round call) := by
  simp only [round, Renews]
  split
  case h_1 exception herror =>
      refine ⟨fun hworking => (Bool.false_ne_true hworking).elim, ?_⟩
      rintro ⟨fetchTime, items, next, hanswer, -⟩
      cases herror.symm.trans hanswer
  case h_2 fetchTime items next hanswer =>
      constructor
      · intro hworking
        exact ⟨fetchTime, items, next, hanswer, by simpa using hworking⟩
      · rintro ⟨otherTime, others, other, hother, hsome⟩
        obtain ⟨hpair, -⟩ := Prod.mk.inj (Except.ok.inj (hanswer.symm.trans hother))
        obtain rfl := (Prod.mk.inj hpair).2
        simpa using hsome

theorem count_eraseIdx {requested : List PullObjectIngester.IngestItem} {place : ℕ}
    {item : PullObjectIngester.IngestItem} (hitem : requested[place]? = some item)
    (url : String) :
    ((requested.eraseIdx place).map PullObjectIngester.IngestItem.url).count url +
        (if item.url = url then 1 else 0) =
      (requested.map PullObjectIngester.IngestItem.url).count url := by
  obtain ⟨hplace, rfl⟩ := List.getElem?_eq_some_iff.mp hitem
  rw [← ((List.getElem_cons_eraseIdx_perm hplace).map
    PullObjectIngester.IngestItem.url).count_eq url, List.map_cons, List.count_cons]
  simp

/-- Of the entries that a manifest leads to one is the refresh, when it has a period. -/
theorem count_scheduled {mpd : MPD} {extraPullObjects : List SegmentAvailability}
    (hsegments : ∀ mpd, ∀ segment ∈ library.selectedInitializationSegments mpd,
      segment.segmentURL ≠ first.fetchedUrl)
    (hextra : extraPullObjects = library.selectedInitializationSegments mpd ++
      (DASHManifestHandler.refreshEntry library mpd first).toList) :
    (extraPullObjects.map SegmentAvailability.segmentURL).count first.fetchedUrl =
      (library.minimumUpdatePeriod mpd).toList.length := by
  have hnone : ((library.selectedInitializationSegments mpd).map
      SegmentAvailability.segmentURL).count first.fetchedUrl = 0 := by
    rw [List.count_eq_zero]
    intro hmem
    obtain ⟨segment, hsegment, hurl⟩ := List.mem_map.mp hmem
    exact hsegments mpd segment hsegment hurl
  rw [hextra, List.map_append, List.count_append, hnone, Nat.zero_add,
    DASHManifestHandler.refreshEntry]
  cases library.minimumUpdatePeriod mpd with
  | none => rfl
  | some period => simp

theorem handle_of_not_recognised {object : Object}
    (hrecognised : ¬ RecognisedAs manifestUrl object.2) :
    live.handle library manifestUrl first object = live.handler :=
  if_neg hrecognised

/-- A refresh that is handled makes the next entry if it can. -/
theorem handle_refresh (manifestUrl : String) (object : Object)
    (hsegments : ∀ mpd, ∀ segment ∈ library.selectedInitializationSegments mpd,
      segment.segmentURL ≠ first.fetchedUrl)
    (hpull : live.handler.pullDistribution = true)
    (hnone : (live.handler.extraPullObjects.map SegmentAvailability.segmentURL).count
      first.fetchedUrl = 0) :
    let handled := live.handle library manifestUrl first object
    let entries := (handled.extraPullObjects.map SegmentAvailability.segmentURL).count
      first.fetchedUrl
    handled.pullDistribution = true ∧ entries ≤ 1 ∧
      (0 < entries ↔ RecognisedAs manifestUrl object.2 ∧ ∃ mpd period,
        ingestManifest library object = .ok mpd ∧
        library.minimumUpdatePeriod (library.selectAllRepresentations mpd) = some period) := by
  by_cases hrecognised : RecognisedAs manifestUrl object.2
  · cases hingested : ingestManifest library object with
    | error exception =>
        have hkept : live.handle library manifestUrl first object = live.handler := by
          rw [handle, if_pos hrecognised, DASHManifestHandler.update, hingested]
          rfl
        rw [hkept]
        refine ⟨hpull, by omega, iff_of_false (by omega) ?_⟩
        rintro ⟨-, mpd, period, hok, -⟩
        cases hok
    | ok ingested =>
        obtain ⟨handler, hhandled, hkept, hextra⟩ : ∃ handler,
            live.handle library manifestUrl first object = handler ∧
              handler.pullDistribution = true ∧ handler.extraPullObjects =
                library.selectedInitializationSegments
                    (library.selectAllRepresentations ingested) ++
                  (DASHManifestHandler.refreshEntry library
                    (library.selectAllRepresentations ingested) first).toList := by
          rw [handle, if_pos hrecognised,
            DASHManifestHandler.update_ingested library hpull first hingested]
          exact ⟨_, rfl, hpull, rfl⟩
        rw [hhandled]
        have hcount := count_scheduled hsegments hextra
        cases hperiod :
            library.minimumUpdatePeriod (library.selectAllRepresentations ingested) with
        | none =>
            rw [hperiod, Option.toList_none, List.length_nil] at hcount
            refine ⟨hkept, by omega, iff_of_false (by omega) ?_⟩
            rintro ⟨-, mpd, period, hok, hsome⟩
            obtain rfl := Except.ok.inj hok
            cases hperiod.symm.trans hsome
        | some period =>
            rw [hperiod, Option.toList_some, List.length_singleton] at hcount
            exact ⟨hkept, by omega, iff_of_true (by omega)
              ⟨hrecognised, ingested, period, rfl, hperiod⟩⟩
  · rw [handle_of_not_recognised hrecognised]
    exact ⟨hpull, by omega, iff_of_false (by omega) fun hboth => hrecognised hboth.1⟩

theorem renews_handle_iff {object : Object} {rest : List Object}
    (harrived : live.arrived = object :: rest) (hurl : object.2.originalUrl = first.fetchedUrl) :
    live.Renews library manifestUrl first .handle ↔
      RecognisedAs manifestUrl object.2 ∧ ∃ mpd period,
        ingestManifest library object = .ok mpd ∧
        library.minimumUpdatePeriod (library.selectAllRepresentations mpd) = some period := by
  constructor
  · intro hrenews
    exact hrenews object rest harrived hurl
  · intro hmade other others hothers _
    obtain ⟨rfl, -⟩ := List.cons.inj (harrived.symm.trans hothers)
    exact hmade

/-! ## The chain -/

/-- A refresh that is answered is an object then. -/
theorem answered_refreshes (first : Metadata) {place : ℕ} {item : PullObjectIngester.IngestItem}
    (hitem : live.requested[place]? = some item) (curl : Curl)
    (round : PullObjectIngester.Round) :
    refreshes first { live with
        requested := live.requested.eraseIdx place
        arrived := live.arrived ++ [(curl.receivedData,
          (PullObjectIngester.objectMetadata item curl round).moveConstruct)] } =
      live.refreshes first := by
  have hcount := count_eraseIdx hitem first.fetchedUrl
  have hurl : (PullObjectIngester.objectMetadata item curl round).moveConstruct.originalUrl =
      item.url := rfl
  simp only [refreshes, List.map_append, List.map_cons, List.map_nil, List.count_append,
    List.count_singleton, hurl, beq_iff_eq]
  omega

theorem unanswered_refreshes (first : Metadata) {place : ℕ} {item : PullObjectIngester.IngestItem}
    (hitem : live.requested[place]? = some item) :
    refreshes first { live with requested := live.requested.eraseIdx place } +
        (if item.url = first.fetchedUrl then 1 else 0) =
      live.refreshes first := by
  have hcount := count_eraseIdx hitem first.fetchedUrl
  simp only [refreshes]
  omega

/-- The object that is handled next, and the others. -/
theorem arrived_refreshes (first : Metadata) {object : Object} {rest : List Object}
    (harrived : live.arrived = object :: rest) :
    refreshes first { live with arrived := rest } +
        (if object.2.originalUrl = first.fetchedUrl then 1 else 0) =
      live.refreshes first := by
  simp only [refreshes, harrived, List.map_cons, List.count_cons, beq_iff_eq]
  exact Nat.add_assoc _ _ _

theorem renews_unanswered_iff {place : ℕ} {item : PullObjectIngester.IngestItem}
    (hitem : live.requested[place]? = some item) :
    live.Renews library manifestUrl first (.unanswered place) ↔
      item.url ≠ first.fetchedUrl := by
  constructor
  · intro hrenews
    exact hrenews item hitem
  · intro hurl other hother
    obtain rfl := Option.some.inj (hitem.symm.trans hother)
    exact hurl

theorem unanswered_refreshing (hone : live.OneRefresh first) {place : ℕ}
    {item : PullObjectIngester.IngestItem} (hitem : live.requested[place]? = some item) :
    OneRefresh first { live with requested := live.requested.eraseIdx place } ∧
      (Refreshing first { live with requested := live.requested.eraseIdx place } ↔
        live.Refreshing first ∧
          live.Renews library manifestUrl first (.unanswered place)) := by
  have hcount := unanswered_refreshes first hitem
  have hle := hone.refreshes
  refine ⟨⟨hone.pullDistribution, by omega⟩, ?_⟩
  rw [renews_unanswered_iff hitem, Refreshing, Refreshing]
  by_cases hurl : item.url = first.fetchedUrl
  · -- The one refresh there is gets lost.
    rw [if_pos hurl] at hcount
    refine iff_of_false ?_ fun hboth => hboth.2 hurl
    rintro ⟨-, hpositive⟩
    omega
  · rw [if_neg hurl, Nat.add_zero] at hcount
    rw [hcount]
    exact (and_iff_left hurl).symm

/-- An object that is no refresh leaves the chain as it is. -/
theorem handle_other_refreshing (hone : live.OneRefresh first) {object : Object}
    {rest : List Object} (harrived : live.arrived = object :: rest)
    (hurl : object.2.originalUrl ≠ first.fetchedUrl)
    (hdistinct : live.Distinct manifestUrl first .handle) :
    OneRefresh first { live with
        handler := live.handle library manifestUrl first object
        arrived := rest } ∧
      (Refreshing first { live with
          handler := live.handle library manifestUrl first object
          arrived := rest } ↔
        live.Refreshing first ∧ live.Renews library manifestUrl first .handle) := by
  have hcount := arrived_refreshes first harrived
  rw [if_neg hurl, Nat.add_zero] at hcount
  rw [handle_of_not_recognised (hdistinct object rest harrived hurl)]
  refine ⟨⟨hone.pullDistribution, hcount.trans_le hone.refreshes⟩, ?_⟩
  rw [Refreshing, hcount]
  refine (and_iff_left ?_).symm
  intro other others hothers hsame
  obtain ⟨rfl, -⟩ := List.cons.inj (harrived.symm.trans hothers)
  exact (hurl hsame).elim

/-- When the one refresh is handled, there is another after it if the handler makes it. -/
theorem handle_refreshing
    (hsegments : ∀ mpd, ∀ segment ∈ library.selectedInitializationSegments mpd,
      segment.segmentURL ≠ first.fetchedUrl)
    (hone : live.OneRefresh first) {object : Object} {rest : List Object}
    (harrived : live.arrived = object :: rest)
    (hurl : object.2.originalUrl = first.fetchedUrl) :
    OneRefresh first { live with
        handler := live.handle library manifestUrl first object
        arrived := rest } ∧
      (Refreshing first { live with
          handler := live.handle library manifestUrl first object
          arrived := rest } ↔
        live.Refreshing first ∧ live.Renews library manifestUrl first .handle) := by
  have hcount := arrived_refreshes first harrived
  rw [if_pos hurl] at hcount
  have hle := hone.refreshes
  have hnone : refreshes first { live with arrived := rest } = 0 := by omega
  simp only [refreshes] at hnone
  obtain ⟨hkept, hentries, hmade⟩ := handle_refresh manifestUrl object hsegments
    hone.pullDistribution (by omega)
  have hnext : refreshes first { live with
      handler := live.handle library manifestUrl first object
      arrived := rest } =
      ((live.handle library manifestUrl first object).extraPullObjects.map
        SegmentAvailability.segmentURL).count first.fetchedUrl := by
    simp only [refreshes]
    omega
  have hpositive : 0 < live.refreshes first := by omega
  refine ⟨⟨hkept, hnext.trans_le hentries⟩, ?_⟩
  rw [Refreshing, hnext, Refreshing, renews_handle_iff harrived hurl, ← hmade,
    and_iff_left hpositive]

theorem step_refreshing
    (hsegments : ∀ mpd, ∀ segment ∈ library.selectedInitializationSegments mpd,
      segment.segmentURL ≠ first.fetchedUrl)
    (hone : live.OneRefresh first) {label : LiveLabel}
    (hdistinct : live.Distinct manifestUrl first label)
    (hstep : live.step library manifestUrl first label = some next) :
    next.OneRefresh first ∧
      (next.Refreshing first ↔
        live.Refreshing first ∧ live.Renews library manifestUrl first label) := by
  cases label with
  | round call =>
      obtain ⟨hworking, hnext⟩ := Option.ite_none_right_eq_some.mp hstep
      obtain rfl := Option.some.inj hnext
      obtain ⟨hrefreshes, hpull⟩ := round_refreshes hdistinct
      refine ⟨⟨hpull.trans hone.pullDistribution, hrefreshes.trans_le hone.refreshes⟩, ?_⟩
      rw [Refreshing, Refreshing, hrefreshes, round_working, hworking]
      tauto
  | answered place curl round =>
      obtain ⟨item, hitem, rfl⟩ := Option.map_eq_some_iff.mp hstep
      have hsame := answered_refreshes first hitem curl round
      refine ⟨⟨hone.pullDistribution, hsame.trans_le hone.refreshes⟩, ?_⟩
      rw [Refreshing, hsame]
      exact (and_iff_left trivial).symm
  | unanswered place =>
      obtain ⟨item, hitem, rfl⟩ := Option.map_eq_some_iff.mp hstep
      exact unanswered_refreshing hone hitem
  | handle =>
      simp only [step] at hstep
      split at hstep
      case h_1 => cases hstep
      case h_2 object rest harrived =>
          obtain rfl := Option.some.inj hstep
          by_cases hurl : object.2.originalUrl = first.fetchedUrl
          · exact handle_refreshing hsegments hone harrived hurl
          · exact handle_other_refreshing hone harrived hurl hdistinct

variable {objectId : String} {firstObject : Object} {ingested : MPD} {period : ℤ}
variable {handler : DASHManifestHandler MPD} {final : Live MPD}

/-- The constructor of a handler makes the first entry. -/
theorem start_refreshing
    (hsegments : ∀ mpd, ∀ segment ∈ library.selectedInitializationSegments mpd,
      segment.segmentURL ≠ firstObject.2.fetchedUrl)
    (hingested : ingestManifest library firstObject = .ok ingested)
    (hperiod : library.minimumUpdatePeriod (library.selectAllRepresentations ingested) =
      some period)
    (hnew : DASHManifestHandler.new library objectId firstObject true = .ok handler) :
    (start handler).OneRefresh firstObject.2 ∧ (start handler).Refreshing firstObject.2 := by
  obtain ⟨hpull, hwith⟩ := Refresher.new_schedulesWith hingested hnew
  have hcount := count_scheduled hsegments hwith.extra
  rw [hperiod, Option.toList_some, List.length_singleton] at hcount
  have hone : (start handler).refreshes firstObject.2 = 1 := hcount
  exact ⟨⟨hpull, hone.le⟩, rfl, hone.symm ▸ Nat.one_pos⟩

/-- Of a handler that was made for pull distribution from a manifest with a minimum update
period: however long the controller runs, the manifest is going to be fetched again if and
only if no step so far has ended the chain.  There never is a second refresh. -/
theorem refreshing_iff
    (hsegments : ∀ mpd, ∀ segment ∈ library.selectedInitializationSegments mpd,
      segment.segmentURL ≠ firstObject.2.fetchedUrl)
    (hingested : ingestManifest library firstObject = .ok ingested)
    (hperiod : library.minimumUpdatePeriod (library.selectAllRepresentations ingested) =
      some period)
    (hnew : DASHManifestHandler.new library objectId firstObject true = .ok handler)
    {labels : List LiveLabel}
    (hdistinct : Guarded (step library manifestUrl firstObject.2)
      (Distinct manifestUrl firstObject.2) (start handler) labels)
    (hrun : run (step library manifestUrl firstObject.2) (start handler) labels = some final) :
    final.OneRefresh firstObject.2 ∧ (final.Refreshing firstObject.2 ↔
      Guarded (step library manifestUrl firstObject.2)
        (Renews library manifestUrl firstObject.2) (start handler) labels) := by
  obtain ⟨hone, hstart⟩ := start_refreshing hsegments hingested hperiod hnew
  constructor
  · exact (throughout_of_guarded
      (fun _ _ _ hlive hlabel hstep => (step_refreshing hsegments hlive hlabel hstep).1)
      hone hdistinct).final hrun
  · rw [run_iff_guarded_of_allowed
      (fun _ _ _ hlive hlabel hstep => step_refreshing hsegments hlive hlabel hstep)
      hone hdistinct hrun, and_iff_right hstart]

/-! ## A manifest that is fetched again -/

/-- The worker asks for the next items before there are any segments. -/
def liveCall : NextIngestCall where
  selectedSegmentAvailability := .ok []
  currentTime := 100000000000
  nextObjectId := fun made => toString (made + 2)
  objIngestBaseUrl := none
  objDistributionBaseUrl := none

/-- The server answers with the same manifest. -/
def liveChain : Chain where
  earlier := []
  final := {
    statusCode := 200
    statusLine := "HTTP/1.1 200 OK\r\n".toList
    headers := ["Content-Type: application/dash+xml\r\n".toList]
    trailers := []
    contentType := some "application/dash+xml"
    hstatus := Received.statusCodeOf_ok
    hheaders := by decide +kernel
    htrailers := Response.no_trailers }
  etag := none
  effectiveUrl := "http://example.com/live.mpd"
  body := Refresher.liveManifest.toUTF8.toList

def liveAnswer : Curl :=
  { Curl.new true with
    receivedData := liveChain.body
    contentType := "application/dash+xml"
    effectiveUrl := liveChain.effectiveUrl
    protocol := "HTTP/1.1"
    statusCode := 200 }

def liveFetch : PullObjectIngester.Round :=
  ⟨102000000000, 102100000000, 102100000000, 102100000000, fun _ _ => .completed liveChain⟩

def liveLabels : List LiveLabel :=
  [.round liveCall, .answered 0 liveAnswer liveFetch, .handle]

/-- After a refresh the next one is scheduled. -/
theorem refreshing_again :
    let first := Refresher.liveObject 100000000000 none "1"
    ∃ handler final,
      DASHManifestHandler.new Refresher.liveLibrary "1" first true = .ok handler ∧
      run (step Refresher.liveLibrary "http://example.com/live.mpd" first.2) (start handler)
        liveLabels = some final ∧
      final.OneRefresh first.2 ∧ final.Refreshing first.2 := by
  intro first
  refine ⟨_, _, rfl, rfl, ?_⟩
  have hall := @refreshing_iff Unit Refresher.liveLibrary "http://example.com/live.mpd" "1" first
    () 2000000000 _ _ (fun _ _ hmem => absurd hmem List.not_mem_nil) rfl rfl rfl liveLabels ?_ rfl
  · refine ⟨hall.1, hall.2.mpr ?_⟩
    intro requested hround
    refine ⟨⟨_, _, _, rfl, List.cons_ne_nil _ _⟩, ?_⟩
    obtain rfl := Option.some.inj hround
    intro arrived hanswered
    refine ⟨trivial, ?_⟩
    obtain rfl := Option.some.inj hanswered
    intro handled _
    refine ⟨?_, trivial⟩
    intro object rest hobject _
    obtain ⟨rfl, -⟩ := List.cons.inj hobject
    exact ⟨Or.inl rfl, (), 2000000000, rfl, rfl⟩
  · intro requested hround
    refine ⟨?_, ?_⟩
    · intro reported hreported segment hsegment
      obtain rfl := Except.ok.inj hreported
      cases hsegment
    obtain rfl := Option.some.inj hround
    intro arrived hanswered
    refine ⟨trivial, ?_⟩
    obtain rfl := Option.some.inj hanswered
    intro handled _
    refine ⟨?_, trivial⟩
    intro object rest hobject hother
    obtain ⟨rfl, -⟩ := List.cons.inj hobject
    exact (hother rfl).elim

end Live

end Mbstf.Controller
