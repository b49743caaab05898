import Mbstf.Ingest.BaseUrl
import Mbstf.Ingest.PullIngester
import Mbstf.Session.Constructors

/-!
# The entry manifest

A streaming controller has one entry manifest, named by the acquisition id of its session.
It builds the URL of the manifest from the session, and compares it with the URLs of every
object that is added to the store; the ingesters build those.  A push is let in only if
its path is the acquisition id.
-/

namespace Mbstf.Controller

open Mbstf.Ingest Mbstf.Objects Mbstf.Session

/-! ## The URL of the manifest -/

/-- One acquisition id in `manifestUrl()`: an absolute one is skipped. -/
def addManifestUrl (manifestBaseUrl : Option String) (current : String) :
    Option String → String
  | none => current
  | some url =>
      match manifestBaseUrl with
      | none => current
      | some base => if isAbsoluteUrl url then current else joinUrl base url

/-- `ObjectManifestController::manifestUrl()`. -/
def manifestUrl (session : DistSession) : String :=
  let manifestBaseUrl := session.getObjectIngestBaseUrl
  let pullUrl := (session.getObjectAcquisitionPullUrls.getD []).foldl
    (addManifestUrl manifestBaseUrl) ""
  addManifestUrl manifestBaseUrl pullUrl session.getObjectAcquisitionPushId

/-- `check_if_object_added_is_manifest`: the manifest is kept when it has been sent. -/
def checkIfObjectAddedIsManifest (objectId : String) (objects : ObjectStore)
    (manifestUrl : String) : Except OutOfRange (ObjectStore × Bool) :=
  (objects.at? objectId).map fun object =>
    if object.2.originalUrl = manifestUrl ∨ object.2.fetchedUrl = manifestUrl then
      ({ objects with
         store := objects.store.insert objectId
           (object.1, { object.2 with keepAfterSend := true }) }, true)
    else (objects, false)

/-- The object under an id is taken for the manifest. -/
def IsManifest (session : DistSession) (objects : ObjectStore) (objectId : String) : Prop :=
  (checkIfObjectAddedIsManifest objectId objects (manifestUrl session)).map Prod.snd = .ok true

theorem isManifest_iff {session : DistSession} {objects : ObjectStore} {objectId : String}
    {object : Object} (hat : objects.at? objectId = .ok object) :
    IsManifest session objects objectId ↔
      object.2.originalUrl = manifestUrl session ∨ object.2.fetchedUrl = manifestUrl session := by
  rw [IsManifest, checkIfObjectAddedIsManifest, hat]
  simp only [Except.map]
  by_cases hsame : object.2.originalUrl = manifestUrl session ∨
      object.2.fetchedUrl = manifestUrl session
  · rw [if_pos hsame]
    exact iff_of_true rfl hsame
  · rw [if_neg hsame]
    exact iff_of_false (fun hanswer => Bool.false_ne_true (Except.ok.inj hanswer)) hsame

theorem isManifest_addObject (session : DistSession) (objects : ObjectStore) (objectId : String)
    (data : ObjectData) (metadata : Metadata) :
    IsManifest session (objects.addObject objectId data metadata) objectId ↔
      metadata.originalUrl = manifestUrl session ∨ metadata.fetchedUrl = manifestUrl session := by
  have hat : (objects.addObject objectId data metadata).at? objectId =
      .ok (data, metadata.moveConstruct) := by
    rw [ObjectStore.at?_addObject, if_pos rfl]
  exact isManifest_iff hat

/-! ## The sessions that are accepted -/

section

variable {surroundings : Session.Surroundings} {session after : DistSession}

/-- The push id of a session, once it has been validated. -/
def pushIdOf (session : DistSession) : String :=
  session.getObjectAcquisitionPushId.getD "manifest"

variable {ingesters : Option (List Session.IngestItem) × Bool}

/-- A session that was accepted for pulling, and the items that are fetched for it. -/
structure PullAccepted (session after : DistSession)
    (ingesters : Option (List Session.IngestItem) × Bool) : Prop where
  method : session.getObjectAcquisitionMethod = "PULL"
  same : after = session
  ingesters : ingesters = (initPullObjectIngester session, false)
  pushId : session.getObjectAcquisitionPushId = none
  pullUrls : ∀ urls, session.getObjectAcquisitionPullUrls = some urls → urls.length = 1

/-- A session that was accepted for pushing, when the ingest server listens. -/
structure PushAccepted (surroundings : Session.Surroundings) (session after : DistSession)
    (ingesters : Option (List Session.IngestItem) × Bool) : Prop where
  method : session.getObjectAcquisitionMethod = "PUSH"
  ingesters : ingesters = (none, true)
  ingestBaseUrl : surroundings.ingestServerPrefix ≠ "" →
    after.getObjectIngestBaseUrl = some surroundings.ingestServerPrefix
  pushId : after.getObjectAcquisitionPushId = some (pushIdOf session)
  pullUrls : after.getObjectAcquisitionPullUrls = none

theorem objectManifestController_made
    (hmade : (objectManifestController surroundings).exec session = (.ok ingesters, after)) :
    PullAccepted session after ingesters ∨ PushAccepted surroundings session after ingesters ∨
      (session.getObjectAcquisitionMethod ≠ "PUSH" ∧ ingesters = (none, false)) := by
  by_cases hrejects : session.ManifestRejects
  · obtain ⟨exception, hexec, -⟩ :=
      exec_objectManifestController_of_rejects surroundings session hrejects
    rw [hexec] at hmade
    cases hmade
  rw [exec_objectManifestController_of_accepts surroundings session hrejects] at hmade
  obtain ⟨hingesters, rfl⟩ := Prod.mk.inj hmade
  obtain rfl := Except.ok.inj hingesters
  rw [DistSession.ManifestRejects, not_or] at hrejects
  by_cases hpush : session.getObjectAcquisitionMethod = "PUSH"
  · have hnotPull : session.getObjectAcquisitionMethod ≠ "PULL" := by
      rw [hpush]
      decide
    have hstill : session.defaulted.getObjectAcquisitionMethod = "PUSH" := by
      rw [DistSession.acquisitionMethod_defaulted, hpush]
    have hurls : session.getObjectAcquisitionPullUrls = none := by
      by_contra hsome
      exact hrejects.2 ⟨hpush, hsome⟩
    refine Or.inr (Or.inl ⟨hpush, ?_, ?_, ?_, ?_⟩)
    · rw [DistSession.ingesters, DistSession.acquisitionMethod_defaulted, if_neg hnotPull,
        decide_eq_true hpush]
    · intro hprefixed
      rw [DistSession.ingested, if_pos hstill]
      exact DistSession.ingestBaseUrl_setIngestBaseUrl (by decide) hstill hprefixed
    · rw [DistSession.ingested, if_pos hstill, DistSession.pushId_setIngestBaseUrl,
        DistSession.pushId_defaulted hpush, pushIdOf]
    · rw [DistSession.ingested, if_pos hstill, DistSession.pullUrls_setIngestBaseUrl,
        DistSession.pullUrls_defaulted, hurls]
  · have hdefaulted : session.defaulted = session := if_neg fun hboth => hpush hboth.1
    rw [hdefaulted, DistSession.ingested, if_neg hpush, DistSession.ingesters]
    by_cases hpull : session.getObjectAcquisitionMethod = "PULL"
    · obtain ⟨hcount, hid⟩ := not_or.mp fun hwhy => hrejects.1 ⟨hpull, hwhy⟩
      refine Or.inl ⟨hpull, rfl, if_pos hpull, not_not.mp hid, fun urls hurls => ?_⟩
      by_contra hone
      exact hcount ⟨urls, hurls, hone⟩
    · exact Or.inr (Or.inr ⟨hpush, by rw [if_neg hpull, decide_eq_false hpush]⟩)

end

/-! ## Recognition -/

/-- An acquisition id that the manifest URL is built from as it stands: it is relative, and
no slash is trimmed from its end, unless it is just one. -/
def Plain (id : String) : Prop := id = "/" ∨ (isAbsoluteUrl id = false ∧ ¬ EndsWithSlash id)

instance (id : String) : Decidable (Plain id) := inferInstanceAs (Decidable (_ ∨ _))

/-- What is asked of the objects that are ingested for a session: the pulled object is
taken for the manifest, and a pushed object exactly when its path is let in. -/
structure Recognised (surroundings : Session.Surroundings) (after : DistSession)
    (ingesters : Option (List Session.IngestItem) × Bool) : Prop where
  pulled : ∀ items, ingesters.1 = some items → ∀ item ∈ items,
    ∀ (objectId : String) (puller pullerAfter : PullObjectIngester) (objects next : ObjectStore)
      (round : PullObjectIngester.Round), puller.fetching = some (.ofSession objectId item) →
        puller.ingest objects round = .ok (pullerAfter, next) →
          next = objects ∨ IsManifest after next objectId
  pushed : ingesters.2 = true → ∀ (pusher : PushObjectIngester) (pointer : RequestPtr)
    (request : Request) (told : Ingest.Surroundings),
      pusher.urlPrefix = surroundings.ingestServerPrefix → hasLeadingSlash request.urlPath = true →
        (IsManifest after (pusher.processRequest pointer request told).1.objectStore
            (pusher.processRequest pointer request told).2.objectId ↔
          validatePushUrl after.getObjectAcquisitionPushId request.urlPath = true)

section

variable {surroundings : Session.Surroundings} {session after : DistSession}

/-- In `PULL` mode the item and the manifest URL are built by the same text from the one
pull URL. -/
theorem manifestUrl_of_pull {items : List Session.IngestItem} {item : Session.IngestItem}
    (hid : session.getObjectAcquisitionPushId = none)
    (hone : ∀ urls, session.getObjectAcquisitionPullUrls = some urls → urls.length = 1)
    (hitems : initPullObjectIngester session = some items) (hitem : item ∈ items) :
    item.url = manifestUrl session := by
  obtain ⟨urls, hurls, hmap⟩ := Option.map_eq_some_iff.mp hitems
  obtain ⟨url, rfl⟩ := List.length_eq_one_iff.mp (hone urls hurls)
  rw [← hmap] at hitem
  obtain ⟨given, hmem, hbuilt⟩ := List.mem_filterMap.mp hitem
  rw [List.mem_singleton.mp hmem] at hbuilt
  rw [manifestUrl, hurls, hid]
  simp only [Option.getD_some, List.foldl_cons, List.foldl_nil, addManifestUrl]
  unfold ingestItem at hbuilt
  cases url with
  | none => cases hbuilt
  | some url =>
      rw [Option.bind_some] at hbuilt
      cases hbase : session.getObjectIngestBaseUrl with
      | none =>
          rw [hbase] at hbuilt
          rw [← Option.some.inj hbuilt]
      | some base =>
          rw [hbase] at hbuilt
          dsimp only at hbuilt ⊢
          split at hbuilt
          case isTrue => cases hbuilt
          case isFalse habsolute =>
              rw [← Option.some.inj hbuilt, if_neg habsolute]

/-- In `PUSH` mode the manifest URL is the push id behind the prefix of the server. -/
theorem manifestUrl_of_push {base id : String}
    (hbase : session.getObjectIngestBaseUrl = some base)
    (hid : session.getObjectAcquisitionPushId = some id)
    (hurls : session.getObjectAcquisitionPullUrls = none) :
    manifestUrl session = if isAbsoluteUrl id then "" else joinUrl base id := by
  rw [manifestUrl, hbase, hid, hurls]
  rfl

/-- A path is let in when it is the push id, whether or not that begins with a slash. -/
theorem validatePushUrl_iff {id url : String} {path : List Char}
    (hurl : url.toList = '/' :: path) :
    validatePushUrl (some id) url = true ↔ path = withoutSlash id.toList := by
  have hstarts : hasLeadingSlash url = true := hasLeadingSlash_iff.mpr (hurl ▸ rfl)
  rw [validatePushUrl]
  simp only [hstarts, Bool.not_true, Bool.and_false, Bool.false_eq_true, if_false, Bool.true_and]
  by_cases hslash : hasLeadingSlash id = true
  · obtain ⟨rest, hrest⟩ := List.head?_eq_some_iff.mp (hasLeadingSlash_iff.mp hslash)
    simp only [hslash, Bool.not_true, Bool.false_eq_true, if_false, decide_eq_true_eq]
    rw [← String.toList_inj, hrest, hurl, List.cons.injEq, and_iff_right rfl]
    exact eq_comm
  · simp only [hslash, Bool.not_false, if_true, decide_eq_true_eq]
    rw [hasLeadingSlash_iff] at hslash
    rw [← String.toList_inj, String.toList_append, hurl, withoutSlash_of_head?_ne hslash]
    exact List.cons.injEq _ _ _ _ ▸ ⟨fun hsame => hsame.2.symm, fun hsame => ⟨rfl, hsame.symm⟩⟩

theorem isManifest_pushed {pusher : PushObjectIngester} {request : Request} {path : List Char}
    (pointer : RequestPtr) (told : Ingest.Surroundings) (hprefixed : pusher.urlPrefix ≠ "")
    (hurl : request.urlPath.toList = '/' :: path) :
    IsManifest session (pusher.processRequest pointer request told).1.objectStore
        (pusher.processRequest pointer request told).2.objectId ↔
      pusher.urlPrefix ++ String.ofList path = manifestUrl session := by
  have hasked : ∀ found, pusher.getIngestServerPrefix found = (pusher, pusher.urlPrefix) := by
    intro found
    rw [PushObjectIngester.getIngestServerPrefix, if_neg hprefixed]
  have hobject : pusher.objectUrl request.urlPath told.urlPrefix =
      (pusher, pusher.urlPrefix ++ String.ofList path) := by
    rw [PushObjectIngester.objectUrl, hurl]
    simp only [hasked]
  rw [PushObjectIngester.processRequest, hobject]
  simp only [hasked]
  exact (isManifest_addObject session _ _ _ _).trans or_self_iff

/-- What is trimmed off a relative id at its end is missing in the manifest URL. -/
theorem trimSlashes_eq_withoutSlash_iff (id : String) :
    (trimSlashes id).toList = withoutSlash id.toList ↔ id = "/" ∨ ¬ EndsWithSlash id := by
  rw [toList_trimSlashes]
  by_cases hends : EndsWithSlash id
  · rw [if_pos hends]
    simp only [hends, not_true_eq_false, or_false]
    have hchars : id.toList = id.toList.dropLast ++ ['/'] :=
      (List.dropLast_append_getLast? '/' hends).symm
    generalize hinit : id.toList.dropLast = init at hchars
    rw [hchars, ← String.toList_inj, hchars]
    cases init with
    | nil => exact iff_of_true rfl rfl
    | cons first rest =>
        refine iff_of_false ?_ ?_
        · intro hsame
          have hlength := congrArg List.length hsame
          by_cases hfirst : first = '/'
          · subst hfirst
            simp [withoutSlash] at hlength
          · rw [withoutSlash_of_head?_ne (by simpa using hfirst),
              withoutSlash_of_head?_ne (by simpa using hfirst)] at hlength
            simp at hlength
        · intro hsame
          have hlength := congrArg List.length hsame
          simp at hlength
  · rw [if_neg hends]
    exact iff_of_true rfl (Or.inr hends)

theorem plain_iff {id : String} (habsolute : isAbsoluteUrl id = false) :
    Plain id ↔ (trimSlashes id).toList = withoutSlash id.toList := by
  rw [trimSlashes_eq_withoutSlash_iff, Plain, and_iff_right habsolute]

/-- The paths of a push session's manifest are those that are let in exactly when the push
id is plain. -/
theorem pushed_iff_plain {base id : String} (hends : EndsWithSlash base)
    (hbase : session.getObjectIngestBaseUrl = some base)
    (hid : session.getObjectAcquisitionPushId = some id)
    (hurls : session.getObjectAcquisitionPullUrls = none) :
    (∀ path, base ++ String.ofList path = manifestUrl session ↔ path = withoutSlash id.toList) ↔
      Plain id := by
  rw [manifestUrl_of_push hbase hid hurls]
  cases habsolute : isAbsoluteUrl id with
  | true =>
      refine iff_of_false ?_ ?_
      · intro hall
        have hempty := (hall (withoutSlash id.toList)).mpr rfl
        have hbaseEmpty : base.toList = [] := by
          have hchars := congrArg String.toList hempty
          rw [String.toList_append] at hchars
          exact (List.append_eq_nil_iff.mp hchars).1
        rw [EndsWithSlash, hbaseEmpty] at hends
        cases hends
      · rintro (rfl | ⟨hnot, -⟩)
        · exact absurd habsolute (by decide)
        · rw [hnot] at habsolute
          cases habsolute
  | false =>
      have hpath : ∀ path, base ++ String.ofList path = joinUrl base id ↔
          path = (trimSlashes id).toList := by
        intro path
        rw [joinUrl_eq_join, join, if_pos hends, String.append_right_inj, ← String.toList_inj,
          String.toList_ofList]
      simp only [Bool.false_eq_true, if_false, hpath, plain_iff habsolute]
      constructor
      · intro hall
        exact (hall _).mp rfl
      · intro hsame path
        rw [hsame]

variable {ingesters : Option (List Session.IngestItem) × Bool}

/-- A manifest that is recognised is recognised under each path that is let in. -/
theorem Recognised.onPath (hrecognised : Recognised surroundings after ingesters)
    (hpushes : ingesters.2 = true) (hnonempty : surroundings.ingestServerPrefix ≠ "")
    {url : String} {path : List Char} (hurl : url.toList = '/' :: path) :
    surroundings.ingestServerPrefix ++ String.ofList path = manifestUrl after ↔
      validatePushUrl after.getObjectAcquisitionPushId url = true := by
  let pusher : PushObjectIngester := { PushObjectIngester.new .new .new with
    urlPrefix := surroundings.ingestServerPrefix }
  let request : Request := { Request.new with urlPath := url }
  have hstarts : hasLeadingSlash url = true := hasLeadingSlash_iff.mpr (hurl ▸ rfl)
  have hpushed :=
    hrecognised.pushed hpushes pusher 0 request ⟨0, 0, 0, "", "", none, "1"⟩ rfl hstarts
  rw [isManifest_pushed 0 _ hnonempty hurl] at hpushed
  exact hpushed

/-- What is pulled has the URL of the manifest. -/
theorem PullAccepted.recognised (hpull : PullAccepted session after ingesters) :
    Recognised surroundings after ingesters where
  pulled := by
    intro items hitems item hitem objectId puller pullerAfter objects next round hfetching
      hingest
    obtain rfl := hpull.same
    rw [hpull.ingesters] at hitems
    have hurl := manifestUrl_of_pull hpull.pushId hpull.pullUrls hitems hitem
    rcases PullObjectIngester.ingest_objects hingest with hsame | ⟨fetched, curl, hfetched, rfl⟩
    · exact Or.inl hsame
    · obtain rfl := Option.some.inj (hfetching.symm.trans hfetched)
      exact Or.inr ((isManifest_addObject _ _ _ _ _).mpr (Or.inl hurl))
  pushed := by
    intro hpushes
    rw [hpull.ingesters] at hpushes
    cases hpushes

/-- What is pushed is recognised if the push id is plain, and only then. -/
theorem PushAccepted.recognised_iff
    (hpush : PushAccepted surroundings session after ingesters)
    (hprefixed : EndsWithSlash surroundings.ingestServerPrefix)
    (hnonempty : surroundings.ingestServerPrefix ≠ "") :
    Recognised surroundings after ingesters ↔ Plain (pushIdOf session) := by
  rw [← pushed_iff_plain hprefixed (hpush.ingestBaseUrl hnonempty) hpush.pushId hpush.pullUrls]
  constructor
  · intro hrecognised path
    have hurl : (String.ofList ('/' :: path)).toList = '/' :: path := String.toList_ofList
    have hpath := hrecognised.onPath (congrArg Prod.snd hpush.ingesters) hnonempty hurl
    rwa [hpush.pushId, validatePushUrl_iff hurl] at hpath
  · intro hall
    refine ⟨?_, ?_⟩
    · intro items hitems
      rw [hpush.ingesters] at hitems
      cases hitems
    · intro _ pusher pointer request told hpusher hstarts
      obtain ⟨path, hurl⟩ := List.head?_eq_some_iff.mp (hasLeadingSlash_iff.mp hstarts)
      rw [isManifest_pushed pointer told (hpusher ▸ hnonempty) hurl, hpush.pushId,
        validatePushUrl_iff hurl, hpusher]
      exact hall path

/-- Without an ingester there is nothing to recognise. -/
theorem recognised_of_none : Recognised surroundings after (none, false) where
  pulled := by
    intro items hitems
    cases hitems
  pushed := by
    intro hpushes
    cases hpushes

/-- The entry manifest is recognised, and nothing else that is pushed, in every session that
is accepted if and only if the session is no push session or its push id is plain. -/
theorem recognised_iff_plain {ingesters : Option (List Session.IngestItem) × Bool}
    (hmade : (objectManifestController surroundings).exec session = (.ok ingesters, after))
    (hprefixed : EndsWithSlash surroundings.ingestServerPrefix) :
    Recognised surroundings after ingesters ↔
      (session.getObjectAcquisitionMethod = "PUSH" → Plain (pushIdOf session)) := by
  have hnonempty : surroundings.ingestServerPrefix ≠ "" := by
    intro hempty
    rw [hempty] at hprefixed
    cases hprefixed
  rcases objectManifestController_made hmade with hpull | hpush | ⟨hmethod, rfl⟩
  · refine iff_of_true hpull.recognised ?_
    intro hpushes
    rw [hpull.method] at hpushes
    exact absurd hpushes (by decide)
  · simp only [hpush.method, forall_const]
    exact hpush.recognised_iff hprefixed hnonempty
  · exact iff_of_true recognised_of_none fun hpushes => absurd hpushes hmethod

end

/-- A streaming session that is pushed to, with a push id. -/
def pushSession (id : Option String) : DistSession where
  distSessionId := "session1"
  distSessionState := none
  mbr := none
  objDistributionData := some {
    objDistributionOperatingMode := "STREAMING", objAcquisitionMethod := "PUSH"
    objAcquisitionIdsPull := none, objAcquisitionIdPush := id
    objIngestBaseUrl := none, objDistributionBaseUrl := none }
  upTrafficFlowInfo := none
  mbUpfTunAddr := none
  others := ""

/-- An ingest server that listens. -/
def listening : Session.Surroundings where
  ingestServerPrefix := "http://127.0.0.1:8080/"
  isAddress := fun _ => true

theorem recognised_iff_plain_manifest :
    ∃ ingesters after,
      (objectManifestController listening).exec (pushSession none) = (.ok ingesters, after) ∧
        (Recognised listening after ingesters ↔
          ((pushSession none).getObjectAcquisitionMethod = "PUSH" →
            Plain (pushIdOf (pushSession none)))) :=
  ⟨_, _, rfl, recognised_iff_plain
    (show (objectManifestController listening).exec (pushSession none) = (.ok _, _) from rfl)
    (by decide)⟩

/-- A push id that is not plain: the manifest is let in, and compared with another URL. -/
theorem not_recognised {id : String}
    (hid : id = "manifest.mpd/" ∨ id = "http://127.0.0.1:8080/manifest.mpd") :
    ∃ ingesters after,
      (objectManifestController listening).exec (pushSession (some id)) =
          (.ok ingesters, after) ∧
        ¬ Recognised listening after ingesters := by
  refine ⟨_, _, rfl, ?_⟩
  intro hrecognised
  have hpushed := hrecognised.onPath rfl (by decide)
    (String.toList_append : ("/" ++ id).toList = '/' :: id.toList)
  rcases hid with rfl | rfl
  · exact absurd hpushed (by decide +kernel)
  · exact absurd hpushed (by decide +kernel)

/-- With a slash at the end of the push id, or a scheme in front of it, the manifest is not
recognised. -/
theorem manifest_not_recognised :
    (∃ ingesters after,
      (objectManifestController listening).exec (pushSession (some "manifest.mpd/")) =
          (.ok ingesters, after) ∧
        ¬ Recognised listening after ingesters) ∧
    ∃ ingesters after,
      (objectManifestController listening).exec
          (pushSession (some "http://127.0.0.1:8080/manifest.mpd")) = (.ok ingesters, after) ∧
        ¬ Recognised listening after ingesters :=
  ⟨not_recognised (Or.inl rfl), not_recognised (Or.inr rfl)⟩

end Mbstf.Controller
