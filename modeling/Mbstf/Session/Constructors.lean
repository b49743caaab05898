import Mbstf.Session.Controllers

/-!
# What the constructors do

The result of each constructor and the session as it is left, for every session.  The
manifest controller validates first, then writes the acquisition id and the ingest base
URL; the operating mode and the bit rate are looked at after that.
-/

namespace Mbstf.Session

namespace DistSession

variable (session : DistSession)

/-! ## What the setters leave alone -/

@[simp]
theorem operatingMode_setIngestBaseUrl (url : String) :
    (session.setObjectIngestBaseUrl url).getObjectDistributionOperatingMode =
      session.getObjectDistributionOperatingMode := by
  simp [setObjectIngestBaseUrl, getObjectDistributionOperatingMode, Function.comp_def]

@[simp]
theorem acquisitionMethod_setIngestBaseUrl (url : String) :
    (session.setObjectIngestBaseUrl url).getObjectAcquisitionMethod =
      session.getObjectAcquisitionMethod := by
  simp [setObjectIngestBaseUrl, getObjectAcquisitionMethod, Function.comp_def]

@[simp]
theorem pullUrls_setIngestBaseUrl (url : String) :
    (session.setObjectIngestBaseUrl url).getObjectAcquisitionPullUrls =
      session.getObjectAcquisitionPullUrls := by
  rw [getObjectAcquisitionPullUrls, setObjectIngestBaseUrl, Option.bind_map,
    getObjectAcquisitionPullUrls]
  rfl

@[simp]
theorem pushId_setIngestBaseUrl (url : String) :
    (session.setObjectIngestBaseUrl url).getObjectAcquisitionPushId =
      session.getObjectAcquisitionPushId := by
  rw [getObjectAcquisitionPushId, setObjectIngestBaseUrl, Option.bind_map,
    getObjectAcquisitionPushId]
  rfl

@[simp]
theorem operatingMode_setPushId (id : Option String) :
    (session.setObjectAcquisitionIdPush id).getObjectDistributionOperatingMode =
      session.getObjectDistributionOperatingMode := by
  simp [setObjectAcquisitionIdPush, getObjectDistributionOperatingMode, Function.comp_def]

@[simp]
theorem acquisitionMethod_setPushId (id : Option String) :
    (session.setObjectAcquisitionIdPush id).getObjectAcquisitionMethod =
      session.getObjectAcquisitionMethod := by
  simp [setObjectAcquisitionIdPush, getObjectAcquisitionMethod, Function.comp_def]

@[simp]
theorem pullUrls_setPushId (id : Option String) :
    (session.setObjectAcquisitionIdPush id).getObjectAcquisitionPullUrls =
      session.getObjectAcquisitionPullUrls := by
  rw [getObjectAcquisitionPullUrls, setObjectAcquisitionIdPush, Option.bind_map,
    getObjectAcquisitionPullUrls]
  rfl

variable {session}

/-- A method is named in the distribution data. -/
theorem data_of_acquisitionMethod {name : String} (hname : name ≠ "")
    (hmethod : session.getObjectAcquisitionMethod = name) :
    ∃ data, session.objDistributionData = some data := by
  cases hdata : session.objDistributionData with
  | some data => exact ⟨data, rfl⟩
  | none =>
      rw [getObjectAcquisitionMethod, hdata] at hmethod
      exact absurd hmethod.symm hname

/-- An acquisition id that is set is there afterwards. -/
theorem pushId_setPushId {name : String} (hname : name ≠ "")
    (hmethod : session.getObjectAcquisitionMethod = name) (id : Option String) :
    (session.setObjectAcquisitionIdPush id).getObjectAcquisitionPushId = id := by
  obtain ⟨data, hdata⟩ := data_of_acquisitionMethod hname hmethod
  simp [getObjectAcquisitionPushId, setObjectAcquisitionIdPush, hdata]

/-- So is an ingest base URL that is not empty. -/
theorem ingestBaseUrl_setIngestBaseUrl {name : String} (hname : name ≠ "")
    (hmethod : session.getObjectAcquisitionMethod = name) {url : String} (hurl : url ≠ "") :
    (session.setObjectIngestBaseUrl url).getObjectIngestBaseUrl = some url := by
  obtain ⟨data, hdata⟩ := data_of_acquisitionMethod hname hmethod
  simp [getObjectIngestBaseUrl, setObjectIngestBaseUrl, hdata, hurl]

/-! ## What the constructors write and turn down -/

variable (session)

/-- The session once its ingester is there: the server of a push ingester has a prefix. -/
def ingested (surroundings : Surroundings) : DistSession :=
  if session.getObjectAcquisitionMethod = "PUSH" then
    session.setObjectIngestBaseUrl surroundings.ingestServerPrefix
  else session

/-- The session with the acquisition id a manifest controller gives it. -/
def defaulted : DistSession :=
  if session.getObjectAcquisitionMethod = "PUSH" ∧ session.getObjectAcquisitionPushId = none then
    session.setObjectAcquisitionIdPush (some "manifest")
  else session

/-- The ingesters that are made for a session. -/
def ingesters : Option (List IngestItem) × Bool :=
  if session.getObjectAcquisitionMethod = "PULL" then (initPullObjectIngester session, false)
  else (none, session.getObjectAcquisitionMethod = "PUSH")

/-- A session to pull for that a manifest controller turns down. -/
def RejectsPull : Prop :=
  session.getObjectAcquisitionMethod = "PULL" ∧
    ((∃ urls, session.getObjectAcquisitionPullUrls = some urls ∧ urls.length ≠ 1) ∨
      session.getObjectAcquisitionPushId ≠ none)

/-- A session to push to that a manifest controller turns down. -/
def RejectsPush : Prop :=
  session.getObjectAcquisitionMethod = "PUSH" ∧ session.getObjectAcquisitionPullUrls ≠ none

/-- A session that a manifest controller turns down, whatever its operating mode. -/
def ManifestRejects : Prop := session.RejectsPull ∨ session.RejectsPush

/-- A session in `SINGLE` mode that the list controller turns down. -/
def ListRejects : Prop :=
  session.getObjectAcquisitionMethod = "PUSH" ∧
    session.getObjectDistributionOperatingMode = "SINGLE" ∧
    session.getObjectAcquisitionPushId ≠ none

/-- A packager can be made for a session. -/
def Packageable (surroundings : Surroundings) : Prop :=
  session.HasRate ∧ session.getTunnelAddr.all surroundings.isAddress = true

variable {session}

theorem validateListSession_iff : validateListSession session = true ↔ ¬ session.ListRejects := by
  rw [validateListSession, ListRejects, Option.ne_none_iff_isSome, Bool.not_eq_true',
    decide_eq_false_iff_not]

@[simp]
theorem operatingMode_ingested (surroundings : Surroundings) :
    (session.ingested surroundings).getObjectDistributionOperatingMode =
      session.getObjectDistributionOperatingMode := by
  rw [ingested]
  split
  · exact operatingMode_setIngestBaseUrl session _
  · rfl

@[simp]
theorem acquisitionMethod_defaulted :
    session.defaulted.getObjectAcquisitionMethod = session.getObjectAcquisitionMethod := by
  rw [defaulted]
  split
  · exact acquisitionMethod_setPushId session _
  · rfl

@[simp]
theorem pullUrls_defaulted :
    session.defaulted.getObjectAcquisitionPullUrls = session.getObjectAcquisitionPullUrls := by
  rw [defaulted]
  split
  · exact pullUrls_setPushId session _
  · rfl

theorem pushId_defaulted (hpush : session.getObjectAcquisitionMethod = "PUSH") :
    session.defaulted.getObjectAcquisitionPushId =
      some (session.getObjectAcquisitionPushId.getD "manifest") := by
  cases hid : session.getObjectAcquisitionPushId with
  | none =>
      rw [defaulted, if_pos ⟨hpush, hid⟩, pushId_setPushId (by decide) hpush]
      rfl
  | some id =>
      have hsome : ¬ (session.getObjectAcquisitionMethod = "PUSH" ∧
          session.getObjectAcquisitionPushId = none) := by
        rw [hid]
        exact fun hboth => Option.some_ne_none id hboth.2
      rw [defaulted, if_neg hsome, hid]
      rfl

@[simp]
theorem operatingMode_defaulted :
    session.defaulted.getObjectDistributionOperatingMode =
      session.getObjectDistributionOperatingMode := by
  rw [defaulted]
  split
  · exact operatingMode_setPushId session _
  · rfl

/-- The list controller leaves nothing behind that a manifest controller looks at. -/
theorem manifestRejects_ingested (surroundings : Surroundings) :
    (session.ingested surroundings).ManifestRejects ↔ session.ManifestRejects := by
  rw [ingested]
  split
  · simp [ManifestRejects, RejectsPull, RejectsPush]
  · rfl

end DistSession

/-! ## The exact results -/

namespace Construct

theorem exec_get (session : DistSession) :
    (get : Construct DistSession).exec session = (.ok session, session) := rfl

theorem exec_throw {Value : Type} (exception : StdException) (session : DistSession) :
    (throw exception : Construct Value).exec session = (.error exception, session) := rfl

end Construct

section

variable (surroundings : Surroundings) (session : DistSession)

theorem exec_initObjectIngester :
    (initObjectIngester surroundings).exec session =
      (.ok session.ingesters, session.ingested surroundings) := by
  rw [initObjectIngester, Construct.exec_bind, Construct.exec_get]
  dsimp only
  by_cases hpull : session.getObjectAcquisitionMethod = "PULL"
  · have hnotPush : session.getObjectAcquisitionMethod ≠ "PUSH" := by
      rw [hpull]
      decide
    rw [if_pos hpull, DistSession.ingesters, if_pos hpull, DistSession.ingested, if_neg hnotPush]
    rfl
  · rw [if_neg hpull, DistSession.ingesters, if_neg hpull]
    by_cases hpush : session.getObjectAcquisitionMethod = "PUSH"
    · rw [if_pos hpush, DistSession.ingested, if_pos hpush, decide_eq_true hpush]
      rfl
    · rw [if_neg hpush, DistSession.ingested, if_neg hpush, decide_eq_false hpush]
      rfl

theorem exec_validatePull_of_rejects (hrejects : session.RejectsPull) :
    ∃ exception, validatePullAcquisitionMethod.exec session = (.error exception, session) ∧
      exception.isRuntimeError = true := by
  obtain ⟨hpull, hwhy⟩ := hrejects
  rw [validatePullAcquisitionMethod, Construct.exec_bind, Construct.exec_get]
  dsimp only
  rw [if_pos hpull]
  cases hurls : session.getObjectAcquisitionPullUrls with
  | none =>
      have hid : session.getObjectAcquisitionPushId.isSome = true := by
        simpa [hurls, Option.ne_none_iff_isSome] using hwhy
      dsimp only
      rw [if_pos hid]
      exact ⟨_, rfl, rfl⟩
  | some urls =>
      dsimp only
      by_cases hone : urls.length ≠ 1
      · rw [if_pos hone]
        exact ⟨_, rfl, rfl⟩
      · have hid : session.getObjectAcquisitionPushId.isSome = true := by
          simpa [hurls, not_not.mp hone, Option.ne_none_iff_isSome] using hwhy
        rw [if_neg hone, if_pos hid]
        exact ⟨_, rfl, rfl⟩

theorem exec_validatePull_of_accepts (haccepts : ¬ session.RejectsPull) :
    validatePullAcquisitionMethod.exec session = (.ok (), session) := by
  rw [validatePullAcquisitionMethod, Construct.exec_bind, Construct.exec_get]
  dsimp only
  by_cases hpull : session.getObjectAcquisitionMethod = "PULL"
  · rw [DistSession.RejectsPull, not_and, not_or, not_not] at haccepts
    obtain ⟨hcount, hid⟩ := haccepts hpull
    rw [if_pos hpull, hid]
    cases hurls : session.getObjectAcquisitionPullUrls with
    | none => rfl
    | some urls =>
        have hone : ¬ urls.length ≠ 1 := fun hne => hcount ⟨urls, hurls, hne⟩
        dsimp only
        rw [if_neg hone]
        rfl
  · rw [if_neg hpull]
    rfl

theorem exec_validatePush_of_rejects (hrejects : session.RejectsPush) :
    ∃ exception, validatePushAcquisitionMethod.exec session = (.error exception, session) ∧
      exception.isRuntimeError = true := by
  obtain ⟨hpush, hurls⟩ := hrejects
  rw [validatePushAcquisitionMethod, Construct.exec_bind, Construct.exec_get]
  dsimp only
  rw [if_pos hpush, if_pos (Option.ne_none_iff_isSome.mp hurls)]
  exact ⟨_, rfl, rfl⟩

theorem exec_validatePush_of_accepts (haccepts : ¬ session.RejectsPush) :
    validatePushAcquisitionMethod.exec session = (.ok (), session.defaulted) := by
  rw [validatePushAcquisitionMethod, Construct.exec_bind, Construct.exec_get]
  dsimp only
  by_cases hpush : session.getObjectAcquisitionMethod = "PUSH"
  · rw [DistSession.RejectsPush, not_and, not_not] at haccepts
    have hurls : ¬ session.getObjectAcquisitionPullUrls.isSome = true :=
      Option.not_isSome_iff_eq_none.mpr (haccepts hpush)
    rw [if_pos hpush, if_neg hurls, DistSession.defaulted]
    by_cases hid : session.getObjectAcquisitionPushId = none
    · rw [if_pos (Option.isNone_iff_eq_none.mpr hid), if_pos ⟨hpush, hid⟩]
      rfl
    · have hsome : ¬ session.getObjectAcquisitionPushId.isNone = true :=
        fun hnone => hid (Option.isNone_iff_eq_none.mp hnone)
      rw [if_neg hsome, if_neg (fun hboth => hid hboth.2)]
      rfl
  · rw [if_neg hpush, DistSession.defaulted, if_neg (fun hboth => hpush hboth.1)]
    rfl

theorem exec_objectManifestController_of_rejects (hrejects : session.ManifestRejects) :
    ∃ exception, (objectManifestController surroundings).exec session =
        (.error exception, session) ∧ exception.isRuntimeError = true := by
  rw [objectManifestController, Construct.exec_bind]
  by_cases hpull : session.RejectsPull
  · obtain ⟨exception, hexec, hruntime⟩ := exec_validatePull_of_rejects session hpull
    rw [hexec]
    exact ⟨exception, rfl, hruntime⟩
  · obtain ⟨exception, hexec, hruntime⟩ :=
      exec_validatePush_of_rejects session (hrejects.resolve_left hpull)
    rw [exec_validatePull_of_accepts session hpull]
    dsimp only
    rw [Construct.exec_bind, hexec]
    exact ⟨exception, rfl, hruntime⟩

theorem exec_objectManifestController_of_accepts (haccepts : ¬ session.ManifestRejects) :
    (objectManifestController surroundings).exec session =
      (.ok session.defaulted.ingesters, session.defaulted.ingested surroundings) := by
  rw [DistSession.ManifestRejects, not_or] at haccepts
  rw [objectManifestController, Construct.exec_bind,
    exec_validatePull_of_accepts session haccepts.1]
  dsimp only
  rw [Construct.exec_bind, exec_validatePush_of_accepts session haccepts.2]
  exact exec_initObjectIngester surroundings session.defaulted

theorem objectListPackager_ingested :
    objectListPackager surroundings (session.ingested surroundings) =
      objectListPackager surroundings session := by
  rw [DistSession.ingested]
  split
  · rfl
  · rfl

theorem objectListPackager_defaulted :
    objectListPackager surroundings session.defaulted =
      objectListPackager surroundings session := by
  rw [DistSession.defaulted]
  split
  · rfl
  · rfl

/-- A bit rate that cannot be read ends no search for a controller. -/
theorem getMbr_throwsLogic : ThrowsLogic session.getMbr := by
  rw [DistSession.getMbr]
  cases session.mbr with
  | none => exact ThrowsLogic.ok none
  | some mbr => exact (bitRate_throwsLogic mbr).map some

theorem objectListPackager_of_packageable (hable : session.Packageable surroundings) :
    ∃ packager, objectListPackager surroundings session = .ok packager := by
  obtain ⟨⟨mbr, hmbr⟩, htunnel⟩ := hable
  rw [objectListPackager, DistSession.getRateLimit, hmbr]
  cases mbr with
  | none => exact ⟨_, if_pos htunnel⟩
  | some mbr => exact ⟨_, if_pos htunnel⟩

/-- A bit rate that cannot be read is no runtime error, a tunnel address that is none is. -/
theorem objectListPackager_of_not_packageable (hunable : ¬ session.Packageable surroundings) :
    ∃ exception, objectListPackager surroundings session = .error exception ∧
      (exception.isRuntimeError = true ↔ session.HasRate) := by
  cases hmbr : session.getMbr with
  | ok mbr =>
      have hrate : session.HasRate := ⟨mbr, hmbr⟩
      have htunnel : ¬ session.getTunnelAddr.all surroundings.isAddress = true :=
        fun htunnel => hunable ⟨hrate, htunnel⟩
      rw [objectListPackager, DistSession.getRateLimit, hmbr]
      cases mbr with
      | none => exact ⟨_, if_neg htunnel, iff_of_true rfl hrate⟩
      | some mbr => exact ⟨_, if_neg htunnel, iff_of_true rfl hrate⟩
  | error exception =>
      rw [objectListPackager, DistSession.getRateLimit, hmbr]
      have hlogic : exception.isRuntimeError = false := getMbr_throwsLogic session exception hmbr
      refine ⟨exception, rfl, iff_of_false ?_ ?_⟩
      · rw [hlogic]
        exact Bool.false_ne_true
      · rintro ⟨mbr, hread⟩
        rw [hmbr] at hread
        cases hread

/-! ## The two constructors -/

theorem exec_objectListController_of_mode
    (hmode : session.getObjectDistributionOperatingMode ≠ "SINGLE") :
    ∃ exception, (objectListController surroundings).exec session = (.error exception, session) ∧
      exception.isRuntimeError = false := by
  rw [objectListController, Construct.exec_bind, Construct.exec_get]
  dsimp only
  rw [if_pos hmode]
  exact ⟨_, rfl, rfl⟩

theorem exec_objectListController_of_rejects (hrejects : session.ListRejects) :
    ∃ exception, (objectListController surroundings).exec session = (.error exception, session) ∧
      exception.isRuntimeError = true := by
  have hinvalid : (!validateListSession session) = true := by
    rw [Bool.not_eq_true', ← Bool.not_eq_true, DistSession.validateListSession_iff, not_not]
    exact hrejects
  rw [objectListController, Construct.exec_bind, Construct.exec_get]
  dsimp only
  rw [if_neg (not_not.mpr hrejects.2.1), if_pos hinvalid]
  exact ⟨_, rfl, rfl⟩

/-- A session that passes the checks of the list controller is left with its ingester. -/
theorem exec_objectListController_of_accepts
    (hmode : session.getObjectDistributionOperatingMode = "SINGLE")
    (haccepts : ¬ session.ListRejects) :
    (objectListController surroundings).exec session =
      ((objectListPackager surroundings session).map fun packager =>
        ⟨.objectList, session.ingesters.1, session.ingesters.2, packager⟩,
        session.ingested surroundings) := by
  have hvalid : ¬ (!validateListSession session) = true := by
    rw [DistSession.validateListSession_iff.mpr haccepts]
    decide
  rw [objectListController, Construct.exec_bind, Construct.exec_get]
  dsimp only
  rw [if_neg (not_not.mpr hmode), if_neg hvalid, Construct.exec_bind, exec_initObjectIngester]
  dsimp only
  rw [Construct.exec_bind, exec_setObjectListPackager, objectListPackager_ingested]
  cases objectListPackager surroundings session with
  | ok packager => rfl
  | error exception => rfl

theorem exec_objectStreamingController_of_rejects (hrejects : session.ManifestRejects) :
    ∃ exception, (objectStreamingController surroundings).exec session =
        (.error exception, session) ∧ exception.isRuntimeError = true := by
  obtain ⟨exception, hexec, hruntime⟩ :=
    exec_objectManifestController_of_rejects surroundings session hrejects
  rw [objectStreamingController, Construct.exec_bind, hexec]
  exact ⟨exception, rfl, hruntime⟩

/-- The operating mode is turned down when the acquisition id and the ingest base URL have
been written. -/
theorem exec_objectStreamingController_of_mode (haccepts : ¬ session.ManifestRejects)
    (hmode : session.getObjectDistributionOperatingMode ≠ "STREAMING") :
    ∃ exception, (objectStreamingController surroundings).exec session =
        (.error exception, session.defaulted.ingested surroundings) ∧
      exception.isRuntimeError = false := by
  rw [objectStreamingController, Construct.exec_bind,
    exec_objectManifestController_of_accepts surroundings session haccepts]
  dsimp only
  rw [Construct.exec_bind, Construct.exec_get]
  dsimp only
  rw [DistSession.operatingMode_ingested, DistSession.operatingMode_defaulted, if_pos hmode]
  exact ⟨_, rfl, rfl⟩

theorem exec_objectStreamingController_of_accepts (haccepts : ¬ session.ManifestRejects)
    (hmode : session.getObjectDistributionOperatingMode = "STREAMING") :
    (objectStreamingController surroundings).exec session =
      ((objectListPackager surroundings session).map fun packager =>
        ⟨.objectStreaming, session.defaulted.ingesters.1, session.defaulted.ingesters.2, packager⟩,
        session.defaulted.ingested surroundings) := by
  rw [objectStreamingController, Construct.exec_bind,
    exec_objectManifestController_of_accepts surroundings session haccepts]
  dsimp only
  rw [Construct.exec_bind, Construct.exec_get]
  dsimp only
  rw [DistSession.operatingMode_ingested, DistSession.operatingMode_defaulted,
    if_neg (not_not.mpr hmode), Construct.exec_bind, exec_setObjectListPackager,
    objectListPackager_ingested, objectListPackager_defaulted]
  cases objectListPackager surroundings session with
  | ok packager => rfl
  | error exception => rfl

end

end Mbstf.Session
