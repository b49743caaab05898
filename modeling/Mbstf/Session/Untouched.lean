import Mbstf.Session.Constructors

/-!
# Sessions that are declined

A constructor that throws has declined the session, and the next one is tried with it.
It should find the distribution data as they were posted.  What a constructor writes
before it throws are the ingest base URL of a push server and the default of the
acquisition id.
-/

namespace Mbstf.Session

/-- A constructor that throws leaves the distribution data of a session alone. -/
def LeavesUntouched (constructor : Construct Controller) (session : DistSession) : Prop :=
  ∀ exception after, constructor.exec session = (.error exception, after) →
    after.objDistributionData = session.objDistributionData

section

variable {constructor : Construct Controller} {session after : DistSession}

theorem leavesUntouched_of_error {exception : StdException}
    (hexec : constructor.exec session = (.error exception, after)) :
    LeavesUntouched constructor session ↔
      after.objDistributionData = session.objDistributionData := by
  constructor
  · intro huntouched
    exact huntouched exception after hexec
  · intro hsame thrown left hthrown
    rw [hexec] at hthrown
    rw [← (Prod.mk.inj hthrown).2]
    exact hsame

theorem leavesUntouched_of_ok {controller : Controller}
    (hexec : constructor.exec session = (.ok controller, after)) :
    LeavesUntouched constructor session := by
  intro exception left hthrown
  rw [hexec] at hthrown
  cases hthrown

end

namespace DistSession

variable (session : DistSession) (surroundings : Surroundings)

/-- The ingest base URL is what a push ingester would make it. -/
def Settled : Prop :=
  session.getObjectIngestBaseUrl =
    if surroundings.ingestServerPrefix = "" then none else some surroundings.ingestServerPrefix

variable {session surroundings}

/-- An ingester writes what is not there yet. -/
theorem data_ingested_iff :
    (session.ingested surroundings).objDistributionData = session.objDistributionData ↔
      (session.getObjectAcquisitionMethod = "PUSH" → session.Settled surroundings) := by
  by_cases hpush : session.getObjectAcquisitionMethod = "PUSH"
  · obtain ⟨data, hdata⟩ := data_of_acquisitionMethod (by decide) hpush
    rw [ingested, if_pos hpush, setObjectIngestBaseUrl, Settled, getObjectIngestBaseUrl, hdata]
    simp only [Option.map_some, Option.some_inj, Option.bind_some, hpush, true_imp_iff]
    constructor
    · intro hsame
      exact (congrArg ObjDistributionData.objIngestBaseUrl hsame).symm
    · intro hsettled
      rw [← hsettled]
  · rw [ingested, if_neg hpush]
    exact iff_of_true rfl (fun h => absurd h hpush)

/-- So does a manifest controller, which writes an acquisition id as well. -/
theorem data_defaulted_ingested_iff :
    (session.defaulted.ingested surroundings).objDistributionData =
        session.objDistributionData ↔
      (session.getObjectAcquisitionMethod = "PUSH" →
        session.getObjectAcquisitionPushId ≠ none ∧ session.Settled surroundings) := by
  by_cases hboth : session.getObjectAcquisitionMethod = "PUSH" ∧
      session.getObjectAcquisitionPushId = none
  · obtain ⟨hpush, hnone⟩ := hboth
    have hid : (session.defaulted.ingested surroundings).getObjectAcquisitionPushId =
        some "manifest" := by
      rw [ingested, acquisitionMethod_defaulted, if_pos hpush, pushId_setIngestBaseUrl,
        pushId_defaulted hpush, hnone]
      rfl
    refine iff_of_false (fun hsame => ?_) (fun hkept => (hkept hpush).1 hnone)
    rw [getObjectAcquisitionPushId, hsame, ← getObjectAcquisitionPushId, hnone] at hid
    cases hid
  · have hdefaulted : session.defaulted = session := if_neg hboth
    rw [hdefaulted, data_ingested_iff]
    exact forall_congr' fun hpush => (and_iff_right fun hnone => hboth ⟨hpush, hnone⟩).symm

end DistSession

/-! ## The two constructors -/

section

variable (surroundings : Surroundings) (session : DistSession)

theorem objectListController_leavesUntouched_iff :
    LeavesUntouched (objectListController surroundings) session ↔
      (session.getObjectAcquisitionMethod = "PUSH" →
        session.getObjectDistributionOperatingMode = "SINGLE" →
        session.getObjectAcquisitionPushId = none →
        session.Packageable surroundings ∨ session.Settled surroundings) := by
  by_cases hmode : session.getObjectDistributionOperatingMode = "SINGLE"
  swap
  · obtain ⟨exception, hexec, -⟩ := exec_objectListController_of_mode surroundings session hmode
    rw [leavesUntouched_of_error hexec]
    exact iff_of_true rfl (fun _ hsingle => absurd hsingle hmode)
  by_cases hrejects : session.ListRejects
  · obtain ⟨exception, hexec, -⟩ :=
      exec_objectListController_of_rejects surroundings session hrejects
    rw [leavesUntouched_of_error hexec]
    exact iff_of_true rfl (fun _ _ hnone => absurd hnone hrejects.2.2)
  have hexec := exec_objectListController_of_accepts surroundings session hmode hrejects
  by_cases hable : session.Packageable surroundings
  · obtain ⟨packager, hpackager⟩ := objectListPackager_of_packageable surroundings session hable
    rw [hpackager] at hexec
    exact iff_of_true (leavesUntouched_of_ok hexec) (fun _ _ _ => Or.inl hable)
  · obtain ⟨exception, hpackager, -⟩ :=
      objectListPackager_of_not_packageable surroundings session hable
    rw [hpackager] at hexec
    rw [leavesUntouched_of_error hexec, DistSession.data_ingested_iff]
    constructor
    · intro hsettled hpush _ _
      exact Or.inr (hsettled hpush)
    · intro hsettled hpush
      have hnone : session.getObjectAcquisitionPushId = none := by
        by_contra hsome
        exact hrejects ⟨hpush, hmode, hsome⟩
      exact (hsettled hpush hmode hnone).resolve_left hable

theorem objectStreamingController_leavesUntouched_iff :
    LeavesUntouched (objectStreamingController surroundings) session ↔
      (session.getObjectAcquisitionMethod = "PUSH" →
        session.getObjectAcquisitionPullUrls = none →
        (session.getObjectDistributionOperatingMode = "STREAMING" ∧
            session.Packageable surroundings) ∨
          (session.getObjectAcquisitionPushId ≠ none ∧ session.Settled surroundings)) := by
  by_cases hrejects : session.ManifestRejects
  · obtain ⟨exception, hexec, -⟩ :=
      exec_objectStreamingController_of_rejects surroundings session hrejects
    rw [leavesUntouched_of_error hexec]
    refine iff_of_true rfl (fun hpush hurls => ?_)
    cases hrejects with
    | inl hpull => exact absurd (hpull.1.symm.trans hpush) (by decide)
    | inr hpushed => exact absurd hurls hpushed.2
  -- What is left to push to has nothing to pull.
  have hurls : session.getObjectAcquisitionMethod = "PUSH" →
      session.getObjectAcquisitionPullUrls = none := by
    intro hpush
    by_contra hsome
    exact hrejects (Or.inr ⟨hpush, hsome⟩)
  by_cases hmade : session.getObjectDistributionOperatingMode = "STREAMING" ∧
      session.Packageable surroundings
  · obtain ⟨hmode, hable⟩ := hmade
    obtain ⟨packager, hpackager⟩ := objectListPackager_of_packageable surroundings session hable
    have hexec := exec_objectStreamingController_of_accepts surroundings session hrejects hmode
    rw [hpackager] at hexec
    exact iff_of_true (leavesUntouched_of_ok hexec) (fun _ _ => Or.inl ⟨hmode, hable⟩)
  have hthrown : ∃ exception, (objectStreamingController surroundings).exec session =
      (.error exception, session.defaulted.ingested surroundings) := by
    by_cases hmode : session.getObjectDistributionOperatingMode = "STREAMING"
    · obtain ⟨exception, hpackager, -⟩ := objectListPackager_of_not_packageable surroundings
        session (fun hable => hmade ⟨hmode, hable⟩)
      rw [exec_objectStreamingController_of_accepts surroundings session hrejects hmode, hpackager]
      exact ⟨exception, rfl⟩
    · obtain ⟨exception, hexec, -⟩ :=
        exec_objectStreamingController_of_mode surroundings session hrejects hmode
      exact ⟨exception, hexec⟩
  obtain ⟨exception, hexec⟩ := hthrown
  rw [leavesUntouched_of_error hexec, DistSession.data_defaulted_ingested_iff]
  constructor
  · intro hkept hpush _
    exact Or.inr (hkept hpush)
  · intro hkept hpush
    exact (hkept hpush (hurls hpush)).resolve_left hmade

/-- A session is declined without a trace just when it is not pushed to, or no constructor
that has come to its ingester throws, or the server and the acquisition id were in the
session already. -/
theorem constructors_leaveUntouched_iff :
    (∀ constructor ∈ constructors surroundings, LeavesUntouched constructor session) ↔
      (session.getObjectAcquisitionMethod = "PUSH" →
        (session.getObjectDistributionOperatingMode = "SINGLE" →
          session.getObjectAcquisitionPushId = none →
            session.Packageable surroundings ∨ session.Settled surroundings) ∧
        (session.getObjectAcquisitionPullUrls = none →
          (session.getObjectDistributionOperatingMode = "STREAMING" ∧
              session.Packageable surroundings) ∨
            (session.getObjectAcquisitionPushId ≠ none ∧ session.Settled surroundings))) := by
  rw [constructors, List.forall_mem_cons, List.forall_mem_singleton,
    objectListController_leavesUntouched_iff, objectStreamingController_leavesUntouched_iff,
    ← forall_and]

end

/-! ## A session that is changed -/

/-- A session that is pushed to, in a mode that no controller supports. -/
def carousel : DistSession where
  distSessionId := "1"
  distSessionState := none
  mbr := none
  objDistributionData := some {
    objDistributionOperatingMode := "CAROUSEL"
    objAcquisitionMethod := "PUSH"
    objAcquisitionIdsPull := none
    objAcquisitionIdPush := none
    objIngestBaseUrl := none
    objDistributionBaseUrl := none }
  upTrafficFlowInfo := none
  mbUpfTunAddr := none
  others := ""

/-- The streaming controller declines it with an acquisition id and the URL of a server. -/
theorem carousel_not_untouched :
    (∃ exception after,
      (objectStreamingController ⟨"http://push.example/", fun _ => true⟩).exec carousel =
          (.error exception, after) ∧
        after.getObjectAcquisitionPushId = some "manifest" ∧
        after.getObjectIngestBaseUrl = some "http://push.example/") ∧
    ¬ ∀ constructor ∈ constructors ⟨"http://push.example/", fun _ => true⟩,
      LeavesUntouched constructor carousel := by
  refine ⟨⟨_, _, rfl, rfl, rfl⟩, fun hall => ?_⟩
  have hsame := hall _ (List.mem_cons_of_mem _ List.mem_cons_self) _ _ rfl
  have hid := congrArg (fun data => data.bind ObjDistributionData.objAcquisitionIdPush) hsame
  cases hid

end Mbstf.Session
