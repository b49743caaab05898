import Mbstf.Core.MapTotal
import Mbstf.Session.DistSession

/-!
# The context

The distribution sessions by their ids, and the load that the network function and
its services advertise.
-/

namespace Mbstf.Session

open Std

/-- `ogs_sbi_nf_service_t`, as far as the load is concerned. -/
structure NfService where
  name : String
  load : ℤ
  deriving DecidableEq

/-- `ogs_sbi_nf_nft` of this network function. -/
structure NfInstance where
  load : ℤ
  nfServiceList : List NfService
  deriving DecidableEq

/-- `Context`, with the network function instance it finds through
`ogs_sbi_self()`; `distMaxAge` is the one of its cache control values the
distribution sessions use. -/
structure Context where
  distributionSessions : ExtTreeMap String DistributionSession
  distMaxAge : ℤ
  nfInstance : NfInstance

/-- `+=` on an `int`.  An overflow has no defined result; this one wraps. -/
def addInt (left right : ℤ) : ℤ := Int.bmod (left + right) (2 ^ 32)

theorem addInt_range (left right : ℤ) :
    -2 ^ 31 ≤ addInt left right ∧ addInt left right < 2 ^ 31 := by
  have hlower := Int.le_bmod (x := left + right) (m := 2 ^ 32) (by norm_num)
  have hupper := Int.bmod_lt (x := left + right) (m := 2 ^ 32) (by norm_num)
  unfold addInt
  omega

/-- An addend shows through only when it is added to zero. -/
theorem addInt_eq_right_iff {left right : ℤ} (hleft : 0 ≤ left) (hleft_lt : left < 2 ^ 31)
    (hright : 0 ≤ right) (hright_lt : right < 2 ^ 31) :
    addInt left right = right ↔ left = 0 := by
  rw [addInt, Int.bmod_def]
  split <;> constructor <;> intro _ <;> omega

/-- The two increments at the end of `updateNFLoad`. -/
def NfInstance.addLoad (nf : NfInstance) (newLoad : ℤ) : NfInstance where
  load := addInt nf.load newLoad
  nfServiceList := nf.nfServiceList.map fun service =>
    if service.name = "nmbstf-distsession" then
      { service with load := addInt service.load newLoad }
    else service

/-- One turn of the loop of `updateNFLoad`.  The total is exact here, where the source adds
doubles. -/
def addMbr (total : ℚ) (session : DistributionSession) : Except StdException ℚ :=
  if session.distSession.getState = .valActive then
    session.distSession.getMbr.map fun mbr => total + (mbr.map BitRate.rate).getD 0
  else .ok total

/-- The loop of `updateNFLoad`, over the sessions in the order of their ids. -/
def totalMbr (sessions : ExtTreeMap String DistributionSession) : Except StdException ℚ :=
  sessions.toList.foldlM (fun total entry => addMbr total entry.2) 0

namespace Context

/-- `updateNFLoad()`. -/
def updateNFLoad (context : Context) : Except StdException Unit × Context :=
  match totalMbr context.distributionSessions with
  | .error exception => (.error exception, context)
  | .ok total =>
      (.ok (), { context with
        nfInstance := context.nfInstance.addLoad (staticCastInt (total / 1000000)) })

/-- `addDistributionSession(session)`: `std::map::insert` leaves a session alone
that has the id already. -/
def addDistributionSession (context : Context) (session : DistributionSession) :
    Except StdException Unit × Context :=
  updateNFLoad { context with
    distributionSessions :=
      context.distributionSessions.insertIfNew session.distributionSessionId session }

/-- `deleteDistributionSession(distributionSessionid)`. -/
def deleteDistributionSession (context : Context) (distributionSessionid : String) :
    Except StdException Unit × Context :=
  if distributionSessionid ∈ context.distributionSessions then
    updateNFLoad { context with
      distributionSessions := context.distributionSessions.erase distributionSessionid }
  else (.error ⟨.outOfRange, "MBST Distribution session not found"⟩, context)

/-- `DistributionSession::find(id)`. -/
def find (context : Context) (id : String) : Except StdException DistributionSession :=
  match context.distributionSessions[id]? with
  | some session => .ok session
  | none => .error ⟨.outOfRange, "MBST Distribution session not found"⟩

end Context

/-! ## The load as a total -/

/-- The bit rate a session adds to the load. -/
def DistributionSession.activeRate (session : DistributionSession) : ℚ :=
  if session.distSession.getState = .valActive then
    match session.distSession.getMbr with
    | .ok (some mbr) => mbr.rate
    | _ => 0
  else 0

/-- The same as of its `DistSession`. -/
def DistributionSession.HasRate (session : DistributionSession) : Prop :=
  session.distSession.HasRate

/-- All bit rates of a map of sessions can be read. -/
def HaveRates (sessions : ExtTreeMap String DistributionSession) : Prop :=
  ∀ (id : String) (session : DistributionSession),
    sessions[id]? = some session → session.HasRate

theorem addMbr_eq {session : DistributionSession} (hrate : session.HasRate) (total : ℚ) :
    addMbr total session = .ok (total + session.activeRate) := by
  obtain ⟨mbr, hmbr⟩ := hrate
  unfold addMbr DistributionSession.activeRate
  split
  · rw [hmbr]
    cases mbr with
    | none => rfl
    | some mbr => rfl
  · rw [add_zero]

theorem foldlM_addMbr {entries : List (String × DistributionSession)}
    (hrates : ∀ entry ∈ entries, entry.2.HasRate) (total : ℚ) :
    entries.foldlM (fun total entry => addMbr total entry.2) total =
      .ok (total + (entries.map fun entry => entry.2.activeRate).sum) := by
  induction entries generalizing total with
  | nil => simp [pure, Except.pure]
  | cons entry entries ih =>
      have hfirst : entry.2.HasRate := hrates entry List.mem_cons_self
      have hrest : ∀ other ∈ entries, other.2.HasRate := fun other hother =>
        hrates other (List.mem_cons_of_mem entry hother)
      rw [List.foldlM_cons, addMbr_eq hfirst]
      change entries.foldlM _ (total + entry.2.activeRate) = _
      rw [ih hrest, List.map_cons, List.sum_cons, add_assoc]

/-- The bit rates of the sessions in state `ACTIVE`, added up. -/
def Context.activeTotal (context : Context) : ℚ :=
  MapTotal.total DistributionSession.activeRate context.distributionSessions

theorem totalMbr_eq {sessions : ExtTreeMap String DistributionSession}
    (hrates : HaveRates sessions) :
    totalMbr sessions = .ok (MapTotal.total DistributionSession.activeRate sessions) := by
  have hentries : ∀ entry ∈ sessions.toList, entry.2.HasRate := fun entry hentry =>
    hrates entry.1 entry.2 (ExtTreeMap.mem_toList_iff_getElem?_eq_some.mp hentry)
  rw [totalMbr, foldlM_addMbr hentries, zero_add]
  rfl

namespace Context

theorem updateNFLoad_eq {context : Context} (hrates : HaveRates context.distributionSessions) :
    context.updateNFLoad = (.ok (), { context with
      nfInstance :=
        context.nfInstance.addLoad (staticCastInt (context.activeTotal / 1000000)) }) := by
  rw [updateNFLoad, totalMbr_eq hrates]
  rfl

end Context

/-! ## What the two operations do to the map -/

theorem getElem?_insertIfNew_id (sessions : ExtTreeMap String DistributionSession)
    (session : DistributionSession) (id : String) :
    (sessions.insertIfNew session.distributionSessionId session)[id]? =
      if id = session.distributionSessionId ∧ id ∉ sessions then some session
      else sessions[id]? := by
  rw [ExtTreeMap.getElem?_insertIfNew]
  by_cases hid : id = session.distributionSessionId
  · subst hid
    simp
  · have hcompare : compare session.distributionSessionId id ≠ .eq := by
      intro heq
      exact hid (LawfulEqCmp.compare_eq_iff_eq.mp heq).symm
    simp [hcompare, hid]

theorem getElem?_erase_id (sessions : ExtTreeMap String DistributionSession)
    (erased id : String) :
    (sessions.erase erased)[id]? = if id = erased then none else sessions[id]? := by
  rw [ExtTreeMap.getElem?_erase]
  by_cases hid : id = erased
  · subst hid
    simp
  · have hcompare : compare erased id ≠ .eq := by
      intro heq
      exact hid (LawfulEqCmp.compare_eq_iff_eq.mp heq).symm
    simp [hcompare, hid]

theorem HaveRates.insertIfNew {sessions : ExtTreeMap String DistributionSession}
    (hrates : HaveRates sessions) {session : DistributionSession} (hsession : session.HasRate) :
    HaveRates (sessions.insertIfNew session.distributionSessionId session) := by
  intro id found hfound
  rw [getElem?_insertIfNew_id] at hfound
  split at hfound
  · obtain rfl : session = found := Option.some.inj hfound
    exact hsession
  · exact hrates id found hfound

theorem HaveRates.erase {sessions : ExtTreeMap String DistributionSession}
    (hrates : HaveRates sessions) (erased : String) : HaveRates (sessions.erase erased) := by
  intro id found hfound
  rw [getElem?_erase_id] at hfound
  split at hfound
  · contradiction
  · exact hrates id found hfound

namespace Context

theorem addDistributionSession_ok {context : Context}
    (hrates : HaveRates context.distributionSessions) {session : DistributionSession}
    (hsession : session.HasRate) :
    ∃ after, context.addDistributionSession session = (.ok (), after) ∧
      after.distributionSessions = context.distributionSessions.insertIfNew
        session.distributionSessionId session :=
  ⟨_, updateNFLoad_eq (hrates.insertIfNew hsession), rfl⟩

theorem deleteDistributionSession_ok {context : Context}
    (hrates : HaveRates context.distributionSessions) {id : String}
    (hmem : id ∈ context.distributionSessions) :
    ∃ after, context.deleteDistributionSession id = (.ok (), after) ∧
      after.distributionSessions = context.distributionSessions.erase id := by
  rw [deleteDistributionSession, if_pos hmem]
  exact ⟨_, updateNFLoad_eq (hrates.erase id), rfl⟩

end Context

end Mbstf.Session
