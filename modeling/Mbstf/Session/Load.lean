import Mbstf.Core.Runs
import Mbstf.Session.Context

/-!
# The advertised load

The load should be the bit rate of the active sessions in whole Mbit/s.  Each
update adds this number to the load there was, so the two agree just as long as
every update starts from a load of zero.
-/

namespace Mbstf.Session

open Std Mbstf.Runs

/-- A session whose bit rate, if it has one, is a non-negative rational. -/
structure RatedSession where
  session : DistributionSession
  mbr : Option BitRate
  getMbr_eq : session.distSession.getMbr = .ok mbr
  mbr_finite : ∀ bitRate ∈ mbr, bitRate.exact = .finite bitRate.rate
  mbr_nonneg : ∀ bitRate ∈ mbr, 0 ≤ bitRate.rate

theorem RatedSession.hasRate (rated : RatedSession) : rated.session.HasRate :=
  ⟨rated.mbr, rated.getMbr_eq⟩

theorem RatedSession.activeRate_nonneg (rated : RatedSession) :
    0 ≤ rated.session.activeRate := by
  rw [DistributionSession.activeRate, rated.getMbr_eq]
  cases hmbr : rated.mbr with
  | none => simp
  | some bitRate =>
      have hrate : 0 ≤ bitRate.rate := rated.mbr_nonneg bitRate hmbr
      split
      · exact hrate
      · exact le_rfl

/-- The calls that change the sessions. -/
inductive Call where
  | addDistributionSession (rated : RatedSession)
  | deleteDistributionSession (distributionSessionid : String)

namespace Context

/-- One call; a call that throws leaves a context as well. -/
def call (context : Context) : Call → Option Context
  | .addDistributionSession rated => some (context.addDistributionSession rated.session).2
  | .deleteDistributionSession id => some (context.deleteDistributionSession id).2

/-- No sessions and no load yet. -/
def start (distMaxAge : ℤ) (services : List String) : Context where
  distributionSessions := ∅
  distMaxAge := distMaxAge
  nfInstance := ⟨0, services.map fun name => ⟨name, 0⟩⟩

end Context

/-- The network function and each of its distribution session services advertise
a load. -/
def NfInstance.Advertises (nf : NfInstance) (load : ℤ) : Prop :=
  nf.load = load ∧
    ∀ service ∈ nf.nfServiceList, service.name = "nmbstf-distsession" → service.load = load

namespace Context

/-- The load is the total bit rate of the active sessions, in whole Mbit/s. -/
def LoadCurrent (context : Context) : Prop :=
  context.nfInstance.Advertises ⌊context.activeTotal / 1000000⌋

/-- The load before an update is zero, and the one after it fits an `int`. -/
def StartsFromZero (context : Context) : Call → Prop
  | .addDistributionSession rated =>
      context.activeTotal < 1000000 ∧
        (rated.session.distributionSessionId ∉ context.distributionSessions →
          context.activeTotal + rated.session.activeRate < 2 ^ 31 * 1000000)
  | .deleteDistributionSession id =>
      id ∈ context.distributionSessions → context.activeTotal < 1000000

/-- What every call keeps, whatever becomes of the load. -/
structure Sound (context : Context) : Prop where
  haveRates : HaveRates context.distributionSessions
  rates_nonneg : ∀ (id : String) (session : DistributionSession),
    context.distributionSessions[id]? = some session → 0 ≤ session.activeRate
  load_lt : context.nfInstance.load < 2 ^ 31

end Context

/-! ## One update -/

/-- An `int` that the new load was added to shows the new load if and only if it
was zero and the new load fits. -/
theorem addInt_staticCastInt_iff {load : ℤ} {total next : ℚ}
    (hload : load = ⌊total / 1000000⌋) (hload_lt : load < 2 ^ 31)
    (htotal : 0 ≤ total) (hnext : 0 ≤ next) :
    addInt load (staticCastInt (next / 1000000)) = ⌊next / 1000000⌋ ↔
      total < 1000000 ∧ next < 2 ^ 31 * 1000000 := by
  have hload_nonneg : 0 ≤ load := by
    rw [hload]
    exact Int.floor_nonneg.mpr (by positivity)
  have hnext_nonneg : 0 ≤ ⌊next / 1000000⌋ := Int.floor_nonneg.mpr (by positivity)
  have hzero : load = 0 ↔ total < 1000000 := by
    rw [hload, Int.floor_eq_zero_iff, Set.mem_Ico, div_lt_one (by norm_num)]
    exact ⟨fun h => h.2, fun h => ⟨by positivity, h⟩⟩
  have hfits : next < 2 ^ 31 * 1000000 ↔ ⌊next / 1000000⌋ < 2 ^ 31 := by
    rw [Int.floor_lt, div_lt_iff₀ (by norm_num)]
    norm_num
  constructor
  · intro hcurrent
    have hupper : ⌊next / 1000000⌋ < 2 ^ 31 := by
      rw [← hcurrent]
      exact (addInt_range _ _).2
    have hcast : staticCastInt (next / 1000000) = ⌊next / 1000000⌋ :=
      staticCastInt_of_lt (by positivity)
        ((div_lt_iff₀ (by norm_num)).mpr (hfits.mpr hupper))
    rw [hcast, addInt_eq_right_iff hload_nonneg hload_lt hnext_nonneg hupper] at hcurrent
    exact ⟨hzero.mp hcurrent, hfits.mpr hupper⟩
  · rintro ⟨hsmall, hbound⟩
    have hcast : staticCastInt (next / 1000000) = ⌊next / 1000000⌋ :=
      staticCastInt_of_lt (by positivity) ((div_lt_iff₀ (by norm_num)).mpr hbound)
    have hupper : ⌊next / 1000000⌋ < 2 ^ 31 := hfits.mp hbound
    rw [hcast, addInt_eq_right_iff hload_nonneg hload_lt hnext_nonneg hupper]
    exact hzero.mpr hsmall

theorem NfInstance.Advertises.addLoad_iff {nf : NfInstance} {total next : ℚ}
    (hload : nf.Advertises ⌊total / 1000000⌋) (hload_lt : nf.load < 2 ^ 31)
    (htotal : 0 ≤ total) (hnext : 0 ≤ next) :
    (nf.addLoad (staticCastInt (next / 1000000))).Advertises ⌊next / 1000000⌋ ↔
      total < 1000000 ∧ next < 2 ^ 31 * 1000000 := by
  have hself := addInt_staticCastInt_iff hload.1 hload_lt htotal hnext
  constructor
  · intro hcurrent
    exact hself.mp hcurrent.1
  · intro hguard
    have hcurrent := hself.mpr hguard
    refine ⟨hcurrent, ?_⟩
    intro service hservice hname
    obtain ⟨before, hbefore, rfl⟩ := List.mem_map.mp hservice
    by_cases hnamed : before.name = "nmbstf-distsession"
    · have hsame : before.load = nf.load := by
        rw [hload.1]
        exact hload.2 before hbefore hnamed
      rw [if_pos hnamed, hsame]
      exact hcurrent
    · rw [if_neg hnamed] at hname
      exact absurd hname hnamed

namespace Context

theorem Sound.activeTotal_nonneg {context : Context} (hsound : context.Sound) :
    0 ≤ context.activeTotal := by
  apply List.sum_nonneg
  intro rate hrate
  obtain ⟨entry, hentry, rfl⟩ := List.mem_map.mp hrate
  exact hsound.rates_nonneg entry.1 entry.2
    (ExtTreeMap.mem_toList_iff_getElem?_eq_some.mp hentry)

/-- An update, after the sessions have become `sessions`. -/
theorem LoadCurrent.updateNFLoad_iff {context : Context} (hload : context.LoadCurrent)
    (hsound : context.Sound) {sessions : ExtTreeMap String DistributionSession}
    (hnext : Sound { context with distributionSessions := sessions }) :
    (updateNFLoad { context with distributionSessions := sessions }).2.LoadCurrent ↔
      context.activeTotal < 1000000 ∧
        activeTotal { context with distributionSessions := sessions } < 2 ^ 31 * 1000000 := by
  rw [updateNFLoad_eq hnext.haveRates]
  exact NfInstance.Advertises.addLoad_iff hload hsound.load_lt hsound.activeTotal_nonneg
    hnext.activeTotal_nonneg

theorem Sound.updateNFLoad {context : Context} (hsound : context.Sound) :
    context.updateNFLoad.2.Sound := by
  rw [updateNFLoad_eq hsound.haveRates]
  exact ⟨hsound.haveRates, hsound.rates_nonneg, (addInt_range _ _).2⟩

theorem Sound.insertIfNew {context : Context} (hsound : context.Sound) (rated : RatedSession) :
    Sound { context with
      distributionSessions := context.distributionSessions.insertIfNew
        rated.session.distributionSessionId rated.session } where
  haveRates := hsound.haveRates.insertIfNew rated.hasRate
  rates_nonneg := by
    intro id session hsession
    rw [getElem?_insertIfNew_id] at hsession
    split at hsession
    · obtain rfl : rated.session = session := Option.some.inj hsession
      exact rated.activeRate_nonneg
    · exact hsound.rates_nonneg id session hsession
  load_lt := hsound.load_lt

theorem Sound.erase {context : Context} (hsound : context.Sound) (erased : String) :
    Sound { context with
      distributionSessions := context.distributionSessions.erase erased } where
  haveRates := hsound.haveRates.erase erased
  rates_nonneg := by
    intro id session hsession
    rw [getElem?_erase_id] at hsession
    split at hsession
    · contradiction
    · exact hsound.rates_nonneg id session hsession
  load_lt := hsound.load_lt

theorem activeTotal_insertIfNew (context : Context) (session : DistributionSession) :
    activeTotal { context with
      distributionSessions := context.distributionSessions.insertIfNew
        session.distributionSessionId session } =
      if session.distributionSessionId ∈ context.distributionSessions then context.activeTotal
      else context.activeTotal + session.activeRate := by
  split
  case isTrue hmem =>
      have hsame : context.distributionSessions.insertIfNew
          session.distributionSessionId session = context.distributionSessions := by
        apply ExtTreeMap.ext_getElem?
        intro id
        rw [getElem?_insertIfNew_id, if_neg]
        rintro ⟨rfl, hfresh⟩
        exact hfresh hmem
      rw [hsame]
  case isFalse hfresh =>
      rw [activeTotal, MapTotal.total_insertIfNew _ hfresh, add_comm]
      rfl

theorem activeTotal_erase_le {context : Context} (hsound : context.Sound) (erased : String)
    (hmem : erased ∈ context.distributionSessions) :
    activeTotal { context with
      distributionSessions := context.distributionSessions.erase erased } ≤
      context.activeTotal := by
  obtain ⟨session, hsession⟩ : ∃ session, context.distributionSessions[erased]? = some session :=
    Option.isSome_iff_exists.mp (ExtTreeMap.mem_iff_isSome_getElem?.mp hmem)
  have hrate : 0 ≤ session.activeRate := hsound.rates_nonneg erased session hsession
  have htotal := MapTotal.total_erase DistributionSession.activeRate hsession
  unfold activeTotal
  linarith

/-! ## One call, and runs -/

theorem Sound.call {context next : Context} (hsound : context.Sound) {label : Call}
    (hcall : context.call label = some next) : next.Sound := by
  cases label with
  | addDistributionSession rated =>
      obtain rfl := Option.some.inj hcall
      exact (hsound.insertIfNew rated).updateNFLoad
  | deleteDistributionSession id =>
      obtain rfl := Option.some.inj hcall
      unfold deleteDistributionSession
      split
      · exact (hsound.erase id).updateNFLoad
      · exact hsound

/-- One call from a context whose load is current. -/
theorem LoadCurrent.call_iff {context next : Context} (hload : context.LoadCurrent)
    (hsound : context.Sound) {label : Call} (hcall : context.call label = some next) :
    next.LoadCurrent ↔ context.StartsFromZero label := by
  cases label with
  | addDistributionSession rated =>
      obtain rfl := Option.some.inj hcall
      rw [addDistributionSession, hload.updateNFLoad_iff hsound (hsound.insertIfNew rated),
        activeTotal_insertIfNew, StartsFromZero, and_congr_right_iff]
      intro hsmall
      split
      case isTrue hmem =>
          have hfits : context.activeTotal < 2 ^ 31 * 1000000 := by linarith
          simp [hmem, hfits]
      case isFalse hfresh => simp [hfresh]
  | deleteDistributionSession id =>
      obtain rfl := Option.some.inj hcall
      rw [deleteDistributionSession, StartsFromZero]
      split
      case isTrue hmem =>
          rw [hload.updateNFLoad_iff hsound (hsound.erase id)]
          have hle := activeTotal_erase_le hsound id hmem
          constructor
          · intro hboth _
            exact hboth.1
          · intro hsmall
            have hlt := hsmall hmem
            exact ⟨hlt, by linarith⟩
      case isFalse habsent => exact ⟨fun _ hmem => absurd hmem habsent, fun _ => hload⟩

theorem sound_start (distMaxAge : ℤ) (services : List String) :
    (start distMaxAge services).Sound where
  haveRates := by intro id session hsession; simp [start] at hsession
  rates_nonneg := by intro id session hsession; simp [start] at hsession
  load_lt := by norm_num [start]

theorem loadCurrent_start (distMaxAge : ℤ) (services : List String) :
    (start distMaxAge services).LoadCurrent := by
  have hzero : (start distMaxAge services).activeTotal = 0 := MapTotal.total_empty _
  rw [LoadCurrent, hzero, zero_div, Int.floor_zero]
  refine ⟨rfl, ?_⟩
  intro service hservice _
  obtain ⟨name, _, rfl⟩ := List.mem_map.mp hservice
  rfl

/-- The load is the one of the current sessions after every call of a history if
and only if every update of the history starts from a load of zero. -/
theorem loadCurrent_throughout_iff (distMaxAge : ℤ) (services : List String)
    (calls : List Call) :
    Throughout call LoadCurrent (start distMaxAge services) calls ↔
      Guarded call StartsFromZero (start distMaxAge services) calls := by
  have hkeeps : ∀ context label next, Sound context → LoadCurrent context →
      call context label = some next → Sound next := by
    intro context label next hsound _ hcall
    exact hsound.call hcall
  have hexact : ∀ context label next, Sound context → LoadCurrent context →
      call context label = some next → (LoadCurrent next ↔ StartsFromZero context label) := by
    intro context label next hsound hload hcall
    exact hload.call_iff hsound hcall
  exact throughout_iff_guarded hkeeps hexact (sound_start distMaxAge services)
    (loadCurrent_start distMaxAge services)

/-- Contexts with the same sessions and current loads advertise the same load. -/
theorem LoadCurrent.load_eq {first second : Context} (hfirst : first.LoadCurrent)
    (hsecond : second.LoadCurrent)
    (hsessions : first.distributionSessions = second.distributionSessions) :
    first.nfInstance.load = second.nfInstance.load := by
  rw [hfirst.1, hsecond.1, activeTotal, activeTotal, hsessions]

/-- An active session with a maximum bit rate of 2 Mbit/s. -/
def twoMegabit : RatedSession where
  session := {
    createdBy := 0
    distSession := {
      distSessionId := "1", distSessionState := some .valActive, mbr := some "2 Mbps"
      objDistributionData := none, upTrafficFlowInfo := none, mbUpfTunAddr := none
      others := "" }
    generated := 0
    hash := ""
    distributionSessionId := "1" }
  mbr := some ⟨.finite 2000000, .finite 2000000⟩
  getMbr_eq := by decide +kernel
  mbr_finite := by
    rintro bitRate hmbr
    obtain rfl := Option.some.inj hmbr
    rfl
  mbr_nonneg := by
    rintro bitRate hmbr
    obtain rfl := Option.some.inj hmbr
    norm_num [BitRate.rate]

/-- The session is deleted, its load stays. -/
theorem load_of_deleted_session_stays :
    ((run call (start 0 ["nmbstf-distsession"])
        [.addDistributionSession twoMegabit, .deleteDistributionSession "1"]).map
      fun final => (final.activeTotal, final.nfInstance)) =
        some (0, ⟨2, [⟨"nmbstf-distsession", 2⟩]⟩) ∧
    ¬ Throughout call LoadCurrent (start 0 ["nmbstf-distsession"])
        [.addDistributionSession twoMegabit, .deleteDistributionSession "1"] := by
  have hfinal : ((run call (start 0 ["nmbstf-distsession"])
      [.addDistributionSession twoMegabit, .deleteDistributionSession "1"]).map
        fun final => (final.activeTotal, final.nfInstance)) =
          some (0, ⟨2, [⟨"nmbstf-distsession", 2⟩]⟩) := by decide +kernel
  refine ⟨hfinal, ?_⟩
  intro hall
  obtain ⟨final, hrun, hvalues⟩ := Option.map_eq_some_iff.mp hfinal
  obtain ⟨htotal, hnf⟩ := Prod.mk.inj hvalues
  have hload := (hall.final hrun).1
  rw [htotal, hnf] at hload
  norm_num at hload

end Context

end Mbstf.Session
