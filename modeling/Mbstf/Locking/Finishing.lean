import Mbstf.Locking.ThreadOrder

/-!
# How a controller comes to its end

A controller is constructed, works for a while and is destroyed.  Without a push ingester
every schedule of its threads can be carried on until all of them have finished: no lock
order and no join is in the way, whatever the handlers throw.

With a push ingester the same holds until the caller is in `MHD_stop_daemon`.  From there on
it depends on what the daemon has still to do: both its first and its last callback for a
request take the mutex that the caller holds.
-/

namespace Mbstf.Threads

open Mbstf.Runs
open Mbstf.LockOrder

variable {pulls packagers : ℕ}

namespace Pipeline

variable {pipeline : Pipeline pulls packagers} {schedule : List (Thread pulls packagers)}
variable {config : Config (Thread pulls packagers) Mutex}

/-- A controller without a push ingester never deadlocks. -/
theorem pull_finishes (hpush : pipeline.push = none)
    (hrun : run Config.step pipeline.start schedule = some config) : config.Finishes := by
  suffices hordered : ∀ thread,
      Ordered lowRank threadRank (threadRank thread) [] (pipeline.script thread) from
    Config.finishes_of_ordered hordered hrun
  intro thread
  by_cases hcaller : thread = .caller
  · subst hcaller
    exact pipeline.fits_callerScript.ordered
  · by_cases hdaemon : thread = .daemon
    · subst hdaemon
      rw [script, hpush]
      exact nested_nil.ordered
    · exact (pipeline.fits_script (by decide) hcaller hdaemon).ordered

/-- A list controller that pulls one object and packages it. -/
def pulling : Pipeline 1 1 where
  streaming := false
  ingester := some 0
  push := none
  firstPackager := 0
  lastPackager := some 0
  looks := 0
  scheduled := []
  storeTurns := [⟨1, [[.listed (some 0)]]⟩]
  pullRounds := fun _ => [⟨true, some true⟩]
  packageRounds := fun _ => [.skipped, .sent 0, .idle 1]
  packagerTurns := fun _ => [⟨1, [[.deleted]]⟩]

/-- The destructor joins the worker while the ingester adds its object to the store. -/
theorem pulling_finishes :
    ∃ config, run Config.step pulling.start
      ([.caller, .caller, .caller, .caller] ++
        [.pull 0, .pull 0, .pull 0, .pull 0, .pull 0, .pull 0]) = some config ∧
      config.Finishes := by
  obtain ⟨config, hrun⟩ := Option.isSome_iff_exists.mp (show (run Config.step pulling.start
    ([.caller, .caller, .caller, .caller] ++
      [.pull 0, .pull 0, .pull 0, .pull 0, .pull 0, .pull 0])).isSome = true by decide +kernel)
  exact ⟨config, hrun, pull_finishes rfl hrun⟩

/-- The constructor starts the worker of the push ingester. -/
theorem start_mem_construct {server : PushServer} (hpush : pipeline.push = some server) :
    .start .pushWorker ∈ pipeline.construct := by
  have hinit : .start .pushWorker ∈ pipeline.initObjectIngester := by
    rw [initObjectIngester, hpush]
    exact List.mem_append_right _ List.mem_cons_self
  unfold construct
  split
  · simp only [List.mem_append]
    tauto
  · simp only [List.mem_append]
    tauto

/-- The daemon runs by the time it is stopped. -/
theorem daemon_running {server : PushServer} (hpush : pipeline.push = some server)
    (hrun : run Config.step pipeline.start schedule = some config)
    (hat : config.todo .caller = .acquire .push :: .join .daemon :: afterStop) :
    .daemon ∈ config.running := by
  have hcaller : pipeline.start.todo .caller =
      (pipeline.construct ++ pipeline.destroyFirst) ++
        .wait .pushWorker 0 :: .acquire .push :: .join .daemon :: afterStop := by
    change pipeline.callerScript = _
    rw [callerScript, hpush, beforeStop, List.append_assoc _ [_]]
    rfl
  have hworker : (config.todo .pushWorker).length ≤ 0 :=
    Config.length_le_of_passed hcaller (List.mem_append_left _ (start_mem_construct hpush)) hrun
      (by rw [hat])
  have hscript : pipeline.start.todo .pushWorker =
      ((List.range server.failures).flatMap (fun _ => guarded .push []) ++ [.acquire .push]) ++
        .start .daemon :: [.release .push] := by
    change pipeline.script .pushWorker = _
    rw [script, hpush]
    simp only [Option.elim_some, PushServer.startDaemon, guarded, List.append_assoc]
    rfl
  exact Config.mem_running_of_passed hscript hrun (hworker.trans (by simp))

theorem joinsHolding {server : PushServer} (hpush : pipeline.push = some server) :
    Config.JoinsHolding pipeline.script .caller .daemon .push pipeline.beforeStop afterStop
      lowRank highRank threadRank where
  split := by
    change pipeline.callerScript = _
    rw [callerScript, hpush]
  ne := by
    intro hsame
    cases hsame
  unawaited := by
    intro thread left hmem
    by_cases hcaller : thread = .caller
    · subst hcaller
      exact absurd (pipeline.fits_callerScript.ordered.lt_of_wait hmem) (lt_irrefl 0)
    · by_cases hdaemon : thread = .daemon
      · subst hdaemon
        exact absurd ((pipeline.fits_daemon (by decide : 10 < 11)).ordered.lt_of_wait hmem)
          (Nat.not_lt_zero 8)
      · exact absurd
          ((pipeline.fits_script (by decide : 1 < 2) hcaller hdaemon).ordered.lt_of_wait hmem)
          (Nat.not_lt_zero _)
  le := by
    intro other
    cases other with
    | push => exact (by decide : 2 ≤ 11)
    | _ => exact le_rfl
  same := by
    intro other hother
    cases other with
    | push => exact absurd rfl hother
    | _ => rfl
  orderedBefore := (pipeline.fits_beforeStop (by decide)).ordered
  orderedHigh := by
    intro thread hcaller
    by_cases hdaemon : thread = .daemon
    · subst hdaemon
      exact (pipeline.fits_daemon (by decide)).ordered
    · exact (pipeline.fits_script (by decide) hcaller hdaemon).ordered
  orderedLow := by
    intro thread hdaemon
    by_cases hcaller : thread = .caller
    · subst hcaller
      exact pipeline.fits_callerScript.ordered
    · exact (pipeline.fits_script (by decide) hcaller hdaemon).ordered
  runs := fun _ _ hrun hat => daemon_running hpush hrun hat

/-- The caller is in `MHD_stop_daemon`. -/
def Stopping (config : Config (Thread pulls packagers) Mutex) : Prop :=
  config.todo .caller = .join .daemon :: afterStop

/-- The daemon has still to take the mutex of the push ingester, for a request that begins or
that ends, or to look up the server prefix. -/
def DaemonNeedsMutex (config : Config (Thread pulls packagers) Mutex) : Prop :=
  .acquire .push ∈ config.todo .daemon

/-- A controller with a push ingester deadlocks if and only if the daemon is stopped while it
has still to take the mutex. -/
theorem push_finishes_iff {server : PushServer} (hpush : pipeline.push = some server)
    (hrun : run Config.step pipeline.start schedule = some config) :
    config.Finishes ↔ ¬ (Stopping config ∧ DaemonNeedsMutex config) :=
  (joinsHolding hpush).finishes_iff hrun

/-- A list controller with a push ingester that one request reaches. -/
def pushing : Pipeline 0 1 where
  streaming := false
  ingester := none
  push := some ⟨0, 0, [.started 0 0 0, .completed 0], []⟩
  firstPackager := 0
  lastPackager := some 0
  looks := 0
  scheduled := []
  storeTurns := []
  pullRounds := fun _ => []
  packageRounds := fun _ => []
  packagerTurns := fun _ => []

/-- The daemon is stopped between the first and the last callback for the request. -/
def stoppedInRequest : List (Thread 0 1) :=
  List.replicate 3 .caller ++ List.replicate 3 .pushWorker ++ List.replicate 4 .daemon ++
    List.replicate 12 .caller

theorem stoppedInRequest_deadlocks :
    ∃ config, run Config.step pushing.start stoppedInRequest = some config ∧
      ¬ config.Finishes := by
  have hstopping : (run Config.step pushing.start stoppedInRequest).map
      (fun config => (config.todo .caller, config.todo .daemon)) =
      some (.join .daemon :: afterStop, guarded (.request 0) [] ++ guarded .push []) := by
    decide +kernel
  obtain ⟨config, hrun, htodo⟩ := Option.map_eq_some_iff.mp hstopping
  obtain ⟨hcaller, hdaemon⟩ := Prod.mk.inj htodo
  refine ⟨config, hrun, ?_⟩
  rw [push_finishes_iff rfl hrun, not_not]
  refine ⟨hcaller, ?_⟩
  rw [DaemonNeedsMutex, hdaemon]
  decide

end Pipeline

end Mbstf.Threads
