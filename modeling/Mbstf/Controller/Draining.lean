import Mbstf.Controller.AddedOrder

/-!
# What keeps a packager from transmitting

A packager that works can be brought to transmit all that it was given, unless it has no
destination address, or a `send` has thrown: the flag that was set before the `send` is not
reset then, and no later round picks an object.  In a list controller without such a `send`
every object that was not lost while it was constructed can be transmitted, in the order in
which the objects were added.
-/

namespace Mbstf.Controller

open Std Mbstf.Objects Mbstf.Session Mbstf.Runs Mbstf.Observed

namespace RunningPackager

/-- The flag is set, and there is no transmission whose completion would reset it. -/
def Stuck (running : RunningPackager) : Prop :=
  running.packager.queued = true ∧ running.outstanding = [] ∧
    ∀ item, running.packager.worker ≠ .picked item

variable {running next : RunningPackager} {objects : ObjectStore}

/-- A `send` that throws, and nothing else, gets a packager stuck that works, when the picked
object is in the store. -/
theorem Sound.turn_stuck (hsound : running.Sound) {abandoned : Bool} {label : PackagerLabel}
    {after : Turn} (hturn : running.turn abandoned objects label = some after)
    (hworking : after.running.life = .working)
    (hstored : ∀ item, running.packager.worker = .picked item →
      item.objectId ∈ objects.store) :
    after.running.Stuck ↔
      running.Stuck ∨ ∃ secondsSinceEpoch, label = .send secondsSinceEpoch .throws := by
  cases turn_taken hturn with
  | begun transmitterThrows _ hworker =>
      obtain ⟨hasTransmitter, worker, hbegin, hcases⟩ :=
        beginRound_eq running.packager transmitterThrows
      simp only [Stuck, hbegin, hworker]
      obtain hsame | hcompleting | ⟨item, -, hfree, hpicked⟩ := hcases
      · simp [hsame, hworker]
      · simp [hcompleting]
      · simp [hfree]
  | @unfound item _ _ _ _ hworker hobject => exact absurd (hstored item hworker) (at?_error hobject)
  | @thrown item _ _ _ hworker =>
      have hempty := (hsound.picked item hworker).2
      simp [Stuck, hempty]
  | accepted _ _ hworker => simp [Stuck, hworker]
  | @popped item _ hworker =>
      obtain ⟨-, -, toi, hone⟩ := hsound.sent item hworker
      simp [Stuck, hone]
  | ran _ hworker hnodup htois =>
      obtain rfl | ⟨hone, rfl⟩ := hsound.runOne_cases hnodup htois
      · simp [Stuck, Packager.runOne, hworker]
      · simp [Stuck, Packager.runOne, Packager.onCompletion, hone]
  | eventPopped => simp [Stuck]
  | dispatched => simp [Stuck, RunningPackager.dispatchSendCompleted]
  | @looked objectId =>
      obtain ⟨-, eventThread, hrunning, -⟩ := lookAtSent_eq running objects objectId
      simp [Stuck, hrunning]
  | deleted => simp [Stuck]
  | workerJoined => cases hworking
  | eventsJoined => cases hworking

/-- No step takes a packager back to work. -/
theorem Sound.working_of_turn (hsound : running.Sound) {abandoned : Bool} {label : PackagerLabel}
    {after : Turn} (hturn : running.turn abandoned objects label = some after)
    (hworking : after.running.life = .working) : running.life = .working := by
  cases hsound.turn_queued hturn with
  | moved hlife => exact hlife ▸ hworking
  | ended hlife => exact absurd hworking hlife

/-- The destination address stays, and without one no object is picked. -/
theorem turn_destIpAddr {abandoned : Bool} {label : PackagerLabel} {after : Turn}
    (hturn : running.turn abandoned objects label = some after) :
    after.running.packager.destIpAddr = running.packager.destIpAddr ∧
      (running.packager.destIpAddr = none →
        (∀ item, running.packager.worker ≠ .picked item) →
          ∀ item, after.running.packager.worker ≠ .picked item) := by
  cases turn_taken hturn with
  | begun transmitterThrows =>
      obtain ⟨hasTransmitter, worker, hbegin, -⟩ := beginRound_eq running.packager transmitterThrows
      refine ⟨by rw [hbegin], fun hnone hworker => ?_⟩
      have hsame : running.packager.beginRound transmitterThrows = running.packager := by
        rw [Packager.beginRound, hnone]
        rfl
      rw [hsame]
      exact hworker
  | @ran tois =>
      obtain ⟨queued, reports, hfold, -⟩ := foldl_onCompletion_eq tois running.packager
      simp [Packager.runOne, hfold]
  | @looked objectId =>
      obtain ⟨-, eventThread, hrunning, -⟩ := lookAtSent_eq running objects objectId
      rw [hrunning]
      exact ⟨rfl, fun _ hworker => hworker⟩
  | eventPopped => exact ⟨rfl, fun _ hworker => hworker⟩
  | dispatched => exact ⟨rfl, fun _ hworker => hworker⟩
  | deleted => exact ⟨rfl, fun _ hworker => hworker⟩
  | workerJoined => exact ⟨rfl, fun _ hworker => hworker⟩
  | eventsJoined => exact ⟨rfl, fun _ hworker => hworker⟩
  | _ => exact ⟨rfl, fun _ _ _ hworker => by cases hworker⟩

/-- The packager does not work, or does not pick an object. -/
def Halted (running : RunningPackager) : Prop :=
  running.life ≠ .working ∨ ((∀ item, running.packager.worker ≠ .picked item) ∧
    (running.packager.destIpAddr = none ∨
      running.packager.queued = true ∧ running.outstanding = []))

/-- It stays so. -/
theorem Halted.turn (hhalted : running.Halted) (hsound : running.Sound) {abandoned : Bool}
    {label : PackagerLabel} {after : Turn}
    (hturn : running.turn abandoned objects label = some after) : after.running.Halted := by
  by_cases hworking : after.running.life = .working
  case neg => exact .inl hworking
  obtain ⟨hidle, hreason⟩ :=
    hhalted.resolve_left (not_not_intro (hsound.working_of_turn hturn hworking))
  obtain hnone | ⟨hqueued, hempty⟩ := hreason
  · obtain ⟨hsame, hsilent⟩ := turn_destIpAddr hturn
    exact .inr ⟨hsilent hnone hidle, .inl (hsame.trans hnone)⟩
  · obtain ⟨hstill, hnothing, hpicks⟩ :=
      (hsound.turn_stuck hturn hworking fun item hpicked => absurd hpicked (hidle item)).mpr
        (.inl ⟨hqueued, hempty, hidle⟩)
    exact .inr ⟨hpicks, .inr ⟨hstill, hnothing⟩⟩

theorem Halted.transmitted (hhalted : running.Halted) (hsound : running.Sound)
    {abandoned : Bool} {label : PackagerLabel} {after : Turn}
    (hturn : running.turn abandoned objects label = some after) :
    running.transmitted objects label = [] := by
  have hnone : (∀ item, running.packager.worker ≠ .picked item) →
      running.transmitted objects label = [] := by
    intro hidle
    unfold RunningPackager.transmitted
    split
    · split
      case h_1 item hpicked => exact absurd hpicked (hidle item)
      case h_2 => rfl
    · rfl
  obtain hlife | ⟨hidle, -⟩ := hhalted
  · cases hsound.turn_queued hturn with
    | moved _ hsent => exact hsent.resolve_right hlife
    | ended _ _ hsent => exact hsent
  · exact hnone hidle

/-- What the worker needs for the objects that wait to be transmitted. -/
structure Ready (objects : ObjectStore) (running : RunningPackager) : Prop where
  sound : running.Sound
  working : running.life = .working
  addressed : running.packager.destIpAddr ≠ none
  free : ¬ running.Stuck
  stored : ∀ item ∈ running.packager.packageItems, item.objectId ∈ objects.store

theorem Ready.picked_stored (hready : running.Ready objects) (item : PackageItem)
    (hpicked : running.packager.worker = .picked item) : item.objectId ∈ objects.store :=
  hready.stored item (List.mem_of_head? (hready.sound.picked item hpicked).1)

/-- How far the worker is from having transmitted everything: an item takes a round, which
ends with its completion, and a round before that when a transmission is outstanding. -/
def work (running : RunningPackager) : ℕ :=
  10 * running.packager.packageItems.length + (if running.outstanding = [] then 0 else 4) +
    match running.packager.worker with
    | .roundStart => 6
    | .picked _ => 5
    | .sent _ => 0
    | .completing => if running.outstanding = [] then 7 else 3

/-- A step of the worker that does not throw. -/
theorem Ready.turn (hready : running.Ready objects) {abandoned : Bool} {label : PackagerLabel}
    (hturn : running.turn abandoned objects label = some ⟨next, objects, []⟩)
    (hlabel : ∀ secondsSinceEpoch, label ≠ .send secondsSinceEpoch .throws)
    (hworking : next.life = .working)
    (hitems : next.packager.packageItems ⊆ running.packager.packageItems) :
    next.Ready objects where
  sound := (hready.sound.turn hturn).sound
  working := hworking
  addressed := by
    rw [(turn_destIpAddr hturn).1]
    exact hready.addressed
  free := by
    rw [hready.sound.turn_stuck hturn hworking hready.picked_stored]
    rintro (hstuck | ⟨secondsSinceEpoch, hthrows⟩)
    · exact hready.free hstuck
    · exact hlabel secondsSinceEpoch hthrows
  stored := fun item hitem => hready.stored item (hitems hitem)

/-- The worker has a step that takes it closer to having transmitted everything. -/
def Advances (running : RunningPackager) (abandoned : Bool) (objects : ObjectStore) : Prop :=
  ∃ label next, running.turn abandoned objects label = some ⟨next, objects, []⟩ ∧
    next.Ready objects ∧ next.work < running.work

theorem Ready.beginRound (hready : running.Ready objects) (hwaiting : running.waiting ≠ [])
    (hworker : running.packager.worker = .roundStart) (abandoned : Bool) :
    running.Advances abandoned objects := by
  obtain ⟨item, rest, hitems⟩ : ∃ item rest, running.packager.packageItems = item :: rest := by
    apply List.exists_cons_of_ne_nil
    rintro hnil
    simp [waiting, hworker, hnil] at hwaiting
  obtain ⟨address, haddress⟩ := Option.ne_none_iff_exists'.mp hready.addressed
  have hturn : running.turn abandoned objects (.beginRound false) =
      some ⟨{ running with packager := running.packager.beginRound false }, objects, []⟩ :=
    if_pos ⟨hready.working, hworker⟩
  have hbegin : running.packager.beginRound false = { running.packager with
      hasTransmitter := true
      worker := if running.packager.queued then .completing else .picked item } := by
    cases hqueued : running.packager.queued with
    | false => simp [Packager.beginRound, haddress, hitems, hqueued]
    | true => simp [Packager.beginRound, haddress, hitems, hqueued]
  refine ⟨_, _, hturn, hready.turn hturn (by simp) hready.working (by simp [hbegin]), ?_⟩
  rw [work, work, hbegin]
  cases hqueued : running.packager.queued with
  | false => simp [hworker]
  | true =>
      -- The flag is set, so there is a transmission to complete first.
      have houtstanding : running.outstanding ≠ [] := by
        intro hempty
        exact hready.free ⟨hqueued, hempty, by simp [hworker]⟩
      simp [hworker, houtstanding]

theorem Ready.send (hready : running.Ready objects) {item : PackageItem}
    (hworker : running.packager.worker = .picked item) (abandoned : Bool) :
    running.Advances abandoned objects := by
  have hempty := (hready.sound.picked item hworker).2
  have hstored := hready.picked_stored item hworker
  rw [ExtTreeMap.mem_iff_isSome_getElem?] at hstored
  obtain ⟨object, hobject⟩ := Option.isSome_iff_exists.mp hstored
  have hlookup : objects.at? item.objectId = .ok object := by
    rw [ObjectStore.at?, hobject]
  have hturn : running.turn abandoned objects (.send 0 (.accepted 1)) = some
      ⟨{ running with
        packager := running.packager.send item (.ok object) 0 (.accepted 1)
        outstanding := running.outstanding ++ [1] }, objects, []⟩ := by
    simp [RunningPackager.turn, hready.working, hworker, RunningPackager.send, hlookup, hempty]
  refine ⟨_, _, hturn, hready.turn hturn (by simp) hready.working (by simp [Packager.send]), ?_⟩
  simp [work, Packager.send, hworker, hempty]

theorem Ready.popFront (hready : running.Ready objects) {item : PackageItem}
    (hworker : running.packager.worker = .sent item) (abandoned : Bool) :
    running.Advances abandoned objects := by
  obtain ⟨hfront, -, toi, hone⟩ := hready.sound.sent item hworker
  obtain ⟨rest, hitems⟩ := List.head?_eq_some_iff.mp hfront
  have hturn : running.turn abandoned objects .popFront =
      some ⟨{ running with packager := running.packager.popFront }, objects, []⟩ := by
    simp [RunningPackager.turn, hready.working, hworker]
  refine ⟨_, _, hturn, hready.turn hturn (by simp) hready.working (List.tail_subset _), ?_⟩
  simp only [work, Packager.popFront, hworker, hitems, hone]
  simp
  omega

/-- The transmitter completes what it has. -/
theorem Ready.runOne (hready : running.Ready objects)
    (hworker : running.packager.worker = .completing) (abandoned : Bool) :
    running.Advances abandoned objects := by
  have hnodup : running.outstanding.Nodup := by
    obtain hempty | ⟨hone, -⟩ := hready.sound.queued
    · simp [hempty]
    · simp [hone]
  have hturn : running.turn abandoned objects (.runOne running.outstanding) =
      some ⟨{ running with
        packager := running.packager.runOne running.outstanding
        outstanding := running.outstanding.filter (· ∉ running.outstanding) }, objects, []⟩ :=
    if_pos ⟨hready.working, hworker, hnodup, fun _ hmem => hmem⟩
  obtain ⟨queued, reports, hfold, -⟩ :=
    foldl_onCompletion_eq running.outstanding running.packager
  refine ⟨_, _, hturn, hready.turn hturn (by simp) hready.working ?_, ?_⟩
  · simp [Packager.runOne, hfold]
  · have hnone : running.outstanding.filter (· ∉ running.outstanding) = [] := by simp
    simp only [work, Packager.runOne, hfold, hworker, hnone]
    by_cases hempty : running.outstanding = []
    · simp [hempty]
    · simp [hempty]

/-- While an object waits, the worker has a step that takes it closer. -/
theorem Ready.advances (hready : running.Ready objects) (hwaiting : running.waiting ≠ [])
    (abandoned : Bool) : running.Advances abandoned objects := by
  cases hworker : running.packager.worker with
  | roundStart => exact hready.beginRound hwaiting hworker abandoned
  | picked item => exact hready.send hworker abandoned
  | sent item => exact hready.popFront hworker abandoned
  | completing => exact hready.runOne hworker abandoned

end RunningPackager

namespace System

/-- What a step does to the packager at one place. -/
inductive PlaceStep (setup : Setup) (system : System) (label : Label) (index : ℕ) :
    Option RunningPackager → Option RunningPackager → Prop where
  | same (place : Option RunningPackager) (hlabel : ∀ turn, label ≠ .packager index turn) :
      PlaceStep setup system label index place place
  | new (hlabel : ∀ turn, label ≠ .packager index turn) :
      PlaceStep setup system label index none (some (.new setup.destIpAddr))
  | subscribed (running : RunningPackager) (hlabel : ∀ turn, label ≠ .packager index turn) :
      PlaceStep setup system label index (some running)
        (some { running with subscribed := true })
  | added (running : RunningPackager) (objectId : String)
      (hlabel : ∀ turn, label ≠ .packager index turn) :
      PlaceStep setup system label index (some running) (some (running.add objectId))
  | turned {running : RunningPackager} {packagerLabel : PackagerLabel} {turn : Turn}
      (hlabel : label = .packager index packagerLabel)
      (hturn : running.turn (system.abandoned index) system.objects packagerLabel = some turn) :
      PlaceStep setup system label index (some running) (some turn.running)

variable {setup : Setup} {system next : System} {label : Label}

theorem placeStep_setPackager (hlabel : ∀ index turn, label ≠ .packager index turn)
    (index : ℕ) :
    PlaceStep setup system label index system.packagers[index]?
      (system.setPackager setup).packagers[index]? := by
  rw [setPackager]
  by_cases hold : index < system.packagers.length
  · rw [List.getElem?_append_left hold]
    exact .same _ (hlabel index)
  · have hlength : system.packagers.length ≤ index := Nat.le_of_not_lt hold
    rw [List.getElem?_eq_none hlength, List.getElem?_append_right hlength]
    cases hrest : index - system.packagers.length with
    | zero => exact .new (hlabel index)
    | succ more => exact .same none (hlabel index)

theorem placeStep_set {place : ℕ} {running after : RunningPackager}
    (hrunning : system.packagers[place]? = some running)
    (hplace : PlaceStep setup system label place (some running) (some after)) {index : ℕ}
    (hlabel : place ≠ index → ∀ turn, label ≠ .packager index turn) :
    PlaceStep setup system label index system.packagers[index]?
      (system.packagers.set place after)[index]? := by
  by_cases hsame : place = index
  · subst hsame
    rw [hrunning, List.getElem?_set_self (List.getElem?_eq_some_iff.mp hrunning).1]
    exact hplace
  · rw [List.getElem?_set_ne hsame]
    exact .same _ (hlabel hsame)

theorem step_placeStep (hstep : step setup system label = some next) (index : ℕ) :
    PlaceStep setup system label index system.packagers[index]? next.packagers[index]? := by
  cases step_taken hstep with
  | setOwnPackager => exact placeStep_setPackager (by simp) index
  | setObjectListPackager => exact placeStep_setPackager (by simp) index
  | @addItem objectId _ _ _ hrunning =>
      exact placeStep_set hrunning (.added _ objectId (by simp)) (by simp)
  | subscribeToPackager _ _ hrunning =>
      exact placeStep_set hrunning (.subscribed _ (by simp)) (by simp)
  | packager hrunning hturn =>
      refine placeStep_set hrunning (.turned rfl hturn) ?_
      intro hother turn hlabel
      exact hother (Label.packager.inj hlabel).1
  | _ => exact .same _ (by simp)

/-! ## Throws are what gets a packager stuck -/

/-- How the packager at a place stands to the labels of the run. -/
inductive History (setup : Setup) (index : ℕ) (labels : List Label) :
    Option RunningPackager → Prop where
  | absent (hnone : ∀ turn, .packager index turn ∉ labels) : History setup index labels none
  | present {running : RunningPackager}
      (hdestination : running.packager.destIpAddr = setup.destIpAddr)
      (hunaddressed : setup.destIpAddr = none → ∀ item, running.packager.worker ≠ .picked item)
      (hstuck : running.life = .working → (running.Stuck ↔
        ∃ secondsSinceEpoch, .packager index (.send secondsSinceEpoch .throws) ∈ labels)) :
      History setup index labels (some running)

theorem History.step {index : ℕ} {labels : List Label} (hnoDangling : system.NoDangling)
    (hsound : system.PackagersSound)
    (hhistory : History setup index labels system.packagers[index]?)
    (hstep : System.step setup system label = some next) :
    History setup index (labels ++ [label]) next.packagers[index]? := by
  have hkept : (∀ turn, label ≠ .packager index turn) → ∀ turn,
      .packager index turn ∈ labels ++ [label] ↔ .packager index turn ∈ labels := by
    intro hlabel turn
    simp [(hlabel turn).symm]
  have hplace := step_placeStep hstep index
  generalize hbefore : system.packagers[index]? = before at hhistory hplace
  generalize next.packagers[index]? = after at hplace
  cases hplace with
  | same place hlabel =>
      cases hhistory with
      | absent hnone => exact .absent fun turn hmem => hnone turn ((hkept hlabel turn).mp hmem)
      | present hdestination hunaddressed hstuck =>
          refine .present hdestination hunaddressed ?_
          simp only [hkept hlabel]
          exact hstuck
  | new hlabel =>
      cases hhistory with
      | absent hnone =>
          refine .present rfl (fun _ => by simp [RunningPackager.new, Packager.new]) fun _ => ?_
          simp only [hkept hlabel, hnone, exists_false, iff_false]
          simp [RunningPackager.Stuck, RunningPackager.new, Packager.new]
  | subscribed running hlabel =>
      cases hhistory with
      | present hdestination hunaddressed hstuck =>
          refine .present hdestination hunaddressed ?_
          simp only [hkept hlabel]
          exact hstuck
  | added running objectId hlabel =>
      cases hhistory with
      | present hdestination hunaddressed hstuck =>
          refine .present hdestination hunaddressed ?_
          simp only [hkept hlabel]
          exact hstuck
  | @turned running packagerLabel turn hlabel hturn =>
      have hrunning : running ∈ system.packagers := List.mem_of_getElem? hbefore
      cases hhistory with
      | present hdestination hunaddressed hstuck =>
          obtain ⟨hsame, hsilent⟩ := RunningPackager.turn_destIpAddr hturn
          refine .present (hsame.trans hdestination) ?_ ?_
          · intro hnone
            exact hsilent (hdestination.trans hnone) (hunaddressed hnone)
          · intro hworking
            have hold := hsound running hrunning
            have hstored : ∀ item, running.packager.worker = .picked item →
                item.objectId ∈ system.objects.store := fun item hpicked =>
              hnoDangling.waiting running hrunning item
                (List.mem_of_head? (hold.picked item hpicked).1)
            rw [hold.turn_stuck hturn hworking hstored,
              hstuck (hold.working_of_turn hturn hworking)]
            subst hlabel
            simp only [List.mem_append, List.mem_singleton, Label.packager.injEq, true_and,
              exists_or]
            exact or_congr_right (exists_congr fun _ => eq_comm)

theorem history_of_run {labels : List Label} {final : System}
    (hfresh : (addedIds labels).Nodup)
    (hrun : run (step setup) (start setup) labels = some final) (index : ℕ) :
    History setup index labels final.packagers[index]? := by
  induction labels using List.reverseRecOn generalizing final with
  | nil =>
      obtain rfl : start setup = final := by simpa using hrun
      exact .absent (by simp)
  | append_singleton labels label ih =>
      obtain ⟨middle, hmiddle, hlast⟩ := run_concat_eq_some.mp hrun
      have hearlier : (addedIds labels).Nodup :=
        hfresh.sublist ((List.sublist_append_left labels [label]).filterMap _)
      obtain ⟨hsound, hinv⟩ := fresh_of_run hearlier hmiddle
      exact (ih hearlier hmiddle).step (hinv.noDangling hsound) hsound hlast

/-! ## What can be transmitted -/

/-- The system in which the worker of one packager has gone on. -/
def withPackager (system : System) (index : ℕ) (running : RunningPackager) : System :=
  { system with packagers := system.packagers.set index running }

theorem withPackager_getElem? {index : ℕ} (hindex : index < system.packagers.length)
    (running : RunningPackager) :
    (system.withPackager index running).packagers[index]? = some running :=
  List.getElem?_set_self hindex

theorem withPackager_self {index : ℕ} {running : RunningPackager}
    (hrunning : system.packagers[index]? = some running) :
    system.withPackager index running = system := by
  obtain ⟨hindex, rfl⟩ := List.getElem?_eq_some_iff.mp hrunning
  rw [withPackager, List.set_getElem_self]

theorem step_withPackager (setup : Setup) {index : ℕ} (hindex : index < system.packagers.length)
    {running after : RunningPackager} {packagerLabel : PackagerLabel}
    (hturn : running.turn (system.abandoned index) system.objects packagerLabel =
      some ⟨after, system.objects, []⟩) :
    step setup (system.withPackager index running) (.packager index packagerLabel) =
      some (system.withPackager index after) := by
  have hunchanged : (system.withPackager index running).abandoned index =
      system.abandoned index := rfl
  simp only [step, packagerStep, withPackager_getElem? hindex, hunchanged]
  rw [withPackager] at *
  simp only [hturn, Option.map_some, List.set_set, List.append_nil]
  rfl

/-- A packager that is ready can transmit all that waits, without anything else going on. -/
theorem exists_run_of_ready (setup : Setup) {index : ℕ} {running : RunningPackager}
    (hrunning : system.packagers[index]? = some running)
    (hready : running.Ready system.objects) :
    ∃ more after, run (step setup) system more = some (system.withPackager index after) ∧
      after.Ready system.objects ∧ after.waiting = [] := by
  have hindex := (List.getElem?_eq_some_iff.mp hrunning).1
  have hprogress : ∀ state,
      (∃ before, state = system.withPackager index before ∧ before.Ready system.objects) →
      ¬ (∀ before, state.packagers[index]? = some before → before.waiting = []) →
      ∃ labels next, run (step setup) state labels = some next ∧
        (∃ after, next = system.withPackager index after ∧ after.Ready system.objects) ∧
        (next.packagers[index]?.elim 0 RunningPackager.work) <
          state.packagers[index]?.elim 0 RunningPackager.work := by
    rintro state ⟨before, rfl, hbefore⟩ hgoal
    have hwaiting : before.waiting ≠ [] := by
      intro hnil
      apply hgoal
      intro other hother
      rw [withPackager_getElem? hindex] at hother
      exact Option.some.inj hother ▸ hnil
    obtain ⟨label, after, hturn, hafter, hless⟩ :=
      hbefore.advances hwaiting (system.abandoned index)
    have hstep := step_withPackager setup hindex hturn
    refine ⟨[.packager index label], _, run_cons_eq_some.mpr ⟨_, hstep, rfl⟩,
      ⟨after, rfl, hafter⟩, ?_⟩
    rw [withPackager_getElem? hindex, withPackager_getElem? hindex]
    exact hless
  obtain ⟨more, final, hmore, ⟨after, rfl, hafter⟩, hgoal⟩ := exists_run_of_measure
    (fun state : System => state.packagers[index]?.elim 0 RunningPackager.work) hprogress
    ⟨running, (withPackager_self hrunning).symm, hready⟩
  exact ⟨more, after, hmore, hafter, hgoal after (withPackager_getElem? hindex after)⟩

/-- A packager that works is ready, or cannot pick an object. -/
theorem ready_iff {labels : List Label} {final : System} (hfresh : (addedIds labels).Nodup)
    (hrun : run (step setup) (start setup) labels = some final) {index : ℕ}
    {running : RunningPackager} (hrunning : final.packagers[index]? = some running)
    (hworking : running.life = .working) :
    running.Ready final.objects ↔ setup.destIpAddr ≠ none ∧
      ∀ secondsSinceEpoch, .packager index (.send secondsSinceEpoch .throws) ∉ labels := by
  have hhistory := history_of_run hfresh hrun index
  rw [hrunning] at hhistory
  cases hhistory with
  | present hdestination hunaddressed hstuck =>
      obtain ⟨hsound, hinv⟩ := fresh_of_run hfresh hrun
      have hmem : running ∈ final.packagers := List.mem_of_getElem? hrunning
      constructor
      · intro hready
        refine ⟨hdestination ▸ hready.addressed, ?_⟩
        intro secondsSinceEpoch hthrows
        exact hready.free ((hstuck hworking).mpr ⟨secondsSinceEpoch, hthrows⟩)
      · rintro ⟨haddressed, hnone⟩
        refine ⟨hsound running hmem, hworking, hdestination.symm ▸ haddressed, ?_,
          (hinv.noDangling hsound).waiting running hmem⟩
        intro hhas
        obtain ⟨secondsSinceEpoch, hthrows⟩ := (hstuck hworking).mp hhas
        exact hnone secondsSinceEpoch hthrows

theorem transmittedBy_delivered (hsound : system.PackagersSound)
    (hstep : step setup system label = some next) {index : ℕ} {running : RunningPackager}
    (hrunning : system.packagers[index]? = some running) (hhalted : running.Halted) :
    transmittedBy index (delivered system label) = [] := by
  cases label with
  | addItem =>
      simp only [delivered]
      split <;> rfl
  | packager place packagerLabel =>
      cases step_taken hstep with
      | @packager _ other hother _ turn hturn =>
          simp only [delivered, hother, transmittedBy_transmissions]
          by_cases hsame : place = index
          · subst hsame
            obtain rfl := Option.some.inj (hrunning.symm.trans hother)
            rw [hhalted.transmitted (hsound running (List.mem_of_getElem? hrunning)) hturn]
            exact if_pos rfl
          · exact if_neg hsame
  | _ => rfl

/-- A halted packager transmits nothing, whatever goes on. -/
theorem transmittedBy_of_halted (hsound : system.PackagersSound) {index : ℕ}
    {running : RunningPackager} (hrunning : system.packagers[index]? = some running)
    (hhalted : running.Halted) {more : List Label} {final : System}
    (hmore : run (step setup) system more = some final) :
    transmittedBy index (observed (step setup) delivered system more) = [] := by
  have hstep : ∀ (seen : List Delivery) state label next,
      (state.PackagersSound ∧ (∃ running, state.packagers[index]? = some running ∧
        running.Halted) ∧ transmittedBy index seen = []) →
      step setup state label = some next →
      next.PackagersSound ∧ (∃ running, next.packagers[index]? = some running ∧
        running.Halted) ∧ transmittedBy index (seen ++ delivered state label) = [] := by
    rintro seen state label next ⟨hold, ⟨before, hbefore, hhalts⟩, hnone⟩ hnext
    refine ⟨packagersSound_step hold hnext, ?_, ?_⟩
    · have hplace := step_placeStep hnext index
      rw [hbefore] at hplace
      generalize next.packagers[index]? = after at hplace
      cases hplace with
      | same => exact ⟨before, rfl, hhalts⟩
      | subscribed => exact ⟨_, rfl, hhalts⟩
      | added => exact ⟨_, rfl, hhalts⟩
      | turned _ hturn =>
          exact ⟨_, rfl, hhalts.turn (hold before (List.mem_of_getElem? hbefore)) hturn⟩
    · rw [transmittedBy_append, hnone, transmittedBy_delivered hold hnext hbefore hhalts]
      rfl
  exact (observed_invariant hstep ⟨hsound, ⟨running, hrunning, hhalted⟩, rfl⟩ hmore).2.2

/-- When nothing waits any more, all that the packager was given is transmitted. -/
theorem transmitted_eq_handed {labels more : List Label}
    (hrun : run (step setup) (start setup) labels = some system) {index : ℕ}
    {running after : RunningPackager} (hrunning : system.packagers[index]? = some running)
    (hmore : run (step setup) system more = some (system.withPackager index after))
    (hworking : after.life = .working) (hnil : after.waiting = []) :
    handedTo index (deliveries setup (labels ++ more)) =
      (transmittedBy index (deliveries setup (labels ++ more))).map Prod.fst := by
  have hall : run (step setup) (start setup) (labels ++ more) =
      some (system.withPackager index after) :=
    run_append_eq_some.mpr ⟨system, hrun, hmore⟩
  have hafter := withPackager_getElem? (List.getElem?_eq_some_iff.mp hrunning).1 after
  obtain ⟨left, hleft, hwaiting⟩ := (hafter ▸ inOrderAt_of_run hall index).inOrder.queue
  rw [hleft, hwaiting hworking, hnil, List.append_nil]

/-- A packager that works without a destination, or after a `send` that has thrown, does not
transmit any more. -/
theorem halted_of_run {labels : List Label} (hfresh : (addedIds labels).Nodup)
    (hrun : run (step setup) (start setup) labels = some system) {index : ℕ}
    {running : RunningPackager} (hrunning : system.packagers[index]? = some running)
    (hworking : running.life = .working)
    (hnotReady : ¬ (setup.destIpAddr ≠ none ∧
      ∀ secondsSinceEpoch, .packager index (.send secondsSinceEpoch .throws) ∉ labels)) :
    running.Halted := by
  have hhistory := history_of_run hfresh hrun index
  rw [hrunning] at hhistory
  cases hhistory with
  | present hdestination hunaddressed hstuck =>
      by_cases hnone : setup.destIpAddr = none
      · exact .inr ⟨hunaddressed hnone, .inl (hdestination.trans hnone)⟩
      · have hthrows : ∃ secondsSinceEpoch,
            .packager index (.send secondsSinceEpoch .throws) ∈ labels := by
          by_contra hno
          exact hnotReady ⟨hnone, fun secondsSinceEpoch hmem => hno ⟨_, hmem⟩⟩
        obtain ⟨hqueued, hempty, hidle⟩ := (hstuck hworking).mpr hthrows
        exact .inr ⟨hidle, .inr ⟨hqueued, hempty⟩⟩

/-- A packager that works can be brought to transmit all that it was given when nothing
waits, or when it has a destination and no `send` of it has thrown, and only then. -/
theorem transmits_all_iff {labels : List Label} (hfresh : (addedIds labels).Nodup)
    (hrun : run (step setup) (start setup) labels = some system) {index : ℕ}
    {running : RunningPackager} (hrunning : system.packagers[index]? = some running)
    (hworking : running.life = .working) :
    (∃ more final, run (step setup) system more = some final ∧
        handedTo index (deliveries setup labels) <+:
          (transmittedBy index (deliveries setup (labels ++ more))).map Prod.fst) ↔
      running.waiting = [] ∨ (setup.destIpAddr ≠ none ∧
        ∀ secondsSinceEpoch, .packager index (.send secondsSinceEpoch .throws) ∉ labels) := by
  have happend : ∀ more, deliveries setup (labels ++ more) =
      deliveries setup labels ++ observed (step setup) delivered system more :=
    fun more => observed_append hrun more
  obtain ⟨left, hleft, hwaiting⟩ := (hrunning ▸ inOrderAt_of_run hrun index).inOrder.queue
  obtain rfl := hwaiting hworking
  constructor
  · rintro ⟨more, final, hmore, hall⟩
    by_contra hneither
    obtain ⟨hwaits, hnotReady⟩ := not_or.mp hneither
    have hhalted := halted_of_run hfresh hrun hrunning hworking hnotReady
    have hsound := (fresh_of_run hfresh hrun).1
    rw [happend, transmittedBy_append,
      transmittedBy_of_halted hsound hrunning hhalted hmore, List.append_nil, hleft] at hall
    have hlength := hall.length_le
    rw [List.length_append] at hlength
    exact hwaits (List.eq_nil_of_length_eq_zero (by omega))
  · rintro (hnil | hready)
    · refine ⟨[], system, rfl, ?_⟩
      rw [List.append_nil, hleft, hnil, List.append_nil]
    · obtain ⟨more, after, hmore, hstill, hnil⟩ := exists_run_of_ready setup hrunning
        ((ready_iff hfresh hrun hrunning hworking).mpr hready)
      refine ⟨more, _, hmore, ?_⟩
      rw [← transmitted_eq_handed hrun hrunning hmore hstill.working hnil, happend,
        handedTo_append]
      exact List.prefix_append _ _

/-- The second object waits, and nothing has thrown. -/
theorem sendFirst_transmits_all :
    ∃ system running, run (step streamingSetup) (start streamingSetup) sendFirst = some system ∧
      system.packagers[0]? = some running ∧ running.waiting = ["2"] ∧
      ((∃ more final, run (step streamingSetup) system more = some final ∧
          handedTo 0 (deliveries streamingSetup sendFirst) <+:
            (transmittedBy 0 (deliveries streamingSetup (sendFirst ++ more))).map Prod.fst) ↔
        running.waiting = [] ∨ (streamingSetup.destIpAddr ≠ none ∧
          ∀ secondsSinceEpoch,
            .packager 0 (.send secondsSinceEpoch .throws) ∉ sendFirst)) := by
  have hends : (run (step streamingSetup) (start streamingSetup) sendFirst).any
      (fun system => system.packagers[0]?.any fun running =>
        running.waiting = ["2"] ∧ running.life = .working) = true := by
    decide +kernel
  obtain ⟨system, hrun, hsome⟩ := (Option.any_eq_true _ _).mp hends
  obtain ⟨running, hrunning, hboth⟩ := (Option.any_eq_true _ _).mp hsome
  obtain ⟨hwaiting, hworking⟩ := of_decide_eq_true hboth
  exact ⟨system, running, hrun, hrunning, hwaiting,
    transmits_all_iff (by decide) hrun hrunning hworking⟩

/-! ## The list controller comes to rest -/

theorem Listed.current_eq (hlisted : system.Listed) {index : ℕ}
    (hcurrent : system.current = some index) : index = 0 := by
  cases hlisted.stage with
  | starting _ hnone => cases hnone.symm.trans hcurrent
  | subscribed _ _ hnone => cases hnone.symm.trans hcurrent
  | built _ _ hplace => exact (Option.some.inj (hplace.symm.trans hcurrent)).symm

theorem Listed.handedTo_delivered (hlisted : system.Listed) (label : Label) :
    handedTo 0 (delivered system label) = allHanded (delivered system label) := by
  cases label with
  | addItem =>
      simp only [delivered]
      split
      case h_1 objectId index hthread =>
          have hcurrent := hlisted.holding index (by rw [hthread]; rfl)
          rw [hlisted.current_eq hcurrent, handedTo_handed, if_pos rfl]
          rfl
      case h_2 => rfl
  | packager place packagerLabel =>
      simp only [delivered]
      split
      case h_1 => rfl
      case h_2 => rw [handedTo_transmissions, allHanded_transmissions]
  | _ => rfl

/-- All objects that a list controller passes on go to its one packager. -/
theorem handedTo_of_list (hkind : setup.kind = .objectList) {labels : List Label}
    {final : System} (hrun : run (step setup) (start setup) labels = some final) :
    handedTo 0 (deliveries setup labels) = allHanded (deliveries setup labels) := by
  have hstep : ∀ (seen : List Delivery) state label next,
      (state.PackagersSound ∧ state.Listed ∧ handedTo 0 seen = allHanded seen) →
      step setup state label = some next →
      next.PackagersSound ∧ next.Listed ∧
        handedTo 0 (seen ++ delivered state label) =
          allHanded (seen ++ delivered state label) := by
    rintro seen state label next ⟨hsound, hlisted, hseen⟩ hnext
    refine ⟨packagersSound_step hsound hnext, hlisted.step hkind hsound hnext, ?_⟩
    rw [handedTo_append, hseen, hlisted.handedTo_delivered, allHanded, allHanded, allHanded,
      List.filterMap_append]
  exact (observed_invariant hstep ⟨packagersSound_start setup, listed_start hkind, rfl⟩ hrun).2.2

/-- What there is when the constructor of a list controller has finished. -/
theorem Listed.built (hlisted : system.Listed) (hremaining : system.remaining = []) :
    system.subscribed = true ∧ system.current = some 0 ∧
      ∃ running, system.packagers = [running] ∧ running.life = .working := by
  cases hlisted.stage with
  | starting hsame => cases hsame.symm.trans hremaining
  | subscribed _ hsame =>
      obtain hsame | hsame := hsame
      · cases hsame.symm.trans hremaining
      · cases hsame.symm.trans hremaining
  | built hsubscribed _ hcurrent hpackagers hlife =>
      exact ⟨hsubscribed, hcurrent, _, hpackagers, hlife⟩

/-- The thread of the store has handed on all the events. -/
def AtRest (system : System) : Prop :=
  system.objects.events = [] ∧ system.storeThread = .waiting

/-- The steps of the thread of the store in a list controller. -/
def DispatchLabel : Label → Prop
  | .popEvent => True
  | .dispatch => True
  | .handle => True
  | .addItem => True
  | _ => False

/-- How many steps the thread of the store takes with the event that it has. -/
def stepsLeft : StoreThread → ℕ
  | .popped _ => 3
  | .passing => 1
  | .handling _ => 2
  | .holding _ _ => 1
  | _ => 0

/-- What the thread of the store alone does to a list controller. -/
structure Dispatches (setup : Setup) (system : System) (past : List Label) (next : System) :
    Prop where
  goes : run (step setup) system past = some next
  labels : ∀ label ∈ past, DispatchLabel label
  sound : next.PackagersSound
  listed : next.Listed
  remaining : next.remaining = []
  lost : next.books.lost = system.books.lost

theorem Dispatches.concat {past : List Label} {middle : System} (hkind : setup.kind = .objectList)
    (hpast : Dispatches setup system past middle) (hlabel : DispatchLabel label)
    (hstep : step setup middle label = some next)
    (hremaining : next.remaining = middle.remaining)
    (hlost : next.books.lost = middle.books.lost) :
    Dispatches setup system (past ++ [label]) next where
  goes := run_concat_eq_some.mpr ⟨middle, hpast.goes, hstep⟩
  labels := by
    intro other hother
    cases List.mem_append.mp hother with
    | inl hearlier => exact hpast.labels other hearlier
    | inr hlast => exact List.mem_singleton.mp hlast ▸ hlabel
  sound := packagersSound_step hpast.sound hstep
  listed := hpast.listed.step hkind hpast.sound hstep
  remaining := hremaining.trans hpast.remaining
  lost := hlost.trans hpast.lost

theorem Dispatches.addedIds_eq_nil {past : List Label} (hpast : Dispatches setup system past next) :
    addedIds past = [] := by
  rw [addedIds, List.filterMap_eq_nil_iff]
  intro label hlabel
  have hdispatch := hpast.labels label hlabel
  cases label with
  | addObject => exact hdispatch.elim
  | _ => rfl

theorem Dispatches.packager_not_mem {past : List Label}
    (hpast : Dispatches setup system past next) (index : ℕ) (packagerLabel : PackagerLabel) :
    .packager index packagerLabel ∉ past := by
  intro hmem
  exact hpast.labels _ hmem

/-- The thread of the store can hand on all the events that there are. -/
theorem exists_atRest (hkind : setup.kind = .objectList) (hsound : system.PackagersSound)
    (hlisted : system.Listed) (hremaining : system.remaining = []) :
    ∃ past next, Dispatches setup system past next ∧ next.AtRest := by
  have hprogress : ∀ state, (∃ past, Dispatches setup system past state) → ¬ state.AtRest →
      ∃ labels next, run (step setup) state labels = some next ∧
        (∃ past, Dispatches setup system past next) ∧
        4 * next.objects.events.length + stepsLeft next.storeThread <
          4 * state.objects.events.length + stepsLeft state.storeThread := by
    rintro state ⟨past, hpast⟩ hbusy
    obtain ⟨hsubscribed, hcurrent, running, hpackagers, -⟩ := hpast.listed.built hpast.remaining
    have hone : ∀ {label next}, DispatchLabel label → step setup state label = some next →
        next.remaining = state.remaining → next.books.lost = state.books.lost →
        4 * next.objects.events.length + stepsLeft next.storeThread <
          4 * state.objects.events.length + stepsLeft state.storeThread →
        ∃ labels next, run (step setup) state labels = some next ∧
          (∃ past, Dispatches setup system past next) ∧
          4 * next.objects.events.length + stepsLeft next.storeThread <
            4 * state.objects.events.length + stepsLeft state.storeThread :=
      fun hlabel hstep hsame hlost hless => ⟨[_], _, run_cons_eq_some.mpr ⟨_, hstep, rfl⟩,
        ⟨_, hpast.concat hkind hlabel hstep hsame hlost⟩, hless⟩
    have hlist := hpast.listed.storeThread
    obtain ⟨thread, hthread⟩ : ∃ thread, state.storeThread = thread := ⟨_, rfl⟩
    cases thread with
    | waiting =>
        obtain ⟨events, hevents⟩ : ∃ events, state.objects.events = events := ⟨_, rfl⟩
        cases events with
        | nil => exact absurd ⟨hevents, hthread⟩ hbusy
        | cons event rest =>
            have hstep : step setup state .popEvent = some { state with
                objects := { state.objects with events := rest }
                storeThread := .popped event } := by
              simp only [step, popEvent, hthread, hevents]
            refine hone (by trivial) hstep rfl rfl ?_
            simp [stepsLeft, hthread, hevents]
            omega
    | popped event =>
        cases event with
        | objectAdded objectId =>
            have hstep : step setup state .dispatch =
                some { state with storeThread := .handling objectId } := by
              simp [step, dispatch, hthread, hsubscribed]
            refine hone (by trivial) hstep rfl rfl ?_
            simp [stepsLeft, hthread]
        | objectDeleted objectId =>
            have hstep : step setup state .dispatch =
                some { state with storeThread := .passing } := by
              simp [step, dispatch, hthread, hsubscribed]
            refine hone (by trivial) hstep rfl rfl ?_
            simp [stepsLeft, hthread]
    | passing =>
        have hstep : step setup state .handle = some { state with storeThread := .waiting } := by
          simp only [step, handle, hthread]
        refine hone (by trivial) hstep rfl rfl ?_
        simp [stepsLeft, hthread]
    | handling objectId =>
        have hstep : step setup state .handle =
            some { state with storeThread := .holding objectId 0 } := by
          simp only [step, handle, hthread, hkind, hcurrent]
        refine hone (by trivial) hstep rfl rfl ?_
        simp [stepsLeft, hthread]
    | holding objectId index =>
        have hplace := hpast.listed.holding index (by rw [hthread]; rfl)
        obtain rfl : 0 = index := Option.some.inj (hcurrent.symm.trans hplace)
        have hwaiting : ({ state with storeThread := .waiting } : System).leaving (some 0) none =
            .waiting :=
          leaving_of_current (show ({ state with storeThread := .waiting } : System).current =
            some 0 from hcurrent) none
        have hrunning : state.packagers[0]? = some running := by rw [hpackagers]; rfl
        have hstep : step setup state .addItem = some { state with
            storeThread := .waiting
            packagers := state.packagers.set 0 (running.add objectId)
            books := { state.books with
              handed := state.books.handed ++ [(0, objectId)] } } := by
          simp only [step, addItem, hthread, hrunning, Option.map_some, hwaiting]
        refine hone (by trivial) hstep rfl rfl ?_
        simp [stepsLeft, hthread]
    | _ =>
        rw [hthread] at hlist
        exact hlist.elim
  obtain ⟨labels, next, -, ⟨past, hpast⟩, hrest⟩ := exists_run_of_measure
    (fun state : System =>
      4 * state.objects.events.length + stepsLeft state.storeThread) hprogress
    ⟨[], rfl, by simp, hsound, hlisted, hremaining, rfl⟩
  exact ⟨past, next, hpast, hrest⟩

theorem addedIds_append (first second : List Label) :
    addedIds (first ++ second) = addedIds first ++ addedIds second :=
  List.filterMap_append

/-- A constructed list controller with a destination, none of whose sends has thrown, can be
brought to rest with nothing waiting, and it has transmitted then, in the order in which they
were added, all objects but the first ones, which were lost while it was constructed. -/
theorem list_drains {labels : List Label} (hkind : setup.kind = .objectList)
    (haddressed : setup.destIpAddr ≠ none) (hfresh : (addedIds labels).Nodup)
    (hrun : run (step setup) (start setup) labels = some system)
    (hremaining : system.remaining = [])
    (hnone : ∀ secondsSinceEpoch, .packager 0 (.send secondsSinceEpoch .throws) ∉ labels) :
    ∃ more final, run (step setup) system more = some final ∧ addedIds more = [] ∧
      final.AtRest ∧ (∀ running ∈ final.packagers, running.waiting = []) ∧
      addedIds labels = system.books.lost ++
        (transmittedBy 0 (deliveries setup (labels ++ more))).map Prod.fst := by
  obtain ⟨past, middle, hpast, hrest⟩ :=
    exists_atRest hkind (fresh_of_run hfresh hrun).1 (listed_of_run hkind hrun) hremaining
  have hmiddle : run (step setup) (start setup) (labels ++ past) = some middle :=
    run_append_eq_some.mpr ⟨system, hrun, hpast.goes⟩
  have hpastAdds := hpast.addedIds_eq_nil
  have hmiddleFresh : (addedIds (labels ++ past)).Nodup := by
    rw [addedIds_append, hpastAdds, List.append_nil]
    exact hfresh
  have hmiddleNone : ∀ secondsSinceEpoch,
      .packager 0 (.send secondsSinceEpoch .throws) ∉ labels ++ past := by
    intro secondsSinceEpoch hmem
    cases List.mem_append.mp hmem with
    | inl hearlier => exact hnone secondsSinceEpoch hearlier
    | inr hlater => exact hpast.packager_not_mem _ _ hlater
  -- The packager transmits what waits.
  obtain ⟨-, -, running, hpackagers, hworking⟩ := hpast.listed.built hpast.remaining
  have hrunning : middle.packagers[0]? = some running := by rw [hpackagers]; rfl
  obtain ⟨more, after, hmore, hready, hnil⟩ := exists_run_of_ready setup hrunning
    ((ready_iff hmiddleFresh hmiddle hrunning hworking).mpr ⟨haddressed, hmiddleNone⟩)
  have hfinal : run (step setup) (start setup) (labels ++ past ++ more) =
      some (middle.withPackager 0 after) :=
    run_append_eq_some.mpr ⟨middle, hmiddle, hmore⟩
  have hadded : addedIds (labels ++ past ++ more) = addedIds labels := by
    rw [← added_of_run hfinal, ← List.append_nil (addedIds labels), ← hpastAdds,
      ← addedIds_append, ← added_of_run hmiddle]
    rfl
  refine ⟨past ++ more, middle.withPackager 0 after,
    run_append_eq_some.mpr ⟨middle, hpast.goes, hmore⟩, ?_, hrest, ?_, ?_⟩
  · rw [addedIds_append, addedIds_append, hpastAdds, List.append_nil,
      List.append_right_eq_self] at hadded
    rw [addedIds_append, hpastAdds, hadded]
    rfl
  · intro other hother
    rw [withPackager, hpackagers] at hother
    rw [List.mem_singleton.mp hother]
    exact hnil
  · have hlisted := listed_of_run hkind hfinal
    have haccount := hlisted.account
    have harriving : (middle.withPackager 0 after).arriving = [] := by
      change middle.storeThread.objectIds ++ middle.objects.events.filterMap addedId = []
      rw [hrest.1, hrest.2]
      rfl
    rw [harriving, List.append_nil, added_of_run hfinal, hadded, ← (balanced_of_run hfinal).handed,
      ← handedTo_of_list hkind hfinal,
      transmitted_eq_handed hmiddle hrunning hmore hready.working hnil, List.append_assoc labels]
      at haccount
    rw [haccount, ← hpast.lost]
    rfl

/-- One object is added before there is a packager and another one behind that, and the
events of both are still in the queue. -/
theorem list_drains_two :
    ∃ system more final,
      run (step listSetup) (start listSetup) [.construct, .construct, addText "1" [7],
        .construct, addText "2" [8]] = some system ∧
      run (step listSetup) system more = some final ∧ addedIds more = [] ∧ final.AtRest ∧
      (∀ running ∈ final.packagers, running.waiting = []) ∧
      addedIds [.construct, .construct, addText "1" [7], .construct, addText "2" [8]] =
        system.books.lost ++ (transmittedBy 0 (deliveries listSetup ([.construct, .construct,
          addText "1" [7], .construct, addText "2" [8]] ++ more))).map Prod.fst := by
  have hrun : run (step listSetup) (start listSetup) [.construct, .construct, addText "1" [7],
      .construct, addText "2" [8]] = some _ := rfl
  obtain ⟨more, final, hall⟩ :=
    list_drains rfl (by decide) (by decide) hrun rfl (by simp [addText])
  exact ⟨_, more, final, hrun, hall⟩

end System

end Mbstf.Controller
