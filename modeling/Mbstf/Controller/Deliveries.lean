import Mbstf.Controller.PackagerQueue
import Mbstf.Controller.Startup
import Mbstf.Core.Observed

/-!
# What a controller transmits

The deliveries of a run are the objects that were passed to the `add` of a packager and the
objects that a packager handed to its transmitter, in order.  Each packager transmits what
it was given first, in that order; each transmission has the object as it was last added
under its id; no id is transmitted more often than it was added; and an object that was
added and is not in the store any more was transmitted.
-/

namespace Mbstf.Controller

open Std Mbstf.Objects Mbstf.Session Mbstf.Runs Mbstf.Observed

/-- What is delivered to a packager, and by it. -/
inductive Delivery where
  | handed (index : ℕ) (objectId : String)
  | transmitted (index : ℕ) (objectId : String) (request : SendRequest)
  deriving DecidableEq

/-- The object ids that a packager was given. -/
def handedTo (index : ℕ) (deliveries : List Delivery) : List String :=
  deliveries.filterMap fun
    | .handed other objectId => if other = index then some objectId else none
    | .transmitted _ _ _ => none

/-- What a packager transmitted. -/
def transmittedBy (index : ℕ) (deliveries : List Delivery) : List (String × SendRequest) :=
  deliveries.filterMap fun
    | .handed _ _ => none
    | .transmitted other objectId request =>
        if other = index then some (objectId, request) else none

/-- All object ids that were given to packagers. -/
def allHanded (deliveries : List Delivery) : List String :=
  deliveries.filterMap fun
    | .handed _ objectId => some objectId
    | .transmitted _ _ _ => none

/-- All object ids that were transmitted. -/
def allTransmitted (deliveries : List Delivery) : List String :=
  deliveries.filterMap fun
    | .handed _ _ => none
    | .transmitted _ objectId _ => some objectId

/-- What a packager transmits in a step. -/
def transmissions (index : ℕ) (sent : List (String × SendRequest)) : List Delivery :=
  sent.map fun one => .transmitted index one.1 one.2

theorem handedTo_handed (index other : ℕ) (objectId : String) :
    handedTo index [.handed other objectId] = if other = index then [objectId] else [] := by
  by_cases hsame : other = index
  · simp [handedTo, hsame]
  · simp [handedTo, hsame]

theorem handedTo_transmissions (index other : ℕ) (sent : List (String × SendRequest)) :
    handedTo index (transmissions other sent) = [] := by
  simp [handedTo, transmissions, List.filterMap_map]

theorem transmittedBy_transmissions (index other : ℕ) (sent : List (String × SendRequest)) :
    transmittedBy index (transmissions other sent) = if other = index then sent else [] := by
  by_cases hsame : other = index
  · simp [transmittedBy, transmissions, List.filterMap_map, hsame]
  · simp [transmittedBy, transmissions, List.filterMap_map, hsame]

theorem allHanded_transmissions (index : ℕ) (sent : List (String × SendRequest)) :
    allHanded (transmissions index sent) = [] := by
  simp [allHanded, transmissions, List.filterMap_map]

theorem allTransmitted_transmissions (index : ℕ) (sent : List (String × SendRequest)) :
    allTransmitted (transmissions index sent) = sent.map Prod.fst := by
  simp only [allTransmitted, transmissions, List.filterMap_map, Function.comp_def,
    List.filterMap_eq_map']

theorem handedTo_append (index : ℕ) (first second : List Delivery) :
    handedTo index (first ++ second) = handedTo index first ++ handedTo index second :=
  List.filterMap_append

theorem transmittedBy_append (index : ℕ) (first second : List Delivery) :
    transmittedBy index (first ++ second) =
      transmittedBy index first ++ transmittedBy index second :=
  List.filterMap_append

theorem mem_allTransmitted {index : ℕ} {deliveries : List Delivery} {objectId : String}
    (hmem : objectId ∈ (transmittedBy index deliveries).map Prod.fst) :
    objectId ∈ allTransmitted deliveries := by
  obtain ⟨sent, hsent, rfl⟩ := List.mem_map.mp hmem
  obtain ⟨delivery, hdelivery, hsome⟩ := List.mem_filterMap.mp hsent
  refine List.mem_filterMap.mpr ⟨delivery, hdelivery, ?_⟩
  cases delivery with
  | handed other id => cases hsome
  | transmitted other id request =>
      obtain ⟨-, hpair⟩ := Option.ite_none_right_eq_some.mp hsome
      rw [← Option.some.inj hpair]

namespace System

/-- What is delivered in a step. -/
def delivered (system : System) : Label → List Delivery
  | .addItem =>
      match system.storeThread with
      | .holding objectId index => [.handed index objectId]
      | _ => []
  | .packager index label =>
      match system.packagers[index]? with
      | none => []
      | some running => transmissions index (running.transmitted system.objects label)
  | _ => []

/-- What is delivered in a run of a controller. -/
def deliveries (setup : Setup) (labels : List Label) : List Delivery :=
  observed (step setup) delivered (start setup) labels

/-! ## What a step delivers -/

/-- What a step does to the packager at some place. -/
inductive Requeued (setup : Setup) : Option RunningPackager → Option RunningPackager →
    List String → List (String × SendRequest) → Prop
  | queued {running next : RunningPackager} {added : List String}
      {sent : List (String × SendRequest)} (hqueued : running.Queued next added sent) :
      Requeued setup (some running) (some next) added sent
  | new : Requeued setup none (some (.new setup.destIpAddr)) [] []
  | absent : Requeued setup none none [] []

variable {setup : Setup} {system next : System}

theorem requeued_same (place : Option RunningPackager) : Requeued setup place place [] [] := by
  cases place with
  | none => exact .absent
  | some running => exact .queued (.idle rfl rfl rfl fun _ hmem => hmem)

/-- A packager is made. -/
theorem requeued_setPackager (setup : Setup) (system : System) (index : ℕ) :
    Requeued setup system.packagers[index]? (system.setPackager setup).packagers[index]? [] [] := by
  rw [setPackager]
  by_cases hold : index < system.packagers.length
  · rw [List.getElem?_append_left hold]
    exact requeued_same _
  · have hlength : system.packagers.length ≤ index := Nat.le_of_not_lt hold
    rw [List.getElem?_eq_none hlength, List.getElem?_append_right hlength]
    cases hrest : index - system.packagers.length with
    | zero => exact .new
    | succ more => exact .absent

/-- One packager takes a step. -/
theorem requeued_set (setup : Setup) {place : ℕ} {running after : RunningPackager}
    (hrunning : system.packagers[place]? = some running) {added : List String}
    {sent : List (String × SendRequest)} (hqueued : running.Queued after added sent) (index : ℕ) :
    Requeued setup system.packagers[index]? (system.packagers.set place after)[index]?
      (if place = index then added else []) (if place = index then sent else []) := by
  by_cases hsame : place = index
  · subst hsame
    rw [if_pos rfl, if_pos rfl, hrunning,
      List.getElem?_set_self (List.getElem?_eq_some_iff.mp hrunning).1]
    exact .queued hqueued
  · rw [if_neg hsame, if_neg hsame, List.getElem?_set_ne hsame]
    exact requeued_same _

/-- What a step delivers, and what it does to each packager. -/
structure Delivering (setup : Setup) (system : System) (label : Label) (next : System) :
    Prop where
  requeued : ∀ index, Requeued setup system.packagers[index]? next.packagers[index]?
    (handedTo index (delivered system label))
    (transmittedBy index (delivered system label))
  handed : next.books.passed =
    system.books.passed ++ allHanded (delivered system label)
  conserved : ∃ dropped : Multiset String,
    Held.held (fun running => (running.waiting : Multiset String)) system.packagers +
        allHanded (delivered system label) =
      (allTransmitted (delivered system label) : Multiset String) +
        Held.held (fun running => (running.waiting : Multiset String)) next.packagers + dropped

/-- A step that delivers nothing and leaves the packagers alone. -/
theorem Delivering.same {label : Label} (hnone : delivered system label = [])
    (hpackagers : next.packagers = system.packagers)
    (hhanded : next.books.passed = system.books.passed) :
    Delivering setup system label next where
  requeued := by
    intro index
    rw [hnone, hpackagers]
    exact requeued_same _
  handed := by
    rw [hnone, hhanded]
    exact (List.append_nil _).symm
  conserved := by
    rw [hnone, hpackagers]
    exact ⟨0, by simp [allHanded, allTransmitted]⟩

theorem Delivering.setPackager {label : Label} (hnone : delivered system label = [])
    (hpackagers : next.packagers = (system.setPackager setup).packagers)
    (hhanded : next.books.passed = system.books.passed) :
    Delivering setup system label next where
  requeued := by
    intro index
    rw [hnone, hpackagers]
    exact requeued_setPackager setup system index
  handed := by
    rw [hnone, hhanded]
    exact (List.append_nil _).symm
  conserved := by
    rw [hnone, hpackagers]
    refine ⟨0, ?_⟩
    rw [System.setPackager, Held.held_concat]
    simp [allHanded, allTransmitted, RunningPackager.waiting, RunningPackager.new, Packager.new,
      sortListByPolicy, DeadlineOrder.sort]

/-- A step of one packager. -/
theorem conserved_set {place : ℕ} {running after : RunningPackager}
    (hrunning : system.packagers[place]? = some running) {added : List String}
    {sent : List (String × SendRequest)} (hqueued : running.Queued after added sent) :
    ∃ dropped : Multiset String,
      Held.held (fun running => (running.waiting : Multiset String)) system.packagers + added =
        (sent.map Prod.fst : Multiset String) +
          Held.held (fun running => (running.waiting : Multiset String))
            (system.packagers.set place after) + dropped := by
  obtain ⟨dropped, hconserved⟩ := hqueued.conserved
  refine ⟨dropped, ?_⟩
  have hset : Held.held (fun running => (running.waiting : Multiset String))
        (system.packagers.set place after) + running.waiting =
      Held.held (fun running => (running.waiting : Multiset String)) system.packagers +
        after.waiting :=
    Held.held_set hrunning after
  refine add_right_cancel (b := (after.waiting : Multiset String)) ?_
  calc Held.held (fun running => (running.waiting : Multiset String)) system.packagers + added +
        after.waiting
      = Held.held (fun running => (running.waiting : Multiset String))
          (system.packagers.set place after) + (running.waiting + added) := by
        rw [← add_assoc, hset]
        abel
    _ = _ := by
        rw [hconserved]
        abel

theorem Delivering.add {objectId : String} {place : ℕ} {running : RunningPackager}
    (hsound : system.PackagersSound) (hthread : system.storeThread = .holding objectId place)
    (hrunning : system.packagers[place]? = some running)
    (hpackagers : next.packagers = system.packagers.set place (running.add objectId))
    (hhanded : next.books.passed = system.books.passed ++ [objectId]) :
    Delivering setup system .addItem next := by
  have hqueued : running.Queued (running.add objectId) [objectId] [] :=
    .add (hsound running (List.mem_of_getElem? hrunning)) objectId
  have hone : delivered system .addItem = [.handed place objectId] := by
    rw [delivered, hthread]
  constructor
  · intro index
    rw [hone, handedTo_handed, hpackagers]
    have hset := requeued_set setup hrunning hqueued index
    rw [ite_self] at hset
    exact hset
  · rw [hone]
    exact hhanded
  · rw [hone, hpackagers]
    exact conserved_set hrunning hqueued

theorem Delivering.packager (hsound : system.PackagersSound) {place : ℕ}
    {running : RunningPackager} (hrunning : system.packagers[place]? = some running)
    {label : PackagerLabel} {turn : Turn}
    (hturn : running.turn (system.abandoned place) system.objects label = some turn)
    (hpackagers : next.packagers = system.packagers.set place turn.running)
    (hhanded : next.books.passed = system.books.passed) :
    Delivering setup system (.packager place label) next := by
  have hqueued := (hsound running (List.mem_of_getElem? hrunning)).turn_queued hturn
  have hdelivered : delivered system (.packager place label) =
      transmissions place (running.transmitted system.objects label) := by
    rw [delivered, hrunning]
  constructor
  · intro index
    rw [hdelivered, handedTo_transmissions, transmittedBy_transmissions, hpackagers]
    have hset := requeued_set setup hrunning hqueued index
    rw [ite_self] at hset
    exact hset
  · rw [hdelivered, allHanded_transmissions, List.append_nil, hhanded]
  · rw [hdelivered, allHanded_transmissions, allTransmitted_transmissions, hpackagers]
    exact conserved_set hrunning hqueued

theorem step_delivering (hsound : system.PackagersSound) {label : Label}
    (hstep : step setup system label = some next) : Delivering setup system label next := by
  cases step_taken hstep with
  | setOwnPackager => exact .setPackager rfl rfl rfl
  | setObjectListPackager => exact .setPackager rfl rfl rfl
  | @subscribeToPackager _ _ place _ running hrunning =>
      have hqueued : running.Queued { running with subscribed := true } [] [] :=
        .idle rfl rfl rfl fun _ hmem => hmem
      refine ⟨fun index => ?_, (List.append_nil _).symm, conserved_set hrunning hqueued⟩
      have hset := requeued_set setup hrunning hqueued index
      rw [ite_self, ite_self] at hset
      exact hset
  | addItem hthread hrunning =>
      exact .add hsound hthread hrunning rfl (passed_concat system.books _ _)
  | packager hrunning hturn => exact .packager hsound hrunning hturn rfl rfl
  | _ => exact .same rfl rfl rfl

/-! ## In order -/

/-- Every packager is in order, and one that is not there yet was given nothing. -/
inductive InOrderAt : Option RunningPackager → List String → List (String × SendRequest) → Prop
  | present {running : RunningPackager} {handed : List String}
      {sent : List (String × SendRequest)} (horder : running.InOrder handed sent) :
      InOrderAt (some running) handed sent
  | absent : InOrderAt none [] []

theorem InOrderAt.requeued {place after : Option RunningPackager} {handed added : List String}
    {sent more : List (String × SendRequest)} (horder : InOrderAt place handed sent)
    (hrequeued : Requeued setup place after added more) :
    InOrderAt after (handed ++ added) (sent ++ more) := by
  cases hrequeued with
  | queued hqueued =>
      cases horder with
      | present horder => exact .present (horder.queued hqueued)
  | new =>
      cases horder with
      | absent => exact .present (RunningPackager.inOrder_new setup.destIpAddr)
  | absent =>
      cases horder with
      | absent => exact .absent

theorem InOrderAt.inOrder {running : RunningPackager} {handed : List String}
    {sent : List (String × SendRequest)} (horder : InOrderAt (some running) handed sent) :
    running.InOrder handed sent := by
  cases horder with
  | present horder => exact horder

theorem inOrderAt_of_run {labels : List Label} {final : System}
    (hrun : run (step setup) (start setup) labels = some final) (index : ℕ) :
    InOrderAt final.packagers[index]? (handedTo index (deliveries setup labels))
      (transmittedBy index (deliveries setup labels)) := by
  have hstep : ∀ (seen : List Delivery) system label next,
      (system.PackagersSound ∧ InOrderAt system.packagers[index]? (handedTo index seen)
        (transmittedBy index seen)) → step setup system label = some next →
      next.PackagersSound ∧ InOrderAt next.packagers[index]?
        (handedTo index (seen ++ delivered system label))
        (transmittedBy index (seen ++ delivered system label)) := by
    intro seen system label next hinv hstep
    refine ⟨packagersSound_step hinv.1 hstep, ?_⟩
    rw [handedTo_append, transmittedBy_append]
    exact hinv.2.requeued ((step_delivering hinv.1 hstep).requeued index)
  have hfinal := observed_invariant hstep ⟨packagersSound_start setup, .absent⟩ hrun
  exact hfinal.2

/-- Each packager transmits what it was given, in that order: what it has not transmitted yet
is what waits, until it ends. -/
theorem delivered_in_order {labels : List Label} {final : System}
    (hrun : run (step setup) (start setup) labels = some final) {index : ℕ}
    {running : RunningPackager} (hrunning : final.packagers[index]? = some running) :
    running.InOrder (handedTo index (deliveries setup labels))
      (transmittedBy index (deliveries setup labels)) := by
  have horder := inOrderAt_of_run hrun index
  rw [hrunning] at horder
  exact horder.inOrder

/-- An object that a streaming controller gets, for a session without base URLs. -/
def addText (objectId : String) (data : ObjectData) : Label :=
  .addObject objectId data (Metadata.new 100 objectId "text/plain" ("http://example.com/" ++
    objectId) ("http://example.com/" ++ objectId) "acq1" 90 none none none)

/-- Two objects are added; the first is transmitted and deleted, the second waits. -/
def sendFirst : List Label :=
  List.replicate 6 .construct ++
    [addText "1" [7], .popEvent, .dispatch, .handle, .checkPackager, .getObjectListPackager,
      .addItem, addText "2" [8, 9], .popEvent, .dispatch, .handle, .checkPackager,
      .getObjectListPackager, .addItem,
      .packager 0 (.beginRound false), .packager 0 (.send 0 (.accepted 1)),
      .packager 0 .popFront, .packager 0 (.runOne [1]), .packager 0 .popSendCompleted,
      .packager 0 .dispatchSendCompleted, .packager 0 .lookAtSent, .packager 0 .deleteSent]

theorem sendFirst_in_order :
    ∃ final running, run (step streamingSetup) (start streamingSetup) sendFirst = some final ∧
      final.packagers[0]? = some running ∧ running.InOrder ["1", "2"]
        [("1", ⟨"http://example.com/1", "text/plain", 60, [7]⟩)] := by
  have hends : (run (step streamingSetup) (start streamingSetup) sendFirst).any
      (fun final => final.packagers[0]?.isSome) = true := by
    decide +kernel
  obtain ⟨final, hrun, hsome⟩ := (Option.any_eq_true _ _).mp hends
  obtain ⟨running, hrunning⟩ := Option.isSome_iff_exists.mp hsome
  have hhanded : handedTo 0 (deliveries streamingSetup sendFirst) = ["1", "2"] := by
    decide +kernel
  have hsent : transmittedBy 0 (deliveries streamingSetup sendFirst) =
      [("1", ⟨"http://example.com/1", "text/plain", 60, [7]⟩)] := by
    decide +kernel
  have horder := delivered_in_order hrun hrunning
  rw [hhanded, hsent] at horder
  exact ⟨final, running, hrun, hrunning, horder⟩

/-! ## At most as often as added -/

/-- What was given to packagers is what the books say; what was transmitted or waits for
that was given before. -/
structure Balanced (seen : List Delivery) (system : System) : Prop where
  sound : system.PackagersSound
  handed : allHanded seen = system.books.passed
  waiting : (allTransmitted seen : Multiset String) +
    Held.held (fun running => (running.waiting : Multiset String)) system.packagers ≤
      allHanded seen

theorem Balanced.step {seen : List Delivery} {label : Label} (hbalanced : Balanced seen system)
    (hstep : step setup system label = some next) :
    Balanced (seen ++ delivered system label) next := by
  obtain ⟨hsound, hhanded, hwaiting⟩ := hbalanced
  have hdelivering := step_delivering hsound hstep
  obtain ⟨dropped, hconserved⟩ := hdelivering.conserved
  have hall : allHanded (seen ++ delivered system label) =
      allHanded seen ++ allHanded (delivered system label) := List.filterMap_append
  have hsent : allTransmitted (seen ++ delivered system label) =
      allTransmitted seen ++ allTransmitted (delivered system label) :=
    List.filterMap_append
  refine ⟨packagersSound_step hsound hstep, by rw [hall, hhanded, hdelivering.handed], ?_⟩
  rw [hall, hsent, ← Multiset.coe_add, ← Multiset.coe_add]
  calc (allTransmitted seen : Multiset String) + allTransmitted (delivered system label) +
        Held.held (fun running => (running.waiting : Multiset String)) next.packagers
      ≤ (allTransmitted seen : Multiset String) +
          (allTransmitted (delivered system label) +
            Held.held (fun running => (running.waiting : Multiset String)) next.packagers +
              dropped) := by
        rw [add_assoc]
        exact add_le_add_right (Multiset.le_add_right _ _) _
    _ = (allTransmitted seen : Multiset String) +
          Held.held (fun running => (running.waiting : Multiset String)) system.packagers +
            allHanded (delivered system label) := by
        rw [← hconserved, add_assoc]
    _ ≤ _ := add_le_add_left hwaiting _

theorem balanced_of_run {labels : List Label} {final : System}
    (hrun : run (step setup) (start setup) labels = some final) :
    Balanced (deliveries setup labels) final :=
  observed_invariant (fun _ _ _ _ hinv hstep => hinv.step hstep)
    ⟨packagersSound_start setup, rfl, le_rfl⟩ hrun

/-- The books have all that was added. -/
theorem added_of_run {labels : List Label} {final : System}
    (hrun : run (step setup) (start setup) labels = some final) :
    final.books.added = addedIds labels := by
  have hstep : ∀ past system label next,
      (system.PackagersSound ∧ system.books.added = addedIds past) → True →
      step setup system label = some next →
        next.PackagersSound ∧ next.books.added = addedIds (past ++ [label]) := by
    intro past system label next hinv _ hstep
    have hstepped := step_stepped hinv.1 hstep
    refine ⟨hstepped.sound, ?_⟩
    rw [hstepped.added_eq, hinv.2, addedIds, addedIds, List.filterMap_append]
    cases label with
    | _ => rfl
  have hfinal := @run_history_invariant _ _ _ _ (fun _ => True) hstep _ _ _
    ⟨packagersSound_start setup, rfl⟩ (fun _ _ => trivial) hrun
  exact hfinal.2

/-- No object id is transmitted more often than it was added, by all packagers together. -/
theorem transmitted_le_added {labels : List Label} {final : System}
    (hrun : run (step setup) (start setup) labels = some final) :
    (allTransmitted (deliveries setup labels) : Multiset String) ≤ addedIds labels := by
  have hbalanced := balanced_of_run hrun
  have haccount := account_of_run hrun
  rw [← added_of_run hrun, haccount]
  calc (allTransmitted (deliveries setup labels) : Multiset String)
      ≤ allHanded (deliveries setup labels) :=
        (Multiset.le_add_right _ _).trans hbalanced.waiting
    _ = final.books.passed := by rw [hbalanced.handed]
    _ ≤ final.account := by
        rw [account, add_assoc _ (final.books.invalid : Multiset String), add_assoc,
          add_left_comm]
        exact Multiset.le_add_right _ _

theorem sendFirst_le_added :
    ∃ final, run (step streamingSetup) (start streamingSetup) sendFirst = some final ∧
      (allTransmitted (deliveries streamingSetup sendFirst) : Multiset String) ≤
        addedIds sendFirst := by
  obtain ⟨final, hrun⟩ := Option.isSome_iff_exists.mp
    (show (run (step streamingSetup) (start streamingSetup) sendFirst).isSome = true by
      decide +kernel)
  exact ⟨final, hrun, transmitted_le_added hrun⟩

/-! ## The objects in the store -/

/-- The object that an `addObject` step passes for an id. -/
def addedUnder (objectId : String) : Label → Option Object
  | .addObject added data metadata => if added = objectId then some (data, metadata) else none
  | _ => none

/-- The object that was last added under an id. -/
def lastAdded (objectId : String) (labels : List Label) : Option Object :=
  (labels.filterMap (addedUnder objectId)).getLast?

theorem lastAdded_concat (objectId : String) (labels : List Label) (label : Label) :
    lastAdded objectId (labels ++ [label]) =
      (addedUnder objectId label).or (lastAdded objectId labels) := by
  rw [lastAdded, lastAdded, List.filterMap_append]
  cases hlabel : addedUnder objectId label with
  | none => simp [hlabel]
  | some object => simp [hlabel]

theorem addedBy_eq_none {label : Label} (hlabel : ∀ objectId, addedUnder objectId label = none) :
    addedBy label = none := by
  cases label with
  | addObject objectId data metadata =>
      have hsame := hlabel objectId
      rw [addedUnder, if_pos rfl] at hsame
      cases hsame
  | _ => rfl

/-- What a step does to the store. -/
inductive StoreStep (system next : System) : Label → Prop
  | same {label : Label} (hlabel : ∀ objectId, addedUnder objectId label = none)
      (hstore : next.objects.store = system.objects.store) : StoreStep system next label
  | added (objectId : String) (data : ObjectData) (metadata : Metadata)
      (hstore : next.objects.store = (system.objects.addObject objectId data metadata).store) :
      StoreStep system next (.addObject objectId data metadata)
  | kept {label : Label} (hlabel : ∀ objectId, addedUnder objectId label = none)
      (objectId : String)
      (hstore : next.objects.store = (keepAfterSend system.objects objectId).store) :
      StoreStep system next label
  | deleted {label : Label} (hlabel : ∀ objectId, addedUnder objectId label = none) {index : ℕ}
      {running : RunningPackager} (hrunning : system.packagers[index]? = some running)
      {objectId : String} (hreported : objectId ∈ running.reported)
      (hstore : next.objects.store = (system.objects.deleteObject objectId).store) :
      StoreStep system next label

theorem step_storeStep {label : Label} (hstep : step setup system label = some next) :
    StoreStep system next label := by
  cases step_taken hstep with
  | addObject objectId data metadata => exact .added objectId data metadata rfl
  | manifest => exact .kept (fun _ => rfl) _ rfl
  | packager hrunning hturn =>
      obtain hsame | ⟨objectId, hreported, hdeleted⟩ := RunningPackager.turn_deletes hturn
      · exact .same (fun _ => rfl) (congrArg ObjectStore.store hsame)
      · exact .deleted (fun _ => rfl) hrunning hreported (congrArg ObjectStore.store hdeleted)
  | _ => exact .same (fun _ => rfl) rfl

/-- What is sent of an object does not depend on whether it is to be kept. -/
theorem sendRequest_keepAfterSend (object : Object) (keep : Bool) (secondsSinceEpoch : ℕ) :
    sendRequest (object.1, { object.2 with keepAfterSend := keep }) secondsSinceEpoch =
      sendRequest object secondsSinceEpoch := rfl

/-- What is sent of an object that was passed and of the one that the store has of it. -/
theorem sendRequest_moveConstruct (data : ObjectData) (metadata : Metadata)
    (secondsSinceEpoch : ℕ) :
    sendRequest (data, metadata.moveConstruct) secondsSinceEpoch =
      sendRequest (data, metadata) secondsSinceEpoch := rfl

/-- The store has the objects that were last added, as far as it is sent what it has. -/
def HoldsLast (labels : List Label) (system : System) : Prop :=
  ∀ objectId object, system.objects.store[objectId]? = some object →
    ∃ passed, lastAdded objectId labels = some passed ∧
      ∀ secondsSinceEpoch, sendRequest object secondsSinceEpoch =
        sendRequest passed secondsSinceEpoch

theorem HoldsLast.step {labels : List Label} {label : Label} (hholds : HoldsLast labels system)
    (hstore : StoreStep system next label) : HoldsLast (labels ++ [label]) next := by
  intro objectId object hobject
  rw [lastAdded_concat]
  cases hstore with
  | same hlabel hsame =>
      rw [hsame] at hobject
      rw [hlabel]
      exact hholds objectId object hobject
  | added other data metadata hadded =>
      rw [hadded, ObjectStore.addObject, ObjectStore.getElem?_insertOrAssign] at hobject
      rw [addedUnder]
      split at hobject
      case isTrue hother =>
          obtain rfl := Option.some.inj hobject
          rw [if_pos hother]
          exact ⟨(data, metadata), rfl, sendRequest_moveConstruct data metadata⟩
      case isFalse hother =>
          rw [if_neg hother]
          exact hholds objectId object hobject
  | kept hlabel other hkept =>
      rw [hlabel]
      rw [hkept, keepAfterSend] at hobject
      split at hobject
      case h_1 => exact hholds objectId object hobject
      case h_2 found hfound =>
          simp only [ExtTreeMap.getElem?_insert, LawfulEqCmp.compare_eq_iff_eq] at hobject
          split at hobject
          case isTrue hother =>
              obtain rfl := Option.some.inj hobject
              obtain ⟨passed, hpassed, hsame⟩ := hholds other found hfound
              refine ⟨passed, hother ▸ hpassed, fun secondsSinceEpoch => ?_⟩
              rw [sendRequest_keepAfterSend]
              exact hsame secondsSinceEpoch
          case isFalse => exact hholds objectId object hobject
  | deleted hlabel _ _ hdeleted =>
      rw [hlabel]
      rw [hdeleted, ObjectStore.deleteObject, ObjectStore.getElem?_erase] at hobject
      split at hobject
      case isTrue => cases hobject
      case isFalse => exact hholds objectId object hobject

theorem holdsLast_of_run {labels : List Label} {final : System}
    (hrun : run (step setup) (start setup) labels = some final) : HoldsLast labels final := by
  have hstep : ∀ past system label next, HoldsLast past system → True →
      step setup system label = some next → HoldsLast (past ++ [label]) next :=
    fun _ _ _ _ hinv _ hstep => hinv.step (step_storeStep hstep)
  refine @run_history_invariant _ _ _ _ (fun _ => True) hstep _ _ _ ?_ (fun _ _ => trivial) hrun
  intro objectId object hobject
  simp [start, ObjectStore.new] at hobject

/-- What a packager transmits is in the store then. -/
theorem stored_of_mem_transmitted {running : RunningPackager} {objects : ObjectStore}
    {label : PackagerLabel} {sent : String × SendRequest}
    (hmem : sent ∈ running.transmitted objects label) :
    ∃ secondsSinceEpoch toi object, label = .send secondsSinceEpoch (.accepted toi) ∧
      objects.store[sent.1]? = some object ∧ sent.2 = sendRequest object secondsSinceEpoch := by
  unfold RunningPackager.transmitted at hmem
  split at hmem
  case h_1 secondsSinceEpoch toi =>
      split at hmem
      case h_1 item hworker =>
          split at hmem
          case h_1 => cases hmem
          case h_2 object hobject =>
              obtain rfl := List.mem_singleton.mp hmem
              refine ⟨secondsSinceEpoch, toi, object, rfl, ?_, rfl⟩
              unfold ObjectStore.at? at hobject
              split at hobject
              · cases hobject
              · rw [← Except.ok.inj hobject]
                assumption
      case h_2 => cases hmem
  case h_2 => cases hmem

/-- Transmissions are seen of steps of packagers. -/
theorem mem_transmitted_of_mem_delivered {label : Label} {index : ℕ} {objectId : String}
    {request : SendRequest}
    (hmem : .transmitted index objectId request ∈ delivered system label) :
    ∃ packagerLabel, ∃ running : RunningPackager, label = .packager index packagerLabel ∧
      (objectId, request) ∈ running.transmitted system.objects packagerLabel := by
  unfold delivered at hmem
  split at hmem
  case h_1 =>
      split at hmem
      · cases List.mem_singleton.mp hmem
      · cases hmem
  case h_2 place packagerLabel =>
      split at hmem
      case h_1 => cases hmem
      case h_2 running hrunning =>
          obtain ⟨sent, hsent, hsame⟩ := List.mem_map.mp hmem
          obtain ⟨rfl, rfl, rfl⟩ := Delivery.transmitted.inj hsame
          exact ⟨packagerLabel, running, rfl, hsent⟩
  case h_3 => cases hmem

/-- Each transmission comes of an accepted `send`, of what the store had then. -/
theorem exists_send_of_mem {labels : List Label} {index : ℕ} {objectId : String}
    {request : SendRequest}
    (hmem : .transmitted index objectId request ∈ deliveries setup labels) :
    ∃ past secondsSinceEpoch toi rest system object,
      labels = past ++ .packager index (.send secondsSinceEpoch (.accepted toi)) :: rest ∧
      run (step setup) (start setup) past = some system ∧
      system.objects.store[objectId]? = some object ∧
      request = sendRequest object secondsSinceEpoch := by
  obtain ⟨past, label, rest, system, next, hlabels, hrun, -, hseen⟩ :=
    exists_step_of_mem_observed hmem
  obtain ⟨packagerLabel, running, rfl, hsent⟩ := mem_transmitted_of_mem_delivered hseen
  obtain ⟨secondsSinceEpoch, toi, object, rfl, hstored, hrequest⟩ :=
    stored_of_mem_transmitted hsent
  exact ⟨past, secondsSinceEpoch, toi, rest, system, object, hlabels, hrun, hstored, hrequest⟩

/-! ## The object of a round -/

/-- The step starts a round of the worker of the packager. -/
def startsRound (index : ℕ) : Label → Bool
  | .packager other (.beginRound _) => other = index
  | _ => false

/-- The steps up to the start of the last round of the packager. -/
def beforeRound (index : ℕ) (labels : List Label) : List Label :=
  labels.rdropWhile fun label => !startsRound index label

/-- The steps since then. -/
def sinceRound (index : ℕ) (labels : List Label) : List Label :=
  labels.rtakeWhile fun label => !startsRound index label

theorem mem_addedIds_of_addedUnder {labels : List Label} {label : Label} {objectId : String}
    {object : Object} (hlabel : label ∈ labels) (hadded : addedUnder objectId label = some object) :
    objectId ∈ addedIds labels := by
  refine List.mem_filterMap.mpr ⟨label, hlabel, ?_⟩
  unfold addedUnder at hadded
  split at hadded
  case h_1 => rw [← (Option.ite_none_right_eq_some.mp hadded).1]; rfl
  case h_2 => cases hadded

/-- With nothing added under the id since, the round has what was added before it. -/
theorem lastAdded_beforeRound {index : ℕ} {labels : List Label} {objectId : String}
    (hwindow : objectId ∉ addedIds (sinceRound index labels)) :
    lastAdded objectId labels = lastAdded objectId (beforeRound index labels) := by
  have hsplit : labels = beforeRound index labels ++ sinceRound index labels :=
    (List.rdropWhile_append_rtakeWhile).symm
  have hnone : (sinceRound index labels).filterMap (addedUnder objectId) = [] := by
    rw [List.filterMap_eq_nil_iff]
    intro label hlabel
    by_contra hsome
    obtain ⟨object, hadded⟩ := Option.ne_none_iff_exists'.mp hsome
    exact hwindow (mem_addedIds_of_addedUnder hlabel hadded)
  conv_lhs => rw [hsplit]
  rw [lastAdded, List.filterMap_append, hnone, List.append_nil, lastAdded]

/-- Whatever a packager transmits is the object that was last added under its id before the
round, if none is added under it while the worker has its references: its bytes, and its
location, type and expiry as they come of its metadata.  The store has it at the `send`, so it
was not deleted since the round began. -/
theorem transmitted_lastAdded {past : List Label}
    (hrun : run (step setup) (start setup) past = some system) {label : Label} {index : ℕ}
    {objectId : String} {request : SendRequest}
    (hmem : .transmitted index objectId request ∈ delivered system label)
    (hwindow : objectId ∉ addedIds (sinceRound index past)) :
    ∃ object secondsSinceEpoch toi,
      label = .packager index (.send secondsSinceEpoch (.accepted toi)) ∧
      lastAdded objectId (beforeRound index past) = some object ∧
      request = sendRequest object secondsSinceEpoch := by
  obtain ⟨packagerLabel, running, rfl, hsent⟩ := mem_transmitted_of_mem_delivered hmem
  obtain ⟨secondsSinceEpoch, toi, object, rfl, hstored, hrequest⟩ :=
    stored_of_mem_transmitted hsent
  obtain ⟨passed, hpassed, hsame⟩ := holdsLast_of_run hrun objectId object hstored
  rw [lastAdded_beforeRound hwindow] at hpassed
  exact ⟨passed, secondsSinceEpoch, toi, rfl, hpassed, hrequest.trans (hsame secondsSinceEpoch)⟩

/-- The first object, after the second was added and the round was begun. -/
theorem sendFirst_lastAdded :
    ∃ object secondsSinceEpoch toi,
      (.packager 0 (.send 0 (.accepted 1)) : Label) =
        .packager 0 (.send secondsSinceEpoch (.accepted toi)) ∧
      lastAdded "1" (beforeRound 0 (sendFirst.take 21)) = some object ∧
      (⟨"http://example.com/1", "text/plain", 60, [7]⟩ : SendRequest) =
        sendRequest object secondsSinceEpoch := by
  have hends : (run (step streamingSetup) (start streamingSetup) (sendFirst.take 21)).any
      (fun system => .transmitted 0 "1" ⟨"http://example.com/1", "text/plain", 60, [7]⟩ ∈
        delivered system (.packager 0 (.send 0 (.accepted 1)))) = true := by
    decide +kernel
  obtain ⟨system, hrun, hsent⟩ := (Option.any_eq_true _ _).mp hends
  have hwindow : "1" ∉ addedIds (sinceRound 0 (sendFirst.take 21)) := by decide
  exact transmitted_lastAdded hrun (of_decide_eq_true hsent) hwindow

/-! ## Nothing is deleted unsent -/

/-- What was added is in the store, or was transmitted. -/
structure Accounted (setup : Setup) (seen : List Delivery) (system : System) : Prop where
  sound : system.PackagersSound
  inOrder : ∀ index, InOrderAt system.packagers[index]? (handedTo index seen)
    (transmittedBy index seen)
  added : ∀ objectId ∈ system.books.added, objectId ∈ system.objects.store ∨
    objectId ∈ allTransmitted seen

theorem Accounted.step {seen : List Delivery} {label : Label}
    (haccounted : Accounted setup seen system) (hstep : step setup system label = some next) :
    Accounted setup (seen ++ delivered system label) next := by
  obtain ⟨hsound, hinOrder, hadded⟩ := haccounted
  have hsent : ∀ objectId, objectId ∈ allTransmitted seen →
      objectId ∈ allTransmitted (seen ++ delivered system label) := by
    intro objectId hmem
    rw [allTransmitted, List.filterMap_append]
    exact List.mem_append_left _ hmem
  refine ⟨packagersSound_step hsound hstep, ?_, ?_⟩
  · intro index
    rw [handedTo_append, transmittedBy_append]
    exact (hinOrder index).requeued ((step_delivering hsound hstep).requeued index)
  · intro objectId hmem
    have hbooks : objectId ∈ system.books.added ∨ addedBy label = some objectId := by
      rw [(step_stepped hsound hstep).added_eq, List.mem_append] at hmem
      exact hmem.imp_right Option.mem_toList.mp
    -- An id that the step does not add keeps its object, unless that is deleted.
    have hold : (∀ other, addedUnder other label = none) →
        objectId ∈ system.objects.store ∨ objectId ∈ allTransmitted seen := by
      intro hlabel
      refine hadded objectId (hbooks.resolve_right ?_)
      rw [addedBy_eq_none hlabel]
      exact (Option.some_ne_none objectId).symm
    cases step_storeStep hstep with
    | same hlabel hstore =>
        rw [hstore]
        exact (hold hlabel).imp_right (hsent objectId)
    | added other data metadata hstore =>
        rw [hstore]
        cases hbooks with
        | inl hbefore =>
            refine (hadded objectId hbefore).imp ?_ (hsent objectId)
            intro hstored
            exact (mem_addObject _ _ _ _ _).mpr (.inr hstored)
        | inr hnow =>
            obtain rfl := Option.some.inj hnow
            exact .inl ((mem_addObject _ _ _ _ _).mpr (.inl rfl))
    | kept hlabel other hstore =>
        rw [hstore]
        exact (hold hlabel).imp (mem_keepAfterSend _ _ _).mpr (hsent objectId)
    | @deleted _ hlabel index running hrunning deleted hreported hstore =>
        rw [hstore]
        by_cases hsame : objectId = deleted
        · subst hsame
          have horder := hinOrder index
          rw [hrunning] at horder
          cases horder with
          | present horder =>
              exact .inr (hsent objectId (mem_allTransmitted (horder.reported _ hreported)))
        · refine (hold hlabel).imp ?_ (hsent objectId)
          intro hstored
          exact (mem_deleteObject _ _ _).mpr ⟨hsame, hstored⟩

/-- An object that was added and is not in the store any more was transmitted. -/
theorem transmitted_of_removed {labels : List Label} {final : System}
    (hrun : run (step setup) (start setup) labels = some final) {objectId : String}
    (hadded : objectId ∈ addedIds labels) (hremoved : objectId ∉ final.objects.store) :
    objectId ∈ allTransmitted (deliveries setup labels) := by
  have haccounted : Accounted setup (deliveries setup labels) final :=
    observed_invariant (fun _ _ _ _ hinv hstep => hinv.step hstep)
      ⟨packagersSound_start setup, fun _ => .absent, fun _ hmem => by cases hmem⟩ hrun
  rw [← added_of_run hrun] at hadded
  exact (haccounted.added objectId hadded).resolve_left hremoved

theorem sendFirst_removed :
    ∃ final, run (step streamingSetup) (start streamingSetup) sendFirst = some final ∧
      "1" ∉ final.objects.store ∧ "1" ∈ allTransmitted (deliveries streamingSetup sendFirst) := by
  have hends : (run (step streamingSetup) (start streamingSetup) sendFirst).any
      (fun final => "1" ∉ final.objects.store) = true := by
    decide +kernel
  obtain ⟨final, hrun, hremoved⟩ := (Option.any_eq_true _ _).mp hends
  have hgone := of_decide_eq_true hremoved
  exact ⟨final, hrun, hgone, transmitted_of_removed hrun (by decide) hgone⟩

end System

end Mbstf.Controller
