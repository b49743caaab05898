import Mbstf.Controller.Deliveries

/-!
# The order of the added objects

An added object is an event of the store first, and with the thread of the store next.  It
goes from there to the controller's packager, or to none.  No object overtakes another on
this way, so each packager transmits objects in the order in which they were added.  In the
list controller, the objects that go to no packager are the first that were added.
-/

namespace Mbstf.Controller

open Std Mbstf.Objects Mbstf.Session Mbstf.Runs Mbstf.Observed

/-- A packager that nobody destroys stays at work. -/
theorem RunningPackager.turn_working {running : RunningPackager} {objects : ObjectStore}
    {label : PackagerLabel} {after : Turn} (hworking : running.life = .working)
    (hturn : running.turn false objects label = some after) :
    after.running.life = .working := by
  cases turn_taken hturn with
  | looked =>
      obtain ⟨-, eventThread, hrunning, -⟩ := lookAtSent_eq running objects _
      rw [hrunning]
      exact hworking
  | workerJoined habandoned => cases habandoned
  | eventsJoined habandoned => cases habandoned
  | _ => exact hworking

namespace System

/-- The added objects that have come no farther than the thread of the store. -/
def arriving (system : System) : List String :=
  system.storeThread.objectIds ++ pendingAdded system.objects

/-- What a step does with the objects that are arriving: some come in at the end, or the
first of them is passed to a packager, lost, or an invalid manifest. -/
inductive Arrival (system next : System) (added : List String) : Prop
  | added (harriving : next.arriving = system.arriving ++ added)
      (hhanded : next.books.passed = system.books.passed)
      (hlost : next.books.lost = system.books.lost)
  | handed {objectId : String} (hnone : added = [])
      (hholding : ∃ index, system.storeThread = .holding objectId index)
      (hfirst : system.arriving = objectId :: next.arriving)
      (hhanded : next.books.passed = system.books.passed ++ [objectId])
      (hlost : next.books.lost = system.books.lost)
  | lost {objectId : String} (hnone : added = [])
      (hfirst : system.arriving = objectId :: next.arriving)
      (hhanded : next.books.passed = system.books.passed)
      (hlost : next.books.lost = system.books.lost ++ [objectId])
  | invalid {objectId : String} (hnone : added = [])
      (hmanifest : system.storeThread = .manifest objectId)
      (hfirst : system.arriving = objectId :: next.arriving)
      (hhanded : next.books.passed = system.books.passed)
      (hlost : next.books.lost = system.books.lost)

variable {setup : Setup} {system next : System} {label : Label}

/-- A step that has nothing to do with the arriving objects. -/
theorem Arrival.same (harriving : next.arriving = system.arriving)
    (hhanded : next.books.passed = system.books.passed)
    (hlost : next.books.lost = system.books.lost) : Arrival system next [] :=
  .added (by rw [harriving, List.append_nil]) hhanded hlost

theorem arriving_of_storeThread {objectId : String}
    (hthread : system.storeThread.objectIds = [objectId]) :
    system.arriving = objectId :: pendingAdded system.objects := by
  rw [arriving, hthread]
  rfl

/-- The thread of the store goes on with the object it has, or with none. -/
theorem Arrival.onward {before : StoreThread} (hthread : system.storeThread = before)
    (hafter : next.storeThread.objectIds = before.objectIds)
    (hpending : pendingAdded next.objects = pendingAdded system.objects)
    (hhanded : next.books.passed = system.books.passed)
    (hlost : next.books.lost = system.books.lost) : Arrival system next [] :=
  .same (by rw [arriving, arriving, hthread, hafter, hpending]) hhanded hlost

/-- A turn of a packager adds no event of an added object. -/
theorem pendingAdded_turn (hsound : system.PackagersSound) {index : ℕ} {running : RunningPackager}
    (hrunning : system.packagers[index]? = some running) {packagerLabel : PackagerLabel}
    {turn : Turn}
    (hturn : running.turn (system.abandoned index) system.objects packagerLabel = some turn) :
    pendingAdded turn.objects = pendingAdded system.objects := by
  have hturned := (hsound running (List.mem_of_getElem? hrunning)).turn hturn
  obtain ⟨hobjects, -⟩ | ⟨deleted, hobjects, -⟩ := hturned.ids
  · rw [hobjects]
  · rw [hobjects, pendingAdded_deleteObject]

theorem step_arrival (hsound : system.PackagersSound)
    (hstep : step setup system label = some next) :
    Arrival system next (addedBy label).toList := by
  cases step_taken hstep with
  | addObject objectId data metadata =>
      refine .added ?_ rfl rfl
      rw [arriving, arriving, List.append_assoc]
      congr 1
      rw [pendingAdded, ObjectStore.addObject, List.filterMap_append]
      rfl
  | popped hthread hevents =>
      refine .same ?_ rfl rfl
      rw [arriving, arriving, hthread, pendingAdded_of_events hevents]
      rfl
  | dispatched hthread => exact .onward hthread rfl rfl rfl rfl
  | unheard hthread =>
      exact .lost rfl (arriving_of_storeThread (by rw [hthread]; rfl)) rfl rfl
  | deletion hthread =>
      refine .onward hthread ?_ rfl rfl rfl
      split
      · rfl
      · rfl
  | passed hthread => exact .onward hthread rfl rfl rfl rfl
  | drop hthread =>
      exact .lost rfl (arriving_of_storeThread (by rw [hthread]; rfl)) rfl rfl
  | handlePackager hthread => exact .onward hthread rfl rfl rfl rfl
  | checkFailed hthread =>
      exact .lost rfl (arriving_of_storeThread (by rw [hthread]; rfl)) rfl rfl
  | manifest hthread =>
      exact .onward hthread rfl (pendingAdded_keepAfterSend system.objects _) rfl rfl
  | noManifest hthread => exact .onward hthread rfl rfl rfl rfl
  | updateFailed hthread =>
      exact .lost rfl (arriving_of_storeThread (by rw [hthread]; rfl)) rfl rfl
  | updated _ hthread => exact .onward hthread rfl rfl rfl rfl
  | rejected hthread =>
      exact .invalid rfl hthread (arriving_of_storeThread (by rw [hthread]; rfl)) rfl rfl
  | unset hthread =>
      refine .invalid rfl hthread ?_ rfl rfl
      rw [arriving_of_storeThread (by rw [hthread]; rfl), arriving, unsetPackager,
        objectIds_leaving]
      rfl
  | checkPackager hthread =>
      refine .onward hthread ?_ rfl rfl rfl
      split
      · rfl
      · rfl
  | setObjectListPackager hthread =>
      exact .onward hthread (objectIds_leaving _ _ _) rfl rfl rfl
  | getObjectListPackager hthread => exact .onward hthread rfl rfl rfl rfl
  | addItem hthread =>
      refine .handed rfl ⟨_, hthread⟩ ?_ (passed_concat system.books _ _) rfl
      rw [arriving_of_storeThread (by rw [hthread]; rfl), arriving, objectIds_leaving]
      rfl
  | resume hthread => exact .onward hthread (objectIds_onward _) rfl rfl rfl
  | packager hrunning hturn =>
      refine .same ?_ rfl rfl
      rw [arriving, arriving, pendingAdded_turn hsound hrunning hturn]
  | _ => exact .same rfl rfl rfl

/-! ## No object overtakes another -/

/-- What went to packagers and what is arriving was added in this order. -/
def InAddedOrder (system : System) : Prop :=
  (system.books.passed ++ system.arriving).Sublist system.books.added

theorem InAddedOrder.step (hinv : system.InAddedOrder) (hsound : system.PackagersSound)
    (hstep : System.step setup system label = some next) : next.InAddedOrder := by
  have hadded : next.books.added = system.books.added ++ (addedBy label).toList :=
    (step_entered hsound hstep).added
  rw [InAddedOrder, hadded]
  cases step_arrival hsound hstep with
  | added harriving hhanded =>
      rw [harriving, hhanded, ← List.append_assoc]
      exact hinv.append (List.Sublist.refl _)
  | handed hnone _ hfirst hhanded =>
      rw [hnone, List.append_nil, hhanded, List.append_assoc, List.singleton_append, ← hfirst]
      exact hinv
  | lost hnone hfirst hhanded =>
      rw [InAddedOrder, hfirst] at hinv
      rw [hnone, List.append_nil, hhanded]
      exact ((List.Sublist.refl _).append (List.sublist_cons_self _ _)).trans hinv
  | invalid hnone _ hfirst hhanded =>
      rw [InAddedOrder, hfirst] at hinv
      rw [hnone, List.append_nil, hhanded]
      exact ((List.Sublist.refl _).append (List.sublist_cons_self _ _)).trans hinv

theorem inAddedOrder_of_run {labels : List Label} {final : System}
    (hrun : run (step setup) (start setup) labels = some final) : final.InAddedOrder := by
  have hstep : ∀ system label next, (system.PackagersSound ∧ system.InAddedOrder) →
      step setup system label = some next → next.PackagersSound ∧ next.InAddedOrder :=
    fun _ _ _ hinv hstep => ⟨packagersSound_step hinv.1 hstep, hinv.2.step hinv.1 hstep⟩
  exact (run_invariant hstep ⟨packagersSound_start setup, List.Sublist.refl []⟩ hrun).2

theorem InOrderAt.sublist {place : Option RunningPackager} {handed : List String}
    {sent : List (String × SendRequest)} (horder : InOrderAt place handed sent) :
    (sent.map Prod.fst).Sublist handed := by
  cases horder with
  | present horder =>
      obtain ⟨left, hleft, -⟩ := horder.queue
      rw [hleft]
      exact List.sublist_append_left _ left
  | absent => exact List.Sublist.refl []

theorem handedTo_sublist (index : ℕ) (deliveries : List Delivery) :
    (handedTo index deliveries).Sublist (allHanded deliveries) := by
  induction deliveries with
  | nil => exact List.Sublist.refl []
  | cons delivery deliveries ih =>
      cases delivery with
      | handed other objectId =>
          by_cases hsame : other = index
          · simpa [handedTo, allHanded, hsame] using ih
          · simpa [handedTo, allHanded, hsame] using ih.cons objectId
      | transmitted other objectId request => simpa [handedTo, allHanded] using ih

/-- Packagers are given the objects in the order in which they were added. -/
theorem handed_sublist_addedIds {labels : List Label} {final : System}
    (hrun : run (step setup) (start setup) labels = some final) :
    final.books.passed.Sublist (addedIds labels) := by
  rw [← added_of_run hrun]
  exact (List.sublist_append_left _ _).trans (inAddedOrder_of_run hrun)

theorem handedTo_sublist_addedIds {labels : List Label} {final : System}
    (hrun : run (step setup) (start setup) labels = some final) (index : ℕ) :
    (handedTo index (deliveries setup labels)).Sublist (addedIds labels) := by
  have hhanded : (handedTo index (deliveries setup labels)).Sublist final.books.passed := by
    rw [← (balanced_of_run hrun).handed]
    exact handedTo_sublist index _
  exact hhanded.trans (handed_sublist_addedIds hrun)

/-- Every packager transmits objects in the order in which they were added. -/
theorem transmitted_in_added_order {labels : List Label} {final : System}
    (hrun : run (step setup) (start setup) labels = some final) (index : ℕ) :
    ((transmittedBy index (deliveries setup labels)).map Prod.fst).Sublist (addedIds labels) := by
  have hsent := (inOrderAt_of_run hrun index).sublist
  exact hsent.trans (handedTo_sublist_addedIds hrun index)

theorem sendFirst_in_added_order :
    ∃ final, run (step streamingSetup) (start streamingSetup) sendFirst = some final ∧
      ((transmittedBy 0 (deliveries streamingSetup sendFirst)).map Prod.fst).Sublist
        (addedIds sendFirst) := by
  obtain ⟨final, hrun⟩ := Option.isSome_iff_exists.mp
    (show (run (step streamingSetup) (start streamingSetup) sendFirst).isSome = true by
      decide +kernel)
  exact ⟨final, hrun, transmitted_in_added_order hrun 0⟩

/-! ## The list controller -/

/-- How far the constructor of a list controller has come, which makes one packager. -/
inductive ListStage (system : System) : Prop
  | starting (hremaining : system.remaining = constructorSteps .objectList)
      (hcurrent : system.current = none) (hpackagers : system.packagers = [])
  | subscribed (hsubscribed : system.subscribed = true)
      (hremaining : system.remaining = [.initObjectIngester, .setObjectListPackager] ∨
        system.remaining = [.setObjectListPackager])
      (hcurrent : system.current = none) (hpackagers : system.packagers = [])
  | built (hsubscribed : system.subscribed = true) (hremaining : system.remaining = [])
      (hcurrent : system.current = some 0) {running : RunningPackager}
      (hpackagers : system.packagers = [running]) (hlife : running.life = .working)

/-- Where the thread of the store can be in a list controller, which has no manifests. -/
def AtList : StoreThread → Prop
  | .waiting => True
  | .popped _ => True
  | .passing => True
  | .handling _ => True
  | .holding _ _ => True
  | _ => False

/-- A list controller.  The objects that were lost are the first that were added, since all
of them were lost before there was a packager. -/
structure Listed (system : System) : Prop where
  stage : system.ListStage
  replacing : system.replacing = none
  storeThread : AtList system.storeThread
  holding : ∀ index, system.storeThread.held = some index → system.current = some index
  early : system.current = none → system.books.passed = []
  account : system.books.added =
    system.books.lost ++ system.books.passed ++ system.arriving

theorem listed_start (hkind : setup.kind = .objectList) : (start setup).Listed where
  stage := .starting (by rw [start, hkind]) rfl rfl
  replacing := rfl
  storeThread := trivial
  holding := fun _ hheld => by cases hheld
  early := fun _ => rfl
  account := rfl

/-- The constructor takes its next step. -/
theorem ListStage.construct (hstage : system.ListStage) (hreplacing : system.replacing = none)
    (hstep : system.construct setup = some next) :
    next.ListStage ∧ next.replacing = none ∧ next.storeThread = system.storeThread ∧
      ∀ index, system.current = some index → next.current = some index := by
  cases hstage with
  | starting hremaining hcurrent hpackagers =>
      simp only [System.construct, hreplacing, hremaining, constructorSteps] at hstep
      obtain rfl := Option.some.inj hstep
      exact ⟨.subscribed rfl (.inl rfl) hcurrent hpackagers, rfl, rfl, fun _ => id⟩
  | subscribed hsubscribed hremaining hcurrent hpackagers =>
      obtain hsame | hsame := hremaining
      · simp only [System.construct, hreplacing, hsame] at hstep
        obtain rfl := Option.some.inj hstep
        exact ⟨.subscribed hsubscribed (.inr rfl) hcurrent hpackagers, rfl, rfl, fun _ => id⟩
      · simp only [System.construct, hreplacing, hsame, hcurrent, setPackager, hpackagers] at hstep
        obtain rfl := Option.some.inj hstep
        exact ⟨.built hsubscribed rfl rfl rfl rfl, rfl, rfl, fun _ hother => by
          cases hcurrent.symm.trans hother⟩
  | built hsubscribed hremaining =>
      simp only [System.construct, hreplacing, hremaining] at hstep
      cases hstep

/-- The packager takes a step, which is not the one of its end. -/
theorem ListStage.set (hstage : system.ListStage) {index : ℕ} {running after : RunningPackager}
    (hrunning : system.packagers[index]? = some running)
    (hlife : running.life = .working → after.life = .working)
    (hremaining : next.remaining = system.remaining) (hcurrent : next.current = system.current)
    (hsubscribed : next.subscribed = system.subscribed)
    (hpackagers : next.packagers = system.packagers.set index after) : next.ListStage := by
  cases hstage with
  | starting _ _ hnone => simp [hnone] at hrunning
  | subscribed _ _ _ hnone => simp [hnone] at hrunning
  | built hsubscribes hnothing hplace hone hworking =>
      rw [hone, List.getElem?_singleton] at hrunning
      obtain ⟨rfl, hsame⟩ := Option.ite_none_right_eq_some.mp hrunning
      obtain rfl := Option.some.inj hsame
      exact .built (hsubscribed.trans hsubscribes) (hremaining.trans hnothing)
        (hcurrent.trans hplace) (by rw [hpackagers, hone]; rfl) (hlife hworking)

/-- A step that leaves the packager alone. -/
theorem ListStage.same (hstage : system.ListStage) (hremaining : next.remaining = system.remaining)
    (hcurrent : next.current = system.current) (hsubscribed : next.subscribed = system.subscribed)
    (hpackagers : next.packagers = system.packagers) : next.ListStage := by
  cases hstage with
  | starting hfirst hnone hempty =>
      exact .starting (hremaining.trans hfirst) (hcurrent.trans hnone) (hpackagers.trans hempty)
  | subscribed hsubscribes hrest hnone hempty =>
      exact .subscribed (hsubscribed.trans hsubscribes) (hremaining ▸ hrest)
        (hcurrent.trans hnone) (hpackagers.trans hempty)
  | built hsubscribes hnothing hplace hone hworking =>
      exact .built (hsubscribed.trans hsubscribes) (hremaining.trans hnothing)
        (hcurrent.trans hplace) (hpackagers.trans hone) hworking

/-- Nobody destroys the packager of a list controller. -/
theorem Listed.not_abandoned (hlisted : system.Listed) (index : ℕ) :
    system.abandoned index = false := by
  have hthread := hlisted.storeThread
  simp only [abandoned, hlisted.replacing, decide_eq_false_iff_not, not_or]
  refine ⟨fun hdestroying => ?_, by simp⟩
  cases hplace : system.storeThread with
  | destroying other objectId =>
      rw [hplace] at hthread
      exact hthread
  | _ =>
      rw [hplace] at hdestroying
      cases hdestroying

/-- An object is lost only before there is a packager. -/
theorem Listed.lost_or (hlisted : system.Listed) (hkind : setup.kind = .objectList)
    (hstep : System.step setup system label = some next) :
    next.books.lost = system.books.lost ∨ system.current = none := by
  cases step_taken hstep with
  | unheard _ hsubscribed =>
      cases hlisted.stage with
      | starting _ hcurrent => exact .inr hcurrent
      | subscribed hsubscribes => exact absurd hsubscribes hsubscribed
      | built hsubscribes => exact absurd hsubscribes hsubscribed
  | drop _ _ hcurrent => exact .inr hcurrent
  | checkFailed _ hother => cases hkind.symm.trans hother
  | updateFailed hthread =>
      have hlist := hlisted.storeThread
      rw [hthread] at hlist
      exact hlist.elim
  | _ => exact .inl rfl

/-- Where a list controller is behind a step. -/
theorem Listed.stage_step (hlisted : system.Listed) (hkind : setup.kind = .objectList)
    (hstep : System.step setup system label = some next) :
    next.ListStage ∧ next.replacing = none ∧ AtList next.storeThread ∧
      (∀ index, system.current = some index → next.current = some index) ∧
      ∀ index, next.storeThread.held = some index → next.current = some index := by
  have hnone := hlisted.not_abandoned
  obtain ⟨hstage, hreplacing, hthread, hholding, -, -⟩ := hlisted
  have hnever : ∀ {before : StoreThread}, system.storeThread = before → ¬ AtList before →
      False := by
    rintro before rfl hnot
    exact hnot hthread
  have hsame : next.remaining = system.remaining → next.current = system.current →
      next.subscribed = system.subscribed → next.packagers = system.packagers →
      next.replacing = system.replacing → AtList next.storeThread →
      (∀ index, next.storeThread.held = some index → system.current = some index) →
        next.ListStage ∧ next.replacing = none ∧ AtList next.storeThread ∧
          (∀ index, system.current = some index → next.current = some index) ∧
          ∀ index, next.storeThread.held = some index → next.current = some index :=
    fun hremaining hcurrent hsubscribed hpackagers hother hlist hheld =>
      ⟨hstage.same hremaining hcurrent hsubscribed hpackagers, hother.trans hreplacing, hlist,
        fun index => hcurrent.trans, fun index hindex => hcurrent.trans (hheld index hindex)⟩
  have hfree : ∀ index, (none : Option ℕ) = some index → system.current = some index :=
    fun index hindex => by cases hindex
  cases label with
  | construct =>
      obtain ⟨hafter, hnext, hthreads, hcurrent⟩ := hstage.construct hreplacing hstep
      refine ⟨hafter, hnext, hthreads ▸ hthread, hcurrent, fun index hheld => ?_⟩
      rw [hthreads] at hheld
      exact hcurrent index (hholding index hheld)
  | addObject => cases step_taken hstep with
    | addObject => exact hsame rfl rfl rfl rfl rfl hthread hholding
  | popEvent => cases step_taken hstep with
    | popped => exact hsame rfl rfl rfl rfl rfl trivial hfree
  | dispatch => cases step_taken hstep with
    | dispatched => exact hsame rfl rfl rfl rfl rfl trivial hfree
    | unheard => exact hsame rfl rfl rfl rfl rfl trivial hfree
    | deletion =>
        refine hsame rfl rfl rfl rfl rfl ?_ fun index hindex => ?_
        · change AtList (if system.subscribed then _ else _)
          split
          · trivial
          · trivial
        · change (if system.subscribed then _ else _ : StoreThread).held = _ at hindex
          split at hindex
          · cases hindex
          · cases hindex
  | handle => cases step_taken hstep with
    | passed => exact hsame rfl rfl rfl rfl rfl trivial hfree
    | drop => exact hsame rfl rfl rfl rfl rfl trivial hfree
    | handlePackager _ _ hcurrent =>
        refine hsame rfl rfl rfl rfl rfl trivial fun index hindex => ?_
        exact hcurrent.trans hindex
    | checkFailed _ hother => cases hkind.symm.trans hother
    | manifest _ hother => cases hkind.symm.trans hother
    | noManifest _ hother => cases hkind.symm.trans hother
  | updateManifest => cases step_taken hstep with
    | updateFailed hat => exact (hnever hat id).elim
    | updated _ hat => exact (hnever hat id).elim
    | rejected hat => exact (hnever hat id).elim
    | unset hat => exact (hnever hat id).elim
  | checkPackager => cases step_taken hstep with
    | checkPackager hat => exact (hnever hat id).elim
  | setObjectListPackager => cases step_taken hstep with
    | setObjectListPackager hat => exact (hnever hat id).elim
  | getObjectListPackager => cases step_taken hstep with
    | getObjectListPackager hat => exact (hnever hat id).elim
  | addItem => cases step_taken hstep with
    | @addItem objectId index hat running hrunning =>
        have hcurrent : system.current = some index := hholding index (by rw [hat]; rfl)
        have hlife : running.life = .working → (running.add objectId).life = .working := id
        have hwaiting : ({ system with storeThread := .waiting } : System).leaving (some index)
            none = .waiting :=
          leaving_of_current (show ({ system with storeThread := .waiting } : System).current =
            some index from hcurrent) none
        refine ⟨hstage.set hrunning hlife rfl rfl rfl rfl, hreplacing, ?_, fun _ => id, ?_⟩
        · rw [hwaiting]
          trivial
        · rw [hwaiting]
          exact hfree
  | resume => cases step_taken hstep with
    | resume hat => exact (hnever hat id).elim
  | packager index packagerLabel => cases step_taken hstep with
    | packager hrunning hturn =>
        rw [hnone index] at hturn
        have hlife := fun hworking => RunningPackager.turn_working hworking hturn
        exact ⟨hstage.set hrunning hlife rfl rfl rfl rfl, hreplacing, hthread, fun _ => id,
          hholding⟩

theorem Listed.step (hlisted : system.Listed) (hkind : setup.kind = .objectList)
    (hsound : system.PackagersSound) (hstep : System.step setup system label = some next) :
    next.Listed := by
  obtain ⟨hstage, hreplacing, hthread, hkept, hholding⟩ := hlisted.stage_step hkind hstep
  have hcurrent : next.current = none → system.current = none := by
    intro hnone
    cases hplace : system.current with
    | none => rfl
    | some index => cases (hkept index hplace).symm.trans hnone
  have hadded : next.books.added = system.books.added ++ (addedBy label).toList :=
    (step_entered hsound hstep).added
  refine ⟨hstage, hreplacing, hthread, hholding, ?_, ?_⟩
  · intro hnext
    have hearly := hlisted.early (hcurrent hnext)
    cases step_arrival hsound hstep with
    | added _ hhanded => exact hhanded.trans hearly
    | handed _ hheld =>
        obtain ⟨index, hheld⟩ := hheld
        cases (hlisted.holding index (by rw [hheld]; rfl)).symm.trans (hcurrent hnext)
    | lost _ _ hhanded => exact hhanded.trans hearly
    | invalid _ _ _ hhanded => exact hhanded.trans hearly
  · rw [hadded, hlisted.account]
    cases step_arrival hsound hstep with
    | added harriving hhanded hlost =>
        rw [harriving, hhanded, hlost, List.append_assoc _ system.arriving]
    | handed hnone _ hfirst hhanded hlost =>
        rw [hnone, hfirst, hhanded, hlost]
        simp
    | lost hnone hfirst hhanded hlost =>
        have hearly : system.books.passed = [] := by
          apply hlisted.early
          apply (hlisted.lost_or hkind hstep).resolve_left
          simp [hlost]
        rw [hnone, hfirst, hhanded, hlost, hearly]
        simp
    | invalid hnone hmanifest =>
        have hlist := hlisted.storeThread
        rw [hmanifest] at hlist
        exact hlist.elim

theorem listed_of_run (hkind : setup.kind = .objectList) {labels : List Label} {final : System}
    (hrun : run (System.step setup) (start setup) labels = some final) : final.Listed := by
  have hstep : ∀ system label next, (system.PackagersSound ∧ system.Listed) →
      System.step setup system label = some next → next.PackagersSound ∧ next.Listed :=
    fun _ _ _ hinv hstep =>
      ⟨packagersSound_step hinv.1 hstep, hinv.2.step hkind hinv.1 hstep⟩
  exact (run_invariant hstep ⟨packagersSound_start setup, listed_start hkind⟩ hrun).2

end System

end Mbstf.Controller
