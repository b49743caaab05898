import Mbstf.Controller.Startup
import Mbstf.Ingest.PushAnswers

/-!
# Listening to the packager

A streaming controller subscribes to the packager that its constructor takes from it.
The handlers of `ObjectAdded` drop their packager when the update of a manifest fails, and
the next one of them that finds none makes another.
-/

namespace Mbstf.Controller

open Mbstf.Ingest Mbstf.Objects Mbstf.Runs Mbstf.Session

namespace System

/-- The completions that the packager sends reach the controller. -/
def ListensTo (system : System) (index : ℕ) : Prop :=
  ∀ running, system.packagers[index]? = some running → running.subscribed = true

instance (system : System) (index : ℕ) : Decidable (system.ListensTo index) :=
  match hrunning : system.packagers[index]? with
  | none => isTrue fun running hsome => by rw [hrunning] at hsome; cases hsome
  | some running =>
      decidable_of_iff (running.subscribed = true) <| by
        simp only [ListensTo, hrunning, Option.some.injEq, forall_eq']

/-- Once the constructor has subscribed, the controller listens to its packager. -/
def Listens (system : System) : Prop :=
  .subscribeToPackager ∉ system.remaining → ∀ index, system.current = some index →
    system.ListensTo index

/-- What a step to the state `next` dispatches past the controller, once that has
subscribed: the completion that its packager sent, if that leads nowhere into
`ObjectController::processEvent`. -/
def unheard (system next : System) : Label → List String
  | .packager index .dispatchSendCompleted =>
      match system.packagers[index]?, next.packagers[index]? with
      | some running, some after =>
          if system.current = some index ∧ .subscribeToPackager ∉ system.remaining ∧
              ¬ after.eventThread.InHandler then
            running.eventThread.objectIds
          else []
      | _, _ => []
  | _ => []

/-- A handler sets a packager only before the constructor subscribes; and the packager that the
constructor subscribes to is the controller's, unless that has none. -/
def Keeps (system : System) : Label → Prop
  | .setObjectListPackager => .subscribeToPackager ∈ system.remaining
  | .construct =>
      system.replacing = none → system.remaining.head? = some .subscribeToPackager →
        system.current = none ∨ system.current = system.subscribing
  | _ => True

/-- A packager that somebody has a pointer to is not being destroyed, and the constructor
subscribes to the first one. -/
structure Placed (system : System) : Prop where
  remaining : system.remaining <:+ constructorSteps .objectStreaming
  referenced : ∀ index, system.referenced index = true →
    index < system.packagers.length ∧ ¬ system.abandoned index = true
  abandoned : ∀ index, system.abandoned index = true → index < system.packagers.length
  unsubscribed : .subscribeToPackager ∈ system.remaining →
    ∀ running ∈ system.packagers, running.subscribed = false

variable {setup : Setup} {system next : System} {label : Label}

/-! ## Pointers to packagers -/

/-- A step may copy a pointer and make a packager, and only what nobody has a pointer to any more
is destroyed. -/
structure Moves (system next : System) : Prop where
  length : system.packagers.length ≤ next.packagers.length
  referenced : ∀ index, next.referenced index = true →
    system.referenced index = true ∨
      (index = system.packagers.length ∧ index < next.packagers.length)
  abandoned : ∀ index, next.abandoned index = true →
    system.abandoned index = true ∨
      (system.referenced index = true ∧ ¬ next.referenced index = true)

theorem Moves.placed_referenced (hmoves : Moves system next) (hplaced : system.Placed) (index : ℕ)
    (hnext : next.referenced index = true) :
    index < next.packagers.length ∧ ¬ next.abandoned index = true := by
  obtain hold | ⟨hnew, hlength⟩ := hmoves.referenced index hnext
  · obtain ⟨hlength, hnot⟩ := hplaced.referenced index hold
    refine ⟨hlength.trans_le hmoves.length, fun habandoned => ?_⟩
    obtain hbefore | ⟨_, hnone⟩ := hmoves.abandoned index habandoned
    · exact hnot hbefore
    · exact hnone hnext
  · refine ⟨hlength, fun habandoned => ?_⟩
    obtain hbefore | ⟨hbefore, _⟩ := hmoves.abandoned index habandoned
    · exact absurd (hplaced.abandoned index hbefore) hnew.not_lt
    · exact absurd (hplaced.referenced index hbefore).1 hnew.not_lt

theorem Moves.placed_abandoned (hmoves : Moves system next) (hplaced : system.Placed) (index : ℕ)
    (hnext : next.abandoned index = true) : index < next.packagers.length := by
  obtain hbefore | ⟨hbefore, _⟩ := hmoves.abandoned index hnext
  · exact (hplaced.abandoned index hbefore).trans_le hmoves.length
  · exact (hplaced.referenced index hbefore).1.trans_le hmoves.length

/-- The thread of the store goes on, with no pointer or with one that it copied. -/
theorem Moves.onward (hcurrent : next.current = system.current)
    (hsubscribing : next.subscribing = system.subscribing)
    (hreplacing : next.replacing = system.replacing)
    (hlength : next.packagers.length = system.packagers.length)
    (hheld : ∀ index, next.storeThread.held = some index → system.referenced index = true)
    (hdestroyed : ∀ index, next.storeThread.destroyed = some index →
      system.storeThread.destroyed = some index) : Moves system next where
  length := hlength.ge
  referenced := by
    intro index hnext
    rw [referenced_iff, hcurrent, hsubscribing] at hnext
    left
    obtain hsame | hsame | hthread := hnext
    · exact referenced_iff.mpr (.inl hsame)
    · exact referenced_iff.mpr (.inr (.inl hsame))
    · exact hheld index hthread
  abandoned := by
    intro index hnext
    rw [abandoned_iff, hreplacing] at hnext
    exact .inl (abandoned_iff.mpr (hnext.imp_left (hdestroyed index)))

/-- It has no pointer then, and is in no destructor. -/
theorem Moves.bare (hcurrent : next.current = system.current)
    (hsubscribing : next.subscribing = system.subscribing)
    (hreplacing : next.replacing = system.replacing)
    (hlength : next.packagers.length = system.packagers.length)
    (hheld : next.storeThread.held = none) (hdestroyed : next.storeThread.destroyed = none) :
    Moves system next := by
  apply Moves.onward hcurrent hsubscribing hreplacing hlength
  · intro index hindex
    cases hheld.symm.trans hindex
  · intro index hindex
    cases hdestroyed.symm.trans hindex

/-- A step of another thread. -/
theorem Moves.same (hcurrent : next.current = system.current)
    (hsubscribing : next.subscribing = system.subscribing)
    (hreplacing : next.replacing = system.replacing)
    (hlength : next.packagers.length = system.packagers.length)
    (hthread : next.storeThread = system.storeThread) : Moves system next := by
  apply Moves.onward hcurrent hsubscribing hreplacing hlength
  · intro index hheld
    rw [hthread] at hheld
    exact referenced_iff.mpr (.inr (.inr hheld))
  · intro index hdestroyed
    rwa [hthread] at hdestroyed

/-- The pointer to the new packager takes the place of the one there was. -/
theorem Moves.setPackager (hcurrent : next.current = some system.packagers.length)
    (hsubscribing : next.subscribing = system.subscribing)
    (hlength : next.packagers.length = system.packagers.length + 1)
    (hheld : next.storeThread.held = system.storeThread.held)
    (habandoned : ∀ index, next.abandoned index = true → system.abandoned index = true ∨
      (system.current = some index ∧ next.referenced index = false)) : Moves system next where
  length := hlength ▸ Nat.le_succ _
  referenced := by
    intro index hnext
    rw [referenced_iff, hcurrent, hsubscribing, hheld] at hnext
    obtain hnew | hold := hnext
    · obtain rfl := Option.some.inj hnew
      exact .inr ⟨rfl, hlength ▸ Nat.lt_succ_self _⟩
    · exact .inl (referenced_iff.mpr (.inr hold))
  abandoned := by
    intro index hnext
    exact (habandoned index hnext).imp_right
      fun ⟨hdropped, hnone⟩ => ⟨referenced_iff.mpr (.inl hdropped), Bool.eq_false_iff.mp hnone⟩

/-- A pointer is dropped, and perhaps with it the packager. -/
theorem Moves.dropped (dropped : Option ℕ)
    (hlength : next.packagers.length = system.packagers.length)
    (hreferenced : ∀ index, next.referenced index = true → system.referenced index = true)
    (hdropped : ∀ index, dropped = some index → system.referenced index = true)
    (habandoned : ∀ index, next.abandoned index = true → system.abandoned index = true ∨
      (dropped = some index ∧ next.referenced index = false)) : Moves system next where
  length := hlength.ge
  referenced := fun index hnext => .inl (hreferenced index hnext)
  abandoned := by
    intro index hnext
    exact (habandoned index hnext).imp_right
      fun ⟨hpointer, hnone⟩ => ⟨hdropped index hpointer, Bool.eq_false_iff.mp hnone⟩

/-- The thread of the store has dropped a pointer, and destroys no packager that somebody else
has a pointer to. -/
theorem abandoned_leaving (system : System) {index : ℕ} (hnext : next.abandoned index = true)
    {before : System} {dropped : Option ℕ} {objectId : Option String}
    (hthread : next.storeThread = before.leaving dropped objectId)
    (hreplacing : next.replacing = system.replacing) (hcurrent : next.current = before.current)
    (hsubscribing : next.subscribing = before.subscribing)
    (hheld : before.storeThread.held = none) :
    system.abandoned index = true ∨ (dropped = some index ∧ next.referenced index = false) := by
  rw [abandoned_iff, hthread, destroyed_leaving, hreplacing] at hnext
  obtain hdestroyed | hconstructor := hnext
  · obtain ⟨hdropped, hnone⟩ := released_eq_some.mp hdestroyed
    have hsame : next.storeThread.held = before.storeThread.held := by
      rw [hthread, held_leaving, hheld]
    exact .inr ⟨hdropped, (referenced_congr hcurrent hsubscribing hsame index).trans hnone⟩
  · exact .inl (abandoned_iff.mpr (.inr hconstructor))

/-- So does the constructor. -/
theorem abandoned_released (system before : System) {index : ℕ}
    (hnext : next.abandoned index = true) {dropped : Option ℕ}
    (hthread : next.storeThread = system.storeThread)
    (hreplacing : next.replacing = before.released dropped)
    (hcurrent : next.current = before.current)
    (hsubscribing : next.subscribing = before.subscribing)
    (hheld : next.storeThread.held = before.storeThread.held) :
    system.abandoned index = true ∨ (dropped = some index ∧ next.referenced index = false) := by
  rw [abandoned_iff, hthread, hreplacing, released_eq_some] at hnext
  obtain hdestroyed | ⟨hdropped, hnone⟩ := hnext
  · exact .inl (abandoned_iff.mpr (.inl hdestroyed))
  · exact .inr ⟨hdropped, (referenced_congr hcurrent hsubscribing hheld index).trans hnone⟩

theorem step_moves (hstep : step setup system label = some next) : Moves system next := by
  cases step_taken hstep with
  | replaced =>
      refine ⟨le_rfl, fun _ => .inl, fun index hnext => .inl ?_⟩
      rw [abandoned_iff] at hnext
      exact abandoned_iff.mpr (hnext.imp_right fun hnone => by cases hnone)
  | subscribeToStore => exact .same rfl rfl rfl rfl rfl
  | initObjectIngester => exact .same rfl rfl rfl rfl rfl
  | startWorker => exact .same rfl rfl rfl rfl rfl
  | setOwnPackager =>
      exact .setPackager rfl rfl List.length_append rfl
        fun _ hnext => abandoned_released system (system.setPackager setup) hnext
          rfl rfl rfl rfl rfl
  | getOwnPackager _ hcurrent =>
      refine ⟨le_rfl, fun index hnext => .inl ?_, fun _ => .inl⟩
      obtain hsame | hplace | hheld := referenced_iff.mp hnext
      · exact referenced_iff.mpr (.inl hsame)
      · exact referenced_iff.mpr (.inl (hcurrent.trans hplace))
      · exact referenced_iff.mpr (.inr (.inr hheld))
  | @subscribeToPackager _ _ place hsubscribing =>
      refine .dropped (some place) List.length_set (fun index hnext => ?_)
        (fun index hdropped => ?_)
        fun _ hnext => abandoned_released system { system with subscribing := none } hnext
          rfl rfl rfl rfl rfl
      · exact referenced_iff.mpr ((referenced_iff.mp hnext).imp_right
          (Or.imp_left fun hnone => by cases hnone))
      · exact referenced_iff.mpr (.inr (.inl (hsubscribing.trans hdropped)))
  | addObject => exact .same rfl rfl rfl rfl rfl
  | deletion =>
      refine .bare rfl rfl rfl rfl ?_ ?_
      · exact (apply_ite StoreThread.held _ _ _).trans (ite_self none)
      · exact (apply_ite StoreThread.destroyed _ _ _).trans (ite_self none)
  | handlePackager _ _ hcurrent =>
      refine .onward rfl rfl rfl rfl (fun index hheld => ?_) fun index hdestroyed => ?_
      · exact referenced_iff.mpr (.inl (hcurrent.trans hheld))
      · cases hdestroyed
  | unset =>
      refine .dropped system.current rfl (fun index hnext => ?_) (fun index hdropped => ?_)
        fun _ hnext => abandoned_leaving system hnext rfl rfl rfl rfl rfl
      · rw [referenced_iff, unsetPackager, held_leaving] at hnext
        obtain hnone | hsubscribing | hnone := hnext
        · cases hnone
        · exact referenced_iff.mpr (.inr (.inl hsubscribing))
        · cases hnone
      · exact referenced_iff.mpr (.inl hdropped)
  | checkPackager =>
      refine .bare rfl rfl rfl rfl ?_ ?_
      · exact (apply_ite StoreThread.held _ _ _).trans (ite_self none)
      · exact (apply_ite StoreThread.destroyed _ _ _).trans (ite_self none)
  | setObjectListPackager hthread =>
      have hheld : system.storeThread.held = none := congrArg StoreThread.held hthread
      exact .setPackager rfl rfl List.length_append ((held_leaving _ _ _).trans hheld.symm)
        fun _ hnext => abandoned_leaving system hnext rfl rfl rfl rfl hheld
  | getObjectListPackager _ hcurrent =>
      refine .onward rfl rfl rfl rfl (fun index hheld => ?_) fun index hdestroyed => ?_
      · exact referenced_iff.mpr (.inl (hcurrent.trans hheld))
      · cases hdestroyed
  | @addItem _ place hthread =>
      refine .dropped (some place) List.length_set (fun index hnext => ?_)
        (fun index hdropped => ?_)
        fun _ hnext => abandoned_leaving system hnext rfl rfl rfl rfl rfl
      · rw [referenced_iff, held_leaving] at hnext
        exact referenced_iff.mpr (hnext.imp_right (Or.imp_right fun hnone => by cases hnone))
      · have hheld := (congrArg StoreThread.held hthread).trans hdropped
        exact referenced_iff.mpr (.inr (.inr hheld))
  | resume => exact .bare rfl rfl rfl rfl (held_onward _) (destroyed_onward _)
  | packager => exact .same rfl rfl rfl List.length_set rfl
  | _ =>
      -- the thread of the store goes on, and has no pointer
      exact .bare rfl rfl rfl rfl rfl rfl

/-- The constructor subscribes once. -/
theorem Placed.not_mem_rest (hplaced : system.Placed) {first : ConstructorStep}
    {rest : List ConstructorStep} (hremaining : system.remaining = first :: rest) :
    first ∉ rest := by
  have hnodup : (constructorSteps .objectStreaming).Nodup := by decide
  have hsuffix := hnodup.sublist hplaced.remaining.sublist
  rw [hremaining] at hsuffix
  exact (List.nodup_cons.mp hsuffix).1

theorem Placed.step (hplaced : system.Placed) (hstep : System.step setup system label = some next) :
    next.Placed where
  remaining := (step_remaining hstep).trans hplaced.remaining
  referenced := (step_moves hstep).placed_referenced hplaced
  abandoned := (step_moves hstep).placed_abandoned hplaced
  unsubscribed := by
    intro hmem running hrunning
    have hbefore := hplaced.unsubscribed ((step_remaining hstep).subset hmem)
    cases step_origin hstep hrunning with
    | same hold => exact hbefore running hold
    | new => rfl
    | subscribed _ hremaining => exact absurd hmem (hplaced.not_mem_rest hremaining)
    | @added old hold => exact hbefore old hold
    | turned _ hold hturn =>
        exact RunningPackager.turn_not_subscribed (hbefore _ (List.mem_of_getElem? hold)) hturn

/-! ## Subscriptions -/

/-- What is subscribed to stays so when the packager itself does. -/
theorem listensTo_set {running after : RunningPackager} {place index : ℕ}
    (hrunning : system.packagers[place]? = some running)
    (hpackagers : next.packagers = system.packagers.set place after)
    (hsubscribed : place = index → after.subscribed = running.subscribed) :
    next.ListensTo index ↔ system.ListensTo index := by
  rw [ListensTo, ListensTo, hpackagers]
  by_cases hplace : place = index
  · subst hplace
    have hlength : place < system.packagers.length := (List.getElem?_eq_some_iff.mp hrunning).1
    rw [List.getElem?_set_self hlength, hrunning]
    simp only [Option.some.injEq, forall_eq', hsubscribed rfl]
  · rw [List.getElem?_set_ne hplace]

/-- A step that leaves the controller its packager, and that its subscriber. -/
theorem Listens.kept (hlistens : system.Listens)
    (hremaining : .subscribeToPackager ∈ system.remaining → .subscribeToPackager ∈ next.remaining)
    (hcurrent : next.current = system.current)
    (hlistensTo : ∀ index, system.current = some index →
      (next.ListensTo index ↔ system.ListensTo index)) : next.Listens := by
  intro hnot index hindex
  rw [hcurrent] at hindex
  exact (hlistensTo index hindex).mpr (hlistens (fun hmem => hnot (hremaining hmem)) index hindex)

theorem Listens.same (hlistens : system.Listens) (hremaining : next.remaining = system.remaining)
    (hcurrent : next.current = system.current) (hpackagers : next.packagers = system.packagers) :
    next.Listens := by
  apply hlistens.kept (hremaining ▸ id) hcurrent
  intro index _
  rw [ListensTo, ListensTo, hpackagers]

/-- A step of the constructor that does not subscribe. -/
theorem Listens.constructed (hlistens : system.Listens) {first : ConstructorStep}
    (hremaining : system.remaining = first :: next.remaining)
    (hfirst : first ≠ .subscribeToPackager) (hcurrent : next.current = system.current)
    (hpackagers : next.packagers = system.packagers) : next.Listens := by
  refine hlistens.kept (fun hmem => ?_) hcurrent fun index _ => ?_
  · rw [hremaining, List.mem_cons] at hmem
    exact hmem.resolve_left hfirst.symm
  · rw [ListensTo, ListensTo, hpackagers]

theorem keeps_construct {first : ConstructorStep} {rest : List ConstructorStep}
    (hremaining : system.remaining = first :: rest) (hfirst : first ≠ .subscribeToPackager) :
    system.Keeps .construct := by
  intro _ hhead
  rw [hremaining] at hhead
  exact absurd (Option.some.inj hhead) hfirst

/-- The constructor subscribes after it has set its packager. -/
theorem Placed.subscribes_after (hplaced : system.Placed) {rest : List ConstructorStep}
    (hremaining : system.remaining = .setObjectListPackager :: rest) :
    .subscribeToPackager ∈ rest := by
  have hsuffix := hplaced.remaining
  rw [hremaining] at hsuffix
  simp only [constructorSteps, List.suffix_cons_iff, List.cons.injEq, reduceCtorEq, false_and,
    true_and, false_or, List.suffix_nil, or_false] at hsuffix
  rw [hsuffix]
  exact List.mem_cons_of_mem _ List.mem_cons_self

/-- With the subscription of the constructor there is one subscriber, to the packager that it
took. -/
theorem listens_subscribed_iff (hplaced : system.Placed) {rest : List ConstructorStep}
    (hremaining : system.remaining = .subscribeToPackager :: rest) {place : ℕ}
    (hsubscribing : system.subscribing = some place) {running : RunningPackager}
    (hrunning : system.packagers[place]? = some running)
    (hrest : next.remaining = rest) (hcurrent : next.current = system.current)
    (hpackagers : next.packagers = system.packagers.set place { running with subscribed := true }) :
    next.Listens ↔ system.current = none ∨ system.current = system.subscribing := by
  have hdone : .subscribeToPackager ∉ next.remaining := hrest ▸ hplaced.not_mem_rest hremaining
  constructor
  · intro hlistens
    by_contra hother
    obtain ⟨hsome, hdifferent⟩ := not_or.mp hother
    obtain ⟨index, hindex⟩ := Option.ne_none_iff_exists'.mp hsome
    have hplace : place ≠ index := by
      rintro rfl
      exact hdifferent (hindex.trans hsubscribing.symm)
    have hless := (hplaced.referenced index (referenced_iff.mpr (.inl hindex))).1
    have hold : system.packagers[index]? = some system.packagers[index] :=
      List.getElem?_eq_getElem hless
    have hnext : next.packagers[index]? = some system.packagers[index] := by
      rw [hpackagers, List.getElem?_set_ne hplace, hold]
    have hsubscribed := hlistens hdone index (hcurrent.trans hindex) _ hnext
    have hunsubscribed := hplaced.unsubscribed (hremaining ▸ List.mem_cons_self) _
      (List.mem_of_getElem? hold)
    exact Bool.false_ne_true (hunsubscribed.symm.trans hsubscribed)
  · intro hsame _ index hindex other hother
    rw [hcurrent] at hindex
    obtain hnone | hsame := hsame
    · cases hnone.symm.trans hindex
    · obtain rfl : place = index :=
        Option.some.inj (hsubscribing.symm.trans (hsame.symm.trans hindex))
      rw [hpackagers, List.getElem?_set_self (List.getElem?_eq_some_iff.mp hrunning).1] at hother
      obtain rfl := Option.some.inj hother
      rfl

/-- A new packager has no subscriber. -/
theorem listens_setPackager_iff (hremaining : next.remaining = system.remaining)
    (hcurrent : next.current = some system.packagers.length)
    (hpackagers : next.packagers = system.packagers ++ [.new setup.destIpAddr]) :
    next.Listens ↔ .subscribeToPackager ∈ system.remaining := by
  constructor
  · intro hlistens
    by_contra hnot
    have hnew : next.packagers[system.packagers.length]? = some (.new setup.destIpAddr) := by
      rw [hpackagers, List.getElem?_concat_length]
    have hsubscribed : (RunningPackager.new setup.destIpAddr).subscribed = true :=
      hlistens (hremaining ▸ hnot) _ hcurrent _ hnew
    cases hsubscribed
  · intro hmem hnot
    exact absurd (hremaining ▸ hmem) hnot

theorem step_listens_iff (hplaced : system.Placed) (hlistens : system.Listens)
    (hstep : step setup system label = some next) : next.Listens ↔ system.Keeps label := by
  cases step_taken hstep with
  | replaced hreplacing =>
      refine iff_of_true (hlistens.same rfl rfl rfl) fun hnone => ?_
      cases hreplacing.symm.trans hnone
  | subscribeToStore hremaining =>
      have hfirst : ConstructorStep.subscribeToStore ≠ .subscribeToPackager := by decide
      exact iff_of_true (hlistens.constructed hremaining hfirst rfl rfl)
        (keeps_construct hremaining hfirst)
  | initObjectIngester hremaining =>
      have hfirst : ConstructorStep.initObjectIngester ≠ .subscribeToPackager := by decide
      exact iff_of_true (hlistens.constructed hremaining hfirst rfl rfl)
        (keeps_construct hremaining hfirst)
  | getOwnPackager hremaining =>
      have hfirst : ConstructorStep.getObjectListPackager ≠ .subscribeToPackager := by decide
      exact iff_of_true (hlistens.constructed hremaining hfirst rfl rfl)
        (keeps_construct hremaining hfirst)
  | startWorker hremaining =>
      have hfirst : ConstructorStep.startWorker ≠ .subscribeToPackager := by decide
      exact iff_of_true (hlistens.constructed hremaining hfirst rfl rfl)
        (keeps_construct hremaining hfirst)
  | setOwnPackager _ hremaining =>
      have hafter := hplaced.subscribes_after hremaining
      exact iff_of_true (fun hnot => absurd hafter hnot) (keeps_construct hremaining (by decide))
  | subscribeToPackager hremaining hsubscribing hrunning hreplacing =>
      apply Iff.trans (b := system.current = none ∨ system.current = system.subscribing)
      · exact listens_subscribed_iff hplaced hremaining hsubscribing hrunning rfl rfl rfl
      · refine ⟨fun hsame _ _ => hsame, fun hkeeps => hkeeps hreplacing ?_⟩
        rw [hremaining]
        rfl
  | unset =>
      refine iff_of_true (fun _ index hindex => ?_) trivial
      cases hindex
  | setObjectListPackager => exact listens_setPackager_iff rfl rfl rfl
  | addItem _ hrunning =>
      refine iff_of_true (hlistens.kept id rfl fun index _ => ?_) trivial
      exact listensTo_set hrunning rfl fun _ => rfl
  | @packager place running hrunning packagerLabel turn hturn =>
      refine iff_of_true (hlistens.kept id rfl fun index hindex => ?_) trivial
      apply listensTo_set hrunning rfl
      rintro rfl
      have hnot := (hplaced.referenced place (referenced_iff.mpr (.inl hindex))).2
      rw [Bool.eq_false_iff.mpr hnot] at hturn
      exact RunningPackager.turn_subscribed hturn
  | _ => exact iff_of_true (hlistens.same rfl rfl rfl) trivial

/-- Who listens hears of every completion. -/
theorem unheard_eq_nil (hlistens : system.Listens) (hstep : step setup system label = some next) :
    system.unheard next label = [] := by
  cases label with
  | packager index packagerLabel =>
      cases packagerLabel with
      | dispatchSendCompleted =>
          simp only [unheard]
          split
          case h_1 running after hrunning hafter =>
              apply if_neg
              rintro ⟨hcurrent, hnot, houtside⟩
              cases step_taken hstep with
              | packager hold hturn =>
                  rw [List.getElem?_set_self (List.getElem?_eq_some_iff.mp hold).1] at hafter
                  obtain rfl := Option.some.inj hafter
                  obtain rfl := Option.some.inj (hold.symm.trans hrunning)
                  have hsubscribed := hlistens hnot index hcurrent _ hrunning
                  exact houtside (RunningPackager.turn_inHandler hsubscribed hturn)
          case h_2 => rfl
      | _ => rfl
  | _ => rfl

end System

/-! ## Runs -/

/-- The controller with what it decided about each push, and the completions that its packagers
dispatched past it. -/
structure Streaming where
  system : System
  decisions : List PushDecision
  unheard : List String

/-- A step of one of the threads, or a call of `processEvent` with an
`ObjectPushStart` for a URL. -/
inductive StreamingLabel where
  | thread (label : Label)
  | objectPushStart (url : String)

namespace Streaming

variable (manifestUrl : String) (destIpAddr objectAcquisitionPushId : Option String)

/-- A streaming controller before its constructor. -/
def start : Streaming := ⟨.start ⟨.objectStreaming, manifestUrl, destIpAddr⟩, [], []⟩

/-- One step; a push ingester comes with the ingesters. -/
def step (streaming : Streaming) : StreamingLabel → Option Streaming
  | .thread label =>
      (streaming.system.step ⟨.objectStreaming, manifestUrl, destIpAddr⟩ label).map fun next =>
        { streaming with
          system := next
          unheard := streaming.unheard ++ streaming.system.unheard next label }
  | .objectPushStart url =>
      if streaming.system.ingesting then
        some { streaming with
          decisions := streaming.decisions ++ [pushStartDecision objectAcquisitionPushId url] }
      else none

/-- The controller listens to its packager, and no completion went past it. -/
structure AlwaysListens (streaming : Streaming) : Prop where
  listens : streaming.system.Listens
  unheard : streaming.unheard = []

/-- The step leaves the controller no packager that nobody subscribes to. -/
def Keeps (streaming : Streaming) : StreamingLabel → Prop
  | .thread label => streaming.system.Keeps label
  | .objectPushStart _ => True

/-- In a run of a streaming controller it listens to its packager, and every completion that one
dispatches gets to `ObjectController::processEvent`, from its subscription on, if and only if no
handler sets a packager after the constructor has subscribed, and the packager that the
constructor subscribes to is the controller's or that has none. -/
theorem throughout_listens_iff (labels : List StreamingLabel) :
    Throughout (step manifestUrl destIpAddr objectAcquisitionPushId) AlwaysListens
        (start manifestUrl destIpAddr) labels ↔
      Guarded (step manifestUrl destIpAddr objectAcquisitionPushId) Keeps
        (start manifestUrl destIpAddr) labels := by
  have hstep : ∀ (streaming : Streaming) (label : StreamingLabel) (next : Streaming),
      streaming.system.Placed → streaming.AlwaysListens →
      step manifestUrl destIpAddr objectAcquisitionPushId streaming label = some next →
        next.system.Placed ∧ (next.AlwaysListens ↔ streaming.Keeps label) := by
    intro streaming label next hplaced ⟨hlistens, hheard⟩ hnext
    cases label with
    | thread label =>
        obtain ⟨system, hsystem, rfl⟩ := Option.map_eq_some_iff.mp hnext
        have hiff := System.step_listens_iff hplaced hlistens hsystem
        refine ⟨hplaced.step hsystem, fun hnext => hiff.mp hnext.listens, fun hkeeps => ?_⟩
        refine ⟨hiff.mpr hkeeps, ?_⟩
        rw [hheard, System.unheard_eq_nil hlistens hsystem]
        rfl
    | objectPushStart url =>
        obtain ⟨_, hafter⟩ := Option.ite_none_right_eq_some.mp hnext
        obtain rfl := Option.some.inj hafter
        exact ⟨hplaced, iff_of_true ⟨hlistens, hheard⟩ trivial⟩
  have hplaced : (start manifestUrl destIpAddr).system.Placed := by
    refine ⟨List.suffix_rfl, ?_, ?_, ?_⟩
    · intro index hindex
      cases hindex
    · intro index hindex
      cases hindex
    · intro _ running hrunning
      cases hrunning
  have hlistens : (start manifestUrl destIpAddr).AlwaysListens := by
    refine ⟨fun _ index hindex => ?_, rfl⟩
    cases hindex
  have hkept : ∀ (streaming : Streaming) (label : StreamingLabel) (next : Streaming),
      streaming.system.Placed → streaming.AlwaysListens →
      step manifestUrl destIpAddr objectAcquisitionPushId streaming label = some next →
        next.system.Placed :=
    fun streaming label next haux hinv hnext => (hstep streaming label next haux hinv hnext).1
  exact throughout_iff_guarded hkept
    (fun streaming label next haux hinv hnext => (hstep streaming label next haux hinv hnext).2)
    hplaced hlistens

/-- A manifest, an update of it that is refused, and then a segment. -/
def refusedManifest : List StreamingLabel :=
  [.construct, .construct, .construct, .construct, .construct, .construct,
    .addObject "1" [60] (.new 100 "1" "application/dash+xml" "http://example.com/a.mpd"
      "http://example.com/a.mpd" "acq1" 90 none none none),
    .popEvent, .dispatch, .handle, .updateManifest .accepted, .checkPackager,
    .getObjectListPackager, .addItem,
    .addObject "2" [61] (.new 100 "2" "application/dash+xml" "http://example.com/a.mpd"
      "http://example.com/a.mpd" "acq1" 90 none none none),
    .popEvent, .dispatch, .handle, .updateManifest .refused, .packager 0 .joinWorker,
    .packager 0 .joinEvents, .resume,
    .addObject "3" [7] (.new 100 "3" "video/mp4" "http://example.com/s1.mp4"
      "http://example.com/s1.mp4" "acq1" 90 none none none),
    .popEvent, .dispatch, .handle, .checkPackager, .setObjectListPackager,
    .getObjectListPackager, .addItem, .packager 1 (.beginRound false),
    .packager 1 (.send 0 (.accepted 1)), .packager 1 .popFront, .packager 1 (.runOne [1]),
    .packager 1 .popSendCompleted, .packager 1 .dispatchSendCompleted].map .thread

/-- The packager that the segment is sent with is one that nobody subscribed to, and the
segment stays in the store after it was sent. -/
theorem refusedManifest_not_listens :
    ∃ final, run (step "http://example.com/a.mpd" (some "239.0.0.1") none)
        (start "http://example.com/a.mpd" (some "239.0.0.1")) refusedManifest = some final ∧
      final.system.remaining = [] ∧ final.system.current = some 1 ∧
      ¬ final.system.Listens ∧ final.unheard = ["3"] ∧
      final.system.objects.store.keys = ["1", "2", "3"] ∧
      final.system.packagers.map (·.packager.completed) = [[], []] ∧
      final.system.packagers.map (·.eventThread) = [.waiting, .waiting] := by
  have hends : (run (step "http://example.com/a.mpd" (some "239.0.0.1") none)
      (start "http://example.com/a.mpd" (some "239.0.0.1")) refusedManifest).any (fun final =>
        final.system.remaining = [] ∧ final.system.current = some 1 ∧
          ¬ final.system.ListensTo 1 ∧ final.unheard = ["3"] ∧
          final.system.objects.store.keys = ["1", "2", "3"] ∧
          final.system.packagers.map (·.packager.completed) = [[], []] ∧
          final.system.packagers.map (·.eventThread) = [.waiting, .waiting]) = true := by
    decide +kernel
  obtain ⟨final, hrun, hfinal⟩ := (Option.any_eq_true _ _).mp hends
  obtain ⟨hremaining, hcurrent, hunheard, hrest⟩ := of_decide_eq_true hfinal
  refine ⟨final, hrun, hremaining, hcurrent, fun hlistens => hunheard ?_, hrest⟩
  exact hlistens (by rw [hremaining]; exact List.not_mem_nil) 1 hcurrent

end Streaming

end Mbstf.Controller
