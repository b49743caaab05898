import Mbstf.Subscription.Links

/-!
# What copying and moving a subscriber carries over

The four operations of `Subscriber.cc` that build one subscriber from another
rebuild the tables of the services from `m_subscriptions` of the other one.
What they write is described service by service, as a function of the views the
service has.  From this follows when the target comes to hear exactly what the
other subscriber heard: the services that list the other one have to be in its
`m_subscriptions`, which neither a copy nor a move fills for the target.
-/

namespace Mbstf.Subscription

open Std
open Mbstf.SetIndex

namespace View

variable {Name : Type*} [DecidableEq Name]

/-- What is heard in one of two views. -/
def union : View Name → View Name → View Name
  | .names left, .names right => .names (left ∪ right)
  | .names _, .all => .all
  | .all, _ => .all

/-- All that is heard in the first view is heard in the second. -/
def Within : View Name → View Name → Prop
  | .names left, .names right => left ⊆ right
  | .all, .names _ => False
  | _, .all => True

theorem union_self (view : View Name) : view.union view = view := by
  cases view with
  | all => rfl
  | names held => simp [union]

theorem union_nothing (view : View Name) : view.union nothing = view := by
  cases view with
  | all => rfl
  | names held => simp [union, nothing]

theorem union_eq_right {left right : View Name} : left.union right = right ↔ left.Within right := by
  cases left with
  | all => cases right <;> simp [union, Within]
  | names held => cases right <;> simp [union, Within]

theorem within_nothing {view : View Name} : view.Within nothing ↔ view = nothing := by
  rw [← union_eq_right, union_nothing]

theorem within_refl (view : View Name) : view.Within view :=
  union_eq_right.mp view.union_self

end View

namespace Population

variable {population after : Population} {service : ServicePtr}
  {subscriber target other : SubscriberPtr} {request : SubscriptionService.Call}

/-! ## Every operation keeps the tables consistent -/

theorem subscribeVia_consistent (hcons : population.Consistent)
    (hstep : population.subscribeVia subscriber service request = some after) :
    after.Consistent := by
  obtain ⟨held, -, hbody⟩ := Option.bind_eq_some_iff.mp hstep
  obtain ⟨⟨called, ret⟩, hcall, hrest⟩ := Option.bind_eq_some_iff.mp hbody
  have hcalled := (call_tablesOnly hcons hcall).consistent
  cases ret with
  | false =>
      obtain rfl : called = after := by simpa using hrest
      exact hcalled
  | true =>
      obtain rfl : called.setSubscriptions subscriber (some (held.insert service)) = after := by
        simpa using hrest
      exact hcalled

theorem newSubscriber_consistent (hcons : population.Consistent)
    (hstep : population.newSubscriber target = some after) : after.Consistent := by
  intro service tables htables
  exact hcons service tables ((newSubscriber_spec hstep).1 ▸ htables)

theorem newService_consistent (hcons : population.Consistent)
    (hstep : population.newService service = some after) : after.Consistent := by
  rw [newService] at hstep
  cases hfree : population.services service with
  | some tables => simp [hfree] at hstep
  | none =>
      simp only [hfree, Option.some.injEq] at hstep
      subst hstep
      intro other tables htables
      by_cases hother : other = service
      · subst hother
        obtain rfl : SubscriptionService.new = tables := by simpa using htables
        exact SubscriptionService.consistent_new
      · exact hcons other tables (by simpa [hother] using htables)

theorem destroyService_consistent (hcons : population.Consistent)
    (hstep : population.destroyService service = some after) : after.Consistent := by
  obtain ⟨tables, -, hbody⟩ := Option.bind_eq_some_iff.mp hstep
  obtain ⟨removed, hloop, heq⟩ := Option.bind_eq_some_iff.mp hbody
  cases heq
  intro other found hfound
  by_cases hother : other = service
  · subst hother
    simp at hfound
  · exact hcons other found (by simpa [hother, (removedLoop_spec hloop).1] using hfound)

/-- The tables stay consistent whatever is done, also to populations whose two
records no longer agree. -/
theorem step_consistent {operation : Operation} (hcons : population.Consistent)
    (hstep : population.step operation = some after) : after.Consistent := by
  cases operation with
  | newService service => exact newService_consistent hcons hstep
  | newSubscriber subscriber => exact newSubscriber_consistent hcons hstep
  | subscribeTo subscriber service => exact subscribeVia_consistent hcons hstep
  | subscribeToEvents subscriber eventsList service =>
      exact subscribeVia_consistent hcons hstep
  | callService service request =>
      obtain ⟨held, -, hbody⟩ := Option.bind_eq_some_iff.mp hstep
      obtain ⟨⟨called, ret⟩, hcall, heq⟩ := Option.bind_eq_some_iff.mp hbody
      cases heq
      exact (call_tablesOnly hcons hcall).consistent
  | copyConstruct target other =>
      obtain ⟨created, hcreated, hbody⟩ := Option.bind_eq_some_iff.mp hstep
      obtain ⟨held, -, hloop⟩ := Option.bind_eq_some_iff.mp hbody
      exact (copyLoop_spec (newSubscriber_consistent hcons hcreated) hloop).1.consistent
  | moveConstruct target other =>
      obtain ⟨created, hcreated, hbody⟩ := Option.bind_eq_some_iff.mp hstep
      obtain ⟨held, -, hloop⟩ := Option.bind_eq_some_iff.mp hbody
      exact (moveLoop_spec (newSubscriber_consistent hcons hcreated) hloop).1.consistent
  | copyAssign target other =>
      obtain ⟨current, -, hbody⟩ := Option.bind_eq_some_iff.mp hstep
      obtain ⟨held, -, hrest⟩ := Option.bind_eq_some_iff.mp hbody
      obtain ⟨dropped, hdrop, hloop⟩ := Option.bind_eq_some_iff.mp hrest
      exact (copyLoop_spec (dropLoop_spec hcons hdrop).1.consistent hloop).1.consistent
  | moveAssign target other =>
      obtain ⟨current, -, hbody⟩ := Option.bind_eq_some_iff.mp hstep
      obtain ⟨held, -, hrest⟩ := Option.bind_eq_some_iff.mp hbody
      obtain ⟨dropped, hdrop, hloop⟩ := Option.bind_eq_some_iff.mp hrest
      exact (moveLoop_spec (dropLoop_spec hcons hdrop).1.consistent hloop).1.consistent
  | destroySubscriber subscriber =>
      obtain ⟨held, -, hbody⟩ := Option.bind_eq_some_iff.mp hstep
      obtain ⟨dropped, hdrop, heq⟩ := Option.bind_eq_some_iff.mp hbody
      cases heq
      exact (dropLoop_spec hcons hdrop).1.consistent
  | destroyService service => exact destroyService_consistent hcons hstep

/-! ## The loops, service by service -/

/-- The body of a loop over services: at a live service, and only there, it is defined,
and it replaces the views of that service by a function of them. -/
structure ActsBy (body : Population → ServicePtr → Option Population)
    (effect : (SubscriberPtr → View String) → SubscriberPtr → View String) : Prop where
  defined : ∀ population service, population.Consistent →
    ((∃ after, body population service = some after) ↔ (population.services service).isSome)
  tablesOnly : ∀ population service after, population.Consistent →
    body population service = some after → TablesOnly population after
  views : ∀ population service after, population.Consistent →
    body population service = some after → ∀ place, after.view place =
      if place = service then effect (population.view place) else population.view place

variable {body : Population → ServicePtr → Option Population}
  {effect : (SubscriberPtr → View String) → SubscriberPtr → View String}

theorem ActsBy.loop_tablesOnly (hacts : ActsBy body effect) {held : List ServicePtr}
    (hcons : population.Consistent) (hloop : held.foldlM body population = some after) :
    TablesOnly population after := by
  have hstep : ∀ before service next, TablesOnly population before →
      body before service = some next → TablesOnly population next := by
    intro before service next hbefore hnext
    exact hbefore.trans (hacts.tablesOnly before service next hbefore.consistent hnext)
  exact Runs.run_invariant hstep (TablesOnly.refl hcons) hloop

/-- The loop is defined when all its services are alive. -/
theorem ActsBy.loop_defined (hacts : ActsBy body effect) {held : List ServicePtr}
    (hcons : population.Consistent) :
    (∃ after, held.foldlM body population = some after) ↔
      ∀ service ∈ held, (population.services service).isSome := by
  constructor
  · rintro ⟨after, hloop⟩
    induction held generalizing population with
    | nil => simp
    | cons first held ih =>
        obtain ⟨next, hnext, hrest⟩ := Runs.run_cons_eq_some.mp hloop
        have hfirst := hacts.tablesOnly population first next hcons hnext
        intro service hservice
        rcases List.mem_cons.mp hservice with rfl | hlater
        · exact (hacts.defined population service hcons).mp ⟨next, hnext⟩
        · rw [← hfirst.alive]
          exact ih hfirst.consistent hrest service hlater
  · intro halive
    have hbody : GoesThrough body := by
      intro before service hbefore hservice
      obtain ⟨next, hnext⟩ := (hacts.defined before service hbefore).mpr hservice
      exact ⟨next, hnext, hacts.tablesOnly before service next hbefore hnext⟩
    obtain ⟨after, hloop, -⟩ := hbody.loop hcons halive
    exact ⟨after, hloop⟩

/-- The loop acts once at each of its services. -/
theorem ActsBy.loop_views (hacts : ActsBy body effect) {held : List ServicePtr}
    (hnodup : held.Nodup) (hcons : population.Consistent)
    (hloop : held.foldlM body population = some after) (service : ServicePtr) :
    after.view service =
      if service ∈ held then effect (population.view service) else population.view service := by
  induction held generalizing population with
  | nil =>
      obtain rfl : population = after := by simpa using hloop
      rw [if_neg List.not_mem_nil]
  | cons first held ih =>
      obtain ⟨hfirst, hrestNodup⟩ := List.nodup_cons.mp hnodup
      obtain ⟨next, hnext, hrest⟩ := Runs.run_cons_eq_some.mp hloop
      have htables := hacts.tablesOnly population first next hcons hnext
      rw [ih hrestNodup htables.consistent hrest,
        hacts.views population first next hcons hnext service]
      by_cases hservice : service = first
      · subst hservice
        simp [hfirst]
      · simp [hservice]

/-- One call changes the views of its own service, as the abstract component does. -/
theorem call_views (hcons : population.Consistent) {ret : Bool}
    (hcall : population.call service request = some (after, ret)) (place : ServicePtr) :
    after.view place =
      if place = service then (SubscriptionService.viewStep (population.view place) request).1
      else population.view place := by
  funext subscriber
  rw [view_call hcons hcall]
  by_cases hplace : place = service
  · by_cases hsubscriber : subscriber = request.subscriber
    · simp [hplace, hsubscriber, SubscriptionService.viewStep]
    · simp [hplace, hsubscriber, SubscriptionService.viewStep]
  · simp [hplace]

/-- The views after `svc->unsubscribe(*this)`. -/
def dropped (subscriber : SubscriberPtr) (views : SubscriberPtr → View String) :
    SubscriberPtr → View String :=
  Function.update views subscriber View.nothing

/-- The views after the target has subscribed to what the other one hears. -/
def copied (target other : SubscriberPtr) (views : SubscriberPtr → View String) :
    SubscriberPtr → View String :=
  Function.update views target ((views target).union (views other))

theorem dropSubscription_actsBy (subscriber : SubscriberPtr) :
    ActsBy (dropSubscription subscriber) (dropped subscriber) where
  defined := fun population service hcons => by
    constructor
    · rintro ⟨after, hdrop⟩
      obtain ⟨⟨called, ret⟩, hcall, -⟩ := Option.bind_eq_some_iff.mp hdrop
      obtain ⟨tables, htables, -⟩ := Option.map_eq_some_iff.mp hcall
      rw [htables, Option.isSome_some]
    · exact dropSubscription_isSome
  tablesOnly := fun population service after hcons hdrop => (dropSubscription_spec hcons hdrop).1
  views := fun population service after hcons hdrop place => by
    obtain ⟨⟨called, ret⟩, hcall, heq⟩ := Option.bind_eq_some_iff.mp hdrop
    cases heq
    rw [call_views hcons hcall]
    simp [SubscriptionService.viewStep, SubscriptionService.Call.subscriber,
      SubscriptionService.Call.act, dropped, View.nothing]

/-- The subscription made for the copy adds what the other one hears. -/
theorem copyRequest_act (target other : SubscriberPtr) (tables : SubscriptionService)
    (view : View String) :
    ((copyRequest target (tables.subscribedEvents other)).act view).1 =
      view.union (tables.view other) := by
  have hreport := tables.subscribedEvents_reports other
  cases hview : tables.view other with
  | all =>
      rw [hview] at hreport
      have hall : tables.subscribedEvents other = [none] := hreport
      rw [copyRequest, if_pos hall]
      cases view <;> rfl
  | names held =>
      rw [hview] at hreport
      have hnames : tables.subscribedEvents other ≠ [none] := by
        intro hall
        obtain ⟨name, -, hname⟩ := (hreport.2 none).mp (hall ▸ List.mem_singleton_self none)
        cases hname
      have hheld : (tables.subscribedEvents other).reduceOption.toFinset = held := by
        ext name
        rw [List.mem_toFinset, List.reduceOption_mem_iff, hreport.2]
        simp
      rw [copyRequest, if_neg hnames]
      cases view with
      | all => rfl
      | names had =>
          simp [SubscriptionService.Call.act, View.subscribeNames, View.union, hheld]

theorem copySubscription_actsBy (target other : SubscriberPtr) :
    ActsBy (copySubscription target other) (copied target other) where
  defined := fun population service hcons => by
    constructor
    · rintro ⟨after, hcopy⟩
      obtain ⟨tables, htables, -⟩ := Option.bind_eq_some_iff.mp hcopy
      rw [htables, Option.isSome_some]
    · exact copySubscription_isSome
  tablesOnly := fun population service after hcons hcopy => (copySubscription_spec hcons hcopy).1
  views := fun population service after hcons hcopy place => by
    obtain ⟨tables, htables, hbody⟩ := Option.bind_eq_some_iff.mp hcopy
    by_cases hevents : tables.subscribedEvents other = []
    · -- Nothing is heard, and nothing is added.
      simp only [hevents, if_true, Option.some.injEq] at hbody
      subst hbody
      have hnothing : population.view service other = View.nothing := by
        rw [view_of_services htables]
        exact SubscriptionService.subscribedEvents_eq_nil_iff.mp hevents
      by_cases hplace : place = service
      · subst hplace
        rw [if_pos rfl, copied, hnothing, View.union_nothing, Function.update_eq_self]
      · rw [if_neg hplace]
    · simp only [hevents, if_false] at hbody
      obtain ⟨⟨called, ret⟩, hcall, heq⟩ := Option.bind_eq_some_iff.mp hbody
      cases heq
      rw [call_views hcons hcall]
      by_cases hplace : place = service
      · subst hplace
        simp only [if_true, SubscriptionService.viewStep, (copyRequest_spec target hevents).1,
          copyRequest_act, copied, view_of_services htables]
      · rw [if_neg hplace, if_neg hplace]

theorem moveSubscription_actsBy (target other : SubscriberPtr) :
    ActsBy (moveSubscription target other)
      (fun views => dropped other (copied target other views)) where
  defined := fun population service hcons => by
    constructor
    · rintro ⟨after, hmove⟩
      obtain ⟨tables, htables, -⟩ := Option.bind_eq_some_iff.mp hmove
      rw [htables, Option.isSome_some]
    · exact moveSubscription_isSome hcons
  tablesOnly := fun population service after hcons hmove => (moveSubscription_spec hcons hmove).1
  views := fun population service after hcons hmove place => by
    obtain ⟨tables, htables, hbody⟩ := Option.bind_eq_some_iff.mp hmove
    by_cases hevents : tables.subscribedEvents other = []
    · simp only [hevents, if_true, Option.some.injEq] at hbody
      subst hbody
      have hnothing : population.view service other = View.nothing := by
        rw [view_of_services htables]
        exact SubscriptionService.subscribedEvents_eq_nil_iff.mp hevents
      by_cases hplace : place = service
      · subst hplace
        rw [if_pos rfl, copied, hnothing, View.union_nothing, Function.update_eq_self, dropped,
          ← hnothing, Function.update_eq_self]
      · rw [if_neg hplace]
    · -- What was copied is dropped again for the other one.
      simp only [hevents, if_false] at hbody
      obtain ⟨⟨called, ret⟩, hcall, hdrop⟩ := Option.bind_eq_some_iff.mp hbody
      have hcopy : copySubscription target other population service = some called := by
        simp [copySubscription, htables, hevents, hcall]
      have hcalled := (copySubscription_spec hcons hcopy).1.consistent
      rw [(dropSubscription_actsBy other).views called service after hcalled hdrop place,
        (copySubscription_actsBy target other).views population service called hcons hcopy place]
      by_cases hplace : place = service
      · simp only [if_pos hplace]
      · simp only [if_neg hplace]

/-! ## The four operations, service by service -/

/-- The views a service has when the copying loop starts: an assignment has dropped the
target from the services it held, and a target that is only now constructed held none. -/
def cleared (population : Population) (target : SubscriberPtr) (service : ServicePtr) :
    SubscriberPtr → View String :=
  if population.Holds target service then dropped target (population.view service)
  else population.view service

/-- The services that the operation visits are alive. -/
def HeldAlive (population : Population) (target other : SubscriberPtr) : Prop :=
  ∀ service, population.Holds target service ∨ population.Holds other service →
    (population.services service).isSome

/-- What the four operations have in common: they are defined when the services they visit
are alive, and act on the views of the services that the other subscriber holds. -/
structure Rebuilds (population : Population) (target other : SubscriberPtr)
    (effect : (SubscriberPtr → View String) → SubscriberPtr → View String)
    (result : Option Population) : Prop where
  defined : (∃ after, result = some after) ↔ population.HeldAlive target other
  alive : ∀ after, result = some after →
    ∀ service, (after.services service).isSome = (population.services service).isSome
  views : ∀ after, result = some after → ∀ service, after.view service =
    if population.Holds other service then effect (population.cleared target service)
    else population.cleared target service

/-- A construction runs its loop on the population with the new subscriber. -/
theorem construct_rebuilds (hacts : ActsBy body effect) (hcons : population.Consistent)
    (hfree : population.subscriptions target = none)
    (hother : (population.subscriptions other).isSome) {result : Option Population}
    (hresult : result = do
      let created ← population.newSubscriber target
      let held ← population.subscriptions other
      held.toList.foldlM body created) :
    Rebuilds population target other effect result := by
  obtain ⟨held, hheld⟩ := Option.isSome_iff_exists.mp hother
  have hcreated := newSubscriber_eq_some hfree
  have hcreatedCons := newSubscriber_consistent hcons hcreated
  have hnotHeld : ∀ service, ¬ population.Holds target service := by
    intro service hholds
    simp [Holds, hfree] at hholds
  have hcleared : ∀ service, population.cleared target service = population.view service := by
    intro service
    rw [cleared, if_neg (hnotHeld service)]
  rw [hcreated, hheld, Option.bind_eq_bind, Option.bind_some, Option.bind_eq_bind,
    Option.bind_some] at hresult
  subst hresult
  refine ⟨?_, fun after hloop service => ?_, fun after hloop service => ?_⟩
  · rw [hacts.loop_defined hcreatedCons]
    constructor
    · intro halive service hholds
      rcases hholds with htarget | hholdsOther
      · exact absurd htarget (hnotHeld service)
      · exact halive service ((holds_iff hheld service).mp hholdsOther)
    · intro halive service hservice
      exact halive service (Or.inr ((holds_iff hheld service).mpr hservice))
  · exact (hacts.loop_tablesOnly hcreatedCons hloop).alive service
  · rw [hacts.loop_views (nodup_toList held) hcreatedCons hloop, hcleared]
    simp only [← holds_iff hheld]
    rfl

/-- An assignment first drops what the target held. -/
theorem assign_rebuilds (hacts : ActsBy body effect) (hcons : population.Consistent)
    (htarget : (population.subscriptions target).isSome)
    (hother : (population.subscriptions other).isSome) {result : Option Population}
    (hresult : result = do
      let current ← population.subscriptions target
      let held ← population.subscriptions other
      let left ← current.toList.foldlM (dropSubscription target) population
      held.toList.foldlM body left) :
    Rebuilds population target other effect result := by
  obtain ⟨current, hcurrent⟩ := Option.isSome_iff_exists.mp htarget
  obtain ⟨held, hheld⟩ := Option.isSome_iff_exists.mp hother
  have hdrops := dropSubscription_actsBy target
  rw [hcurrent, hheld, Option.bind_eq_bind, Option.bind_some, Option.bind_eq_bind,
    Option.bind_some] at hresult
  subst hresult
  refine ⟨?_, fun after hafter service => ?_, fun after hafter service => ?_⟩
  · constructor
    · rintro ⟨after, hafter⟩ service hholds
      obtain ⟨left, hdrop, hloop⟩ := Option.bind_eq_some_iff.mp hafter
      have hleft := hdrops.loop_tablesOnly hcons hdrop
      rcases hholds with hholdsTarget | hholdsOther
      · exact (hdrops.loop_defined hcons).mp ⟨left, hdrop⟩ service
          ((holds_iff hcurrent service).mp hholdsTarget)
      · rw [← hleft.alive]
        exact (hacts.loop_defined hleft.consistent).mp ⟨after, hloop⟩ service
          ((holds_iff hheld service).mp hholdsOther)
    · intro halive
      obtain ⟨left, hdrop⟩ := (hdrops.loop_defined hcons).mpr fun service hservice =>
        halive service (Or.inl ((holds_iff hcurrent service).mpr hservice))
      have hleft := hdrops.loop_tablesOnly hcons hdrop
      obtain ⟨after, hloop⟩ := (hacts.loop_defined hleft.consistent).mpr
        fun service hservice => by
          rw [hleft.alive]
          exact halive service (Or.inr ((holds_iff hheld service).mpr hservice))
      exact ⟨after, Option.bind_eq_some_iff.mpr ⟨left, hdrop, hloop⟩⟩
  · obtain ⟨left, hdrop, hloop⟩ := Option.bind_eq_some_iff.mp hafter
    have hleft := hdrops.loop_tablesOnly hcons hdrop
    rw [(hacts.loop_tablesOnly hleft.consistent hloop).alive, hleft.alive]
  · obtain ⟨left, hdrop, hloop⟩ := Option.bind_eq_some_iff.mp hafter
    have hleft := hdrops.loop_tablesOnly hcons hdrop
    have hleftViews : left.view service = population.cleared target service := by
      rw [hdrops.loop_views (nodup_toList current) hcons hdrop, cleared]
      simp only [← holds_iff hcurrent]
    rw [hacts.loop_views (nodup_toList held) hleft.consistent hloop, hleftViews]
    simp only [← holds_iff hheld]

/-! ## What is carried over -/

/-- What a live service reports for a subscriber. -/
def events (population : Population) (service : ServicePtr) (subscriber : SubscriberPtr) :
    Option (List (Option String)) :=
  (population.services service).map fun tables => tables.subscribedEvents subscriber

/-- Every live service reports for the target what it reported for the other subscriber,
and for everybody else what it did. -/
def Copied (before after : Population) (target other : SubscriberPtr) : Prop :=
  ∀ service subscriber, after.events service subscriber =
    before.events service (if subscriber = target then other else subscriber)

/-- The same for a move: every live service reports nothing for the other subscriber. -/
structure Moved (before after : Population) (target other : SubscriberPtr) : Prop where
  toTarget : ∀ service, after.events service target = before.events service other
  fromOther : ∀ service, after.events service other = (before.services service).map fun _ => []
  unchanged : ∀ service subscriber, subscriber ≠ target → subscriber ≠ other →
    after.events service subscriber = before.events service subscriber

/-- A copy of any live subscriber, or a move of a distinct one, carries over its
subscriptions. -/
def Faithful (population : Population) (operation : Operation) : Prop :=
  match operation with
  | .copyConstruct target other | .copyAssign target other =>
      population.Applicable operation →
        ∃ after, population.step operation = some after ∧ Copied population after target other
  | .moveConstruct target other | .moveAssign target other =>
      population.Applicable operation → target ≠ other →
        ∃ after, population.step operation = some after ∧ Moved population after target other
  | _ => True

/-- The records let a copy come out right: no service visited is dead, no service is left
with an entry of the target that the other subscriber has not, and where it has none or
fewer for the target it is a service that the other subscriber, not the target, holds. -/
def CopyTracked (population : Population) (target other : SubscriberPtr) : Prop :=
  population.HeldAlive target other ∧ ∀ service,
    (population.cleared target service target).Within (population.view service other) ∧
      (population.cleared target service target = population.view service other ∨
        target ≠ other ∧ population.Holds other service)

/-- The same for a move, which needs every service that lists the other subscriber. -/
def MoveTracked (population : Population) (target other : SubscriberPtr) : Prop :=
  population.HeldAlive target other ∧ ∀ service,
    (population.cleared target service target).Within (population.view service other) ∧
      (population.Lists service other → population.Holds other service)

/-- The condition on the two records under which an operation carries over what it should. -/
def Tracked (population : Population) (operation : Operation) : Prop :=
  match operation with
  | .copyConstruct target other | .copyAssign target other =>
      population.Applicable operation → population.CopyTracked target other
  | .moveConstruct target other | .moveAssign target other =>
      population.Applicable operation → target ≠ other → population.MoveTracked target other
  | _ => True

theorem events_eq_iff {before : Population} {listed : SubscriberPtr}
    (halive : (after.services service).isSome = (before.services service).isSome) :
    after.events service subscriber = before.events service listed ↔
      after.view service subscriber = before.view service listed := by
  rw [events, events, view, view]
  cases hafter : after.services service with
  | none =>
      cases hbefore : before.services service with
      | none => simp
      | some tables => simp [hafter, hbefore] at halive
  | some updated =>
      cases hbefore : before.services service with
      | none => simp [hafter, hbefore] at halive
      | some tables =>
          rw [Option.map_some, Option.map_some, Option.some.injEq, Option.elim_some,
            Option.elim_some]
          exact SubscriptionService.subscribedEvents_eq_iff

theorem events_eq_nil_iff {before : Population}
    (halive : (after.services service).isSome = (before.services service).isSome) :
    (after.events service subscriber = (before.services service).map fun _ => []) ↔
      after.view service subscriber = View.nothing := by
  rw [events, view]
  cases hafter : after.services service with
  | none =>
      cases hbefore : before.services service with
      | none => simp
      | some tables => simp [hafter, hbefore] at halive
  | some updated =>
      cases hbefore : before.services service with
      | none => simp [hafter, hbefore] at halive
      | some tables =>
          rw [Option.map_some, Option.map_some, Option.some.injEq, Option.elim_some]
          exact SubscriptionService.subscribedEvents_eq_nil_iff

theorem cleared_of_ne (hne : subscriber ≠ target) :
    population.cleared target service subscriber = population.view service subscriber := by
  rw [cleared]
  split
  · rw [dropped, Function.update_of_ne hne]
  · rfl

/-- What the loop leaves the target with, for a copy and for a move. -/
theorem union_cleared_iff (hne : target ≠ other) :
    ((if population.Holds other service then
        (population.cleared target service target).union (population.view service other)
      else population.cleared target service target) = population.view service other) ↔
      (population.cleared target service target).Within (population.view service other) ∧
        (population.cleared target service target = population.view service other ∨
          target ≠ other ∧ population.Holds other service) := by
  by_cases hholds : population.Holds other service
  · rw [if_pos hholds, View.union_eq_right]
    exact ⟨fun hwithin => ⟨hwithin, Or.inr ⟨hne, hholds⟩⟩, fun hboth => hboth.1⟩
  · rw [if_neg hholds]
    constructor
    · intro heq
      exact ⟨heq ▸ View.within_refl _, Or.inl heq⟩
    · rintro ⟨-, heq | ⟨-, hheld⟩⟩
      · exact heq
      · exact absurd hheld hholds

namespace Rebuilds

variable {result : Option Population}

/-- Everybody but the target keeps the view over a copy, so the views of the target decide. -/
theorem copied_iff_views (hrebuilds : Rebuilds population target other (copied target other) result)
    (hafter : result = some after) :
    Copied population after target other ↔
      ∀ service, after.view service target = population.view service other := by
  constructor
  · intro hcopied service
    have hevents := hcopied service target
    rw [if_pos rfl, events_eq_iff (hrebuilds.alive after hafter service)] at hevents
    exact hevents
  · intro hviews service subscriber
    rw [events_eq_iff (hrebuilds.alive after hafter service)]
    by_cases hsubscriber : subscriber = target
    · rw [if_pos hsubscriber, hsubscriber, hviews]
    · rw [if_neg hsubscriber, hrebuilds.views after hafter]
      split
      · rw [copied, Function.update_of_ne hsubscriber, cleared_of_ne hsubscriber]
      · exact cleared_of_ne hsubscriber

/-- The view a copy leaves the target with. -/
theorem copied_view_iff (hrebuilds : Rebuilds population target other (copied target other) result)
    (hafter : result = some after) (service : ServicePtr) :
    after.view service target = population.view service other ↔
      (population.cleared target service target).Within (population.view service other) ∧
        (population.cleared target service target = population.view service other ∨
          target ≠ other ∧ population.Holds other service) := by
  rw [hrebuilds.views after hafter]
  by_cases hself : target = other
  · -- Adding what the target itself still hears changes nothing.
    subst hself
    have hkept : (if population.Holds target service then
        copied target target (population.cleared target service)
        else population.cleared target service) target =
          population.cleared target service target := by
      split
      · rw [copied, Function.update_self, View.union_self]
      · rfl
    rw [hkept]
    constructor
    · intro heq
      exact ⟨heq ▸ View.within_refl _, Or.inl heq⟩
    · rintro ⟨-, heq | ⟨hne, -⟩⟩
      · exact heq
      · exact absurd rfl hne
  · rw [← union_cleared_iff hself]
    split
    · rw [copied, Function.update_self, cleared_of_ne (Ne.symm hself)]
    · rfl

theorem copied_iff (hrebuilds : Rebuilds population target other (copied target other) result) :
    (∃ after, result = some after ∧ Copied population after target other) ↔
      population.CopyTracked target other := by
  rw [CopyTracked, ← hrebuilds.defined]
  constructor
  · rintro ⟨after, hafter, hcopied⟩
    refine ⟨⟨after, hafter⟩, fun service => (hrebuilds.copied_view_iff hafter service).mp ?_⟩
    exact (hrebuilds.copied_iff_views hafter).mp hcopied service
  · rintro ⟨⟨after, hafter⟩, htracked⟩
    refine ⟨after, hafter, (hrebuilds.copied_iff_views hafter).mpr fun service => ?_⟩
    exact (hrebuilds.copied_view_iff hafter service).mpr (htracked service)

section

variable (hrebuilds : Rebuilds population target other
  (fun views => dropped other (copied target other views)) result)

include hrebuilds

/-- The view a move leaves the target with. -/
theorem moved_view_target_iff (hne : target ≠ other) (hafter : result = some after)
    (service : ServicePtr) :
    after.view service target = population.view service other ↔
      (population.cleared target service target).Within (population.view service other) ∧
        (population.cleared target service target = population.view service other ∨
          target ≠ other ∧ population.Holds other service) := by
  rw [hrebuilds.views after hafter, ← union_cleared_iff hne]
  split
  · rw [dropped, Function.update_of_ne hne, copied, Function.update_self,
      cleared_of_ne (Ne.symm hne)]
  · rfl

/-- The other one is left with nothing where it is known to be. -/
theorem moved_view_other_iff (hne : target ≠ other) (hafter : result = some after)
    (service : ServicePtr) :
    after.view service other = View.nothing ↔
      (population.Lists service other → population.Holds other service) := by
  rw [hrebuilds.views after hafter]
  by_cases hholds : population.Holds other service
  · simp [hholds, dropped]
  · rw [if_neg hholds, cleared_of_ne (Ne.symm hne), Lists]
    tauto

theorem moved_view_rest (hafter : result = some after) (service : ServicePtr)
    (hnotTarget : subscriber ≠ target) (hnotOther : subscriber ≠ other) :
    after.view service subscriber = population.view service subscriber := by
  rw [hrebuilds.views after hafter]
  split
  · rw [dropped, Function.update_of_ne hnotOther, copied, Function.update_of_ne hnotTarget,
      cleared_of_ne hnotTarget]
  · exact cleared_of_ne hnotTarget

theorem moved_iff (hne : target ≠ other) :
    (∃ after, result = some after ∧ Moved population after target other) ↔
      population.MoveTracked target other := by
  rw [MoveTracked, ← hrebuilds.defined]
  constructor
  · rintro ⟨after, hafter, hmoved⟩
    refine ⟨⟨after, hafter⟩, fun service => ⟨?_, ?_⟩⟩
    · have hview := (events_eq_iff (hrebuilds.alive after hafter service)).mp
        (hmoved.toTarget service)
      exact ((hrebuilds.moved_view_target_iff hne hafter service).mp hview).1
    · apply (hrebuilds.moved_view_other_iff hne hafter service).mp
      exact (events_eq_nil_iff (hrebuilds.alive after hafter service)).mp
        (hmoved.fromOther service)
  · rintro ⟨⟨after, hafter⟩, htracked⟩
    refine ⟨after, hafter, fun service => ?_, fun service => ?_, ?_⟩
    · rw [events_eq_iff (hrebuilds.alive after hafter service),
        hrebuilds.moved_view_target_iff hne hafter]
      obtain ⟨hwithin, hholds⟩ := htracked service
      refine ⟨hwithin, ?_⟩
      by_cases hlists : population.Lists service other
      · exact Or.inr ⟨hne, hholds hlists⟩
      · -- Where the other one hears nothing, nothing may be left for the target.
        rw [Lists, not_not] at hlists
        rw [hlists] at hwithin ⊢
        exact Or.inl (View.within_nothing.mp hwithin)
    · rw [events_eq_nil_iff (hrebuilds.alive after hafter service),
        hrebuilds.moved_view_other_iff hne hafter]
      exact (htracked service).2
    · intro service subscriber hnotTarget hnotOther
      rw [events_eq_iff (hrebuilds.alive after hafter service)]
      exact hrebuilds.moved_view_rest hafter service hnotTarget hnotOther

end

end Rebuilds

/-- In every population with consistent tables, an operation carries over what it should
exactly when the records allow it. -/
theorem faithful_iff_tracked (hcons : population.Consistent) (operation : Operation) :
    population.Faithful operation ↔ population.Tracked operation := by
  have hcopy := copySubscription_actsBy
  have hmove := moveSubscription_actsBy
  cases operation with
  | copyConstruct target other =>
      apply imp_congr_right
      rintro ⟨hfree, hother⟩
      exact (construct_rebuilds (hcopy target other) hcons hfree hother rfl).copied_iff
  | moveConstruct target other =>
      apply imp_congr_right
      rintro ⟨hfree, hother⟩
      apply imp_congr_right
      intro hne
      exact (construct_rebuilds (hmove target other) hcons hfree hother rfl).moved_iff hne
  | copyAssign target other =>
      apply imp_congr_right
      rintro ⟨htarget, hother⟩
      exact (assign_rebuilds (hcopy target other) hcons htarget hother rfl).copied_iff
  | moveAssign target other =>
      apply imp_congr_right
      rintro ⟨htarget, hother⟩
      apply imp_congr_right
      intro hne
      exact (assign_rebuilds (hmove target other) hcons htarget hother rfl).moved_iff hne
  | newService _ | newSubscriber _ | subscribeTo _ _ | subscribeToEvents _ _ _
  | callService _ _ | destroySubscriber _ | destroyService _ => exact Iff.rfl

/-- In every state that any operations on subscribers and services lead to, every copy and
every move carries over exactly the subscriptions if and only if the records allow it. -/
theorem faithful_throughout_iff_tracked (operations : List Operation) :
    Runs.Throughout step
      (fun population => ∀ operation, population.Faithful operation ↔ population.Tracked operation)
      empty operations := by
  have hcons : Runs.Throughout step Consistent empty operations :=
    Runs.throughout_of_step (fun _ _ _ hcons hstep => step_consistent hcons hstep)
      consistent_empty operations
  exact hcons.mono fun population hpopulation => faithful_iff_tracked hpopulation

/-- A copy of a copy hears nothing: the first copy is listed for every event of the service,
but holds no service. -/
theorem copy_of_copy_hears_nothing :
    ∃ first second,
      Runs.run step empty
          [.newService 0, .newSubscriber 1, .subscribeTo 1 0, .copyConstruct 2 1] =
        some first ∧
      first.Applicable (.copyConstruct 3 2) ∧
      first.step (.copyConstruct 3 2) = some second ∧
      first.events 0 2 = some [none] ∧ second.events 0 3 = some [] ∧
      ¬ first.Faithful (.copyConstruct 3 2) := by
  refine ⟨_, _, rfl, ⟨rfl, rfl⟩, rfl, by decide, by decide, fun hfaithful => ?_⟩
  obtain ⟨after, hafter, hcopied⟩ := hfaithful ⟨rfl, rfl⟩
  have hevents := hcopied 0 3
  obtain rfl := Option.some.inj hafter
  exact absurd hevents (by decide)

end Population

end Mbstf.Subscription
