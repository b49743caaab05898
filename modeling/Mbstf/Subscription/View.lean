import Mbstf.Subscription.Service

/-!
# What a subscription service is for

Abstractly, each subscriber either hears every event or hears a finite set of
named events, and a call changes the view of one subscriber.  This module
defines that abstract component and proves that the two tables implement it,
call by call and over whole histories.
-/

namespace Mbstf.Subscription

open Std
open Mbstf.SetIndex

/-- What one subscriber hears. -/
inductive View (Name : Type*) where
  | all
  | names (held : Finset Name)
  deriving DecidableEq

namespace View

variable {Name : Type*} [DecidableEq Name]

/-- Ask for every event; the answer tells whether the view changed. -/
def subscribe : View Name → View Name × Bool
  | .all => (.all, false)
  | .names _ => (.all, true)

/-- Ask for some named events; the answer tells whether one of them was new. -/
def subscribeNames (wanted : List Name) : View Name → View Name × Bool
  | .all => (.all, false)
  | .names held => (.names (held ∪ wanted.toFinset), ∃ name ∈ wanted, name ∉ held)

/-- Give everything up; the answer tells whether there was something. -/
def unsubscribe : View Name → View Name × Bool
  | .all => (.names ∅, true)
  | .names held => (.names ∅, held.Nonempty)

/-- Give some named events up; the answer tells whether one of them was held. -/
def unsubscribeNames (unwanted : List Name) : View Name → View Name × Bool
  | .all => (.all, false)
  | .names held => (.names (held \ unwanted.toFinset), ∃ name ∈ unwanted, name ∈ held)

/-- A list of event names, `none` standing for all of them, tells a view
truthfully and without repetition. -/
def ReportedBy : View Name → List (Option Name) → Prop
  | .all, events => events = [none]
  | .names held, events =>
      events.Nodup ∧ ∀ event, event ∈ events ↔ ∃ name ∈ held, event = some name

/-- The view in which nothing is heard. -/
def nothing : View Name := .names ∅

end View

namespace SubscriptionService

/-- The subscriber a call is about. -/
def Call.subscriber : Call → SubscriberPtr
  | .subscribe subscriber => subscriber
  | .subscribeEvents _ subscriber => subscriber
  | .subscribeIterable _ subscriber => subscriber
  | .unsubscribe subscriber => subscriber
  | .unsubscribeEvents _ subscriber => subscriber

/-- What a call does to the view of its subscriber. -/
def Call.act : Call → View String → View String × Bool
  | .subscribe _ => View.subscribe
  | .subscribeEvents eventsList _ => View.subscribeNames eventsList
  | .subscribeIterable iterable _ => View.subscribeNames iterable
  | .unsubscribe _ => View.unsubscribe
  | .unsubscribeEvents eventsList _ => View.unsubscribeNames eventsList

/-- The abstract component: one view a subscriber, and a call acts on the view
of its own subscriber only. -/
def viewStep (views : SubscriberPtr → View String) (call : Call) :
    (SubscriberPtr → View String) × Bool :=
  let answer := call.act (views call.subscriber)
  (Function.update views call.subscriber answer.1, answer.2)

/-- The view of a subscriber that the two tables stand for. -/
def view (service : SubscriptionService) (subscriber : SubscriberPtr) : View String :=
  if subscriber ∈ service.allEventSubscriptions then .all
  else .names (keysOf service.namedEventSubscriptions subscriber).toFinset

theorem view_of_mem_all {service : SubscriptionService} {subscriber : SubscriberPtr}
    (hall : subscriber ∈ service.allEventSubscriptions) :
    service.view subscriber = .all := by
  simp [view, hall]

theorem view_of_not_mem_all {service : SubscriptionService} {subscriber : SubscriberPtr}
    (hall : subscriber ∉ service.allEventSubscriptions) :
    service.view subscriber =
      .names (keysOf service.namedEventSubscriptions subscriber).toFinset := by
  simp [view, hall]

/-- Two tables give a subscriber the same view when they agree on its rows. -/
theorem view_congr {left right : SubscriptionService} {subscriber : SubscriberPtr}
    (hall : subscriber ∈ left.allEventSubscriptions ↔
      subscriber ∈ right.allEventSubscriptions)
    (hrow : ∀ name, subscriber ∈ row left.namedEventSubscriptions name ↔
      subscriber ∈ row right.namedEventSubscriptions name) :
    left.view subscriber = right.view subscriber := by
  have hkeys : (keysOf left.namedEventSubscriptions subscriber).toFinset =
      (keysOf right.namedEventSubscriptions subscriber).toFinset := by
    ext name
    simp only [List.mem_toFinset, mem_keysOf]
    exact hrow name
  simp only [view, hall, hkeys]

/-- Nobody in the all-events table, and exactly the given names in the other. -/
theorem view_eq_names {service : SubscriptionService} {subscriber : SubscriberPtr}
    {held : Finset String} (hall : subscriber ∉ service.allEventSubscriptions)
    (hrow : ∀ name, subscriber ∈ row service.namedEventSubscriptions name ↔ name ∈ held) :
    service.view subscriber = .names held := by
  rw [view_of_not_mem_all hall]
  congr 1
  ext name
  rw [List.mem_toFinset, mem_keysOf]
  exact hrow name

/-! ## The five mutators -/

theorem view_subscribe {service : SubscriptionService} (subscriber : SubscriberPtr) :
    ((service.subscribe subscriber).1.view subscriber, (service.subscribe subscriber).2) =
      View.subscribe (service.view subscriber) := by
  have hview : (service.subscribe subscriber).1.view subscriber = .all :=
    view_of_mem_all (by simp [subscribe])
  rw [hview]
  by_cases hall : subscriber ∈ service.allEventSubscriptions
  · simp [view_of_mem_all hall, subscribe, View.subscribe, hall]
  · simp [view_of_not_mem_all hall, subscribe, View.subscribe, hall]

theorem view_subscribe_other {service : SubscriptionService} {subscriber other : SubscriberPtr}
    (hne : other ≠ subscriber) :
    (service.subscribe subscriber).1.view other = service.view other := by
  apply view_congr
  · simp [subscribe, mem_insert_iff, hne, -ExtTreeSet.mem_insert]
  · intro name
    simp [subscribe, mem_row_eraseEverywhere, hne]

theorem view_subscribeEvents {service : SubscriptionService} (eventsList : List String)
    (subscriber : SubscriberPtr) :
    ((service.subscribeEvents eventsList subscriber).1.view subscriber,
        (service.subscribeEvents eventsList subscriber).2) =
      View.subscribeNames eventsList (service.view subscriber) := by
  by_cases hall : subscriber ∈ service.allEventSubscriptions
  · simp [subscribeEvents, hall, view_of_mem_all hall, View.subscribeNames]
  · have hview : (service.subscribeEvents eventsList subscriber).1.view subscriber =
        .names ((keysOf service.namedEventSubscriptions subscriber).toFinset ∪
          eventsList.toFinset) := by
      rw [subscribeEvents, if_neg hall]
      apply view_eq_names
      · rwa [foldl_subscribeName_all]
      · intro name
        rw [mem_row_foldl_subscribeName]
        simp [mem_keysOf, or_comm]
    have hret : (service.subscribeEvents eventsList subscriber).2 =
        decide (∃ name ∈ eventsList,
          name ∉ (keysOf service.namedEventSubscriptions subscriber).toFinset) := by
      rw [subscribeEvents, if_neg hall, Bool.eq_iff_iff, foldl_subscribeName_ret]
      simp [mem_keysOf]
    rw [hview, hret, view_of_not_mem_all hall, View.subscribeNames]

theorem view_subscribeEvents_other {service : SubscriptionService} (eventsList : List String)
    {subscriber other : SubscriberPtr} (hne : other ≠ subscriber) :
    (service.subscribeEvents eventsList subscriber).1.view other = service.view other := by
  unfold subscribeEvents
  split
  · rfl
  · apply view_congr
    · rw [foldl_subscribeName_all]
    · intro name
      rw [mem_row_foldl_subscribeName]
      simp [hne]

theorem view_unsubscribe {service : SubscriptionService} (hservice : service.Consistent)
    (subscriber : SubscriberPtr) :
    ((service.unsubscribe subscriber).1.view subscriber,
        (service.unsubscribe subscriber).2) =
      View.unsubscribe (service.view subscriber) := by
  by_cases hall : subscriber ∈ service.allEventSubscriptions
  · -- The named table is not searched, and by disjointness need not be.
    have hview : (service.unsubscribe subscriber).1.view subscriber = .names ∅ := by
      rw [unsubscribe, if_pos hall]
      apply view_eq_names
      · rw [mem_erase_iff]
        simp
      · intro name
        have hrow := hservice.disjoint subscriber name hall
        simpa using hrow
    rw [hview, view_of_mem_all hall]
    simp [unsubscribe, hall, View.unsubscribe]
  · have hview : (service.unsubscribe subscriber).1.view subscriber = .names ∅ := by
      rw [unsubscribe, if_neg hall]
      apply view_eq_names
      · exact hall
      · intro name
        rw [mem_row_eraseEverywhere]
        simp
    have hret : (service.unsubscribe subscriber).2 =
        decide (keysOf service.namedEventSubscriptions subscriber).toFinset.Nonempty := by
      rw [unsubscribe, if_neg hall, Bool.eq_iff_iff, any_mem_iff, decide_eq_true_eq]
      simp only [Finset.Nonempty, List.mem_toFinset, mem_keysOf]
    rw [hview, hret, view_of_not_mem_all hall, View.unsubscribe]

theorem view_unsubscribe_other {service : SubscriptionService}
    {subscriber other : SubscriberPtr} (hne : other ≠ subscriber) :
    (service.unsubscribe subscriber).1.view other = service.view other := by
  unfold unsubscribe
  split
  · apply view_congr
    · rw [mem_erase_iff]
      simp [hne]
    · intro name
      rfl
  · apply view_congr
    · rfl
    · intro name
      rw [mem_row_eraseEverywhere]
      simp [hne]

theorem view_unsubscribeEvents {service : SubscriptionService}
    (hservice : service.Consistent) (eventsList : List String) (subscriber : SubscriberPtr) :
    ((service.unsubscribeEvents eventsList subscriber).1.view subscriber,
        (service.unsubscribeEvents eventsList subscriber).2) =
      View.unsubscribeNames eventsList (service.view subscriber) := by
  have hret : (service.unsubscribeEvents eventsList subscriber).2 =
      decide (∃ name ∈ eventsList,
        subscriber ∈ row service.namedEventSubscriptions name) := by
    rw [unsubscribeEvents, Bool.eq_iff_iff, foldl_unsubscribeName_ret]
    simp
  rw [hret]
  by_cases hall : subscriber ∈ service.allEventSubscriptions
  · have hview : (service.unsubscribeEvents eventsList subscriber).1.view subscriber =
        .all := by
      apply view_of_mem_all
      rwa [unsubscribeEvents, foldl_unsubscribeName_all]
    have hnone : ¬ ∃ name ∈ eventsList,
        subscriber ∈ row service.namedEventSubscriptions name := by
      rintro ⟨name, -, hrow⟩
      exact hservice.disjoint subscriber name hall hrow
    simp [hview, view_of_mem_all hall, View.unsubscribeNames, hnone]
  · have hview : (service.unsubscribeEvents eventsList subscriber).1.view subscriber =
        .names ((keysOf service.namedEventSubscriptions subscriber).toFinset \
          eventsList.toFinset) := by
      apply view_eq_names
      · rwa [unsubscribeEvents, foldl_unsubscribeName_all]
      · intro name
        rw [unsubscribeEvents, mem_row_foldl_unsubscribeName]
        simp [mem_keysOf]
    rw [hview, view_of_not_mem_all hall]
    simp [View.unsubscribeNames, mem_keysOf]

theorem view_unsubscribeEvents_other {service : SubscriptionService}
    (eventsList : List String) {subscriber other : SubscriberPtr} (hne : other ≠ subscriber) :
    (service.unsubscribeEvents eventsList subscriber).1.view other = service.view other := by
  apply view_congr
  · rw [unsubscribeEvents, foldl_unsubscribeName_all]
  · intro name
    rw [unsubscribeEvents, mem_row_foldl_unsubscribeName]
    simp [hne]

/-! ## Refinement -/

theorem view_new (subscriber : SubscriberPtr) : new.view subscriber = View.nothing := by
  apply view_eq_names
  · simp [new]
  · simp [new]

/-- The view of the subscriber a call is about, and the answer of the call. -/
theorem view_exec_self {service : SubscriptionService} (hservice : service.Consistent)
    (call : Call) :
    ((service.exec call).1.view call.subscriber, (service.exec call).2) =
      call.act (service.view call.subscriber) := by
  cases call with
  | subscribe subscriber => exact view_subscribe subscriber
  | subscribeEvents eventsList subscriber => exact view_subscribeEvents eventsList subscriber
  | subscribeIterable iterable subscriber => exact view_subscribeEvents iterable subscriber
  | unsubscribe subscriber => exact view_unsubscribe hservice subscriber
  | unsubscribeEvents eventsList subscriber =>
      exact view_unsubscribeEvents hservice eventsList subscriber

/-- The view of every other subscriber. -/
theorem view_exec_other {service : SubscriptionService} (call : Call) {other : SubscriberPtr}
    (hne : other ≠ call.subscriber) :
    (service.exec call).1.view other = service.view other := by
  cases call with
  | subscribe subscriber => exact view_subscribe_other hne
  | subscribeEvents eventsList subscriber => exact view_subscribeEvents_other eventsList hne
  | subscribeIterable iterable subscriber => exact view_subscribeEvents_other iterable hne
  | unsubscribe subscriber => exact view_unsubscribe_other hne
  | unsubscribeEvents eventsList subscriber =>
      exact view_unsubscribeEvents_other eventsList hne

/-- One concrete call is one abstract call, seen through `view`. -/
theorem view_exec {service : SubscriptionService} (hservice : service.Consistent)
    (call : Call) :
    ((service.exec call).1.view, (service.exec call).2) = viewStep service.view call := by
  have hself := view_exec_self hservice call
  apply Prod.ext
  · funext other
    by_cases hother : other = call.subscriber
    · subst hother
      simpa [viewStep] using congrArg Prod.fst hself
    · simp only [viewStep, Function.update_of_ne hother]
      exact view_exec_other call hother
  · have hret := congrArg Prod.snd hself
    exact hret

/-- `subscribedEvents` reports the view: the null pointer alone for all events,
and each name once otherwise. -/
theorem subscribedEvents_reports (service : SubscriptionService)
    (subscriber : SubscriberPtr) :
    (service.view subscriber).ReportedBy (service.subscribedEvents subscriber) := by
  by_cases hall : subscriber ∈ service.allEventSubscriptions
  · simp [view_of_mem_all hall, subscribedEvents, hall, View.ReportedBy]
  · rw [view_of_not_mem_all hall, subscribedEvents, if_neg hall]
    constructor
    · exact (nodup_keysOf _ subscriber).map (Option.some_injective _)
    · intro event
      simp [eq_comm]

/-- The report tells the view: two reports are the same list exactly when the views are the
same. -/
theorem subscribedEvents_eq_iff {service other : SubscriptionService}
    {subscriber listed : SubscriberPtr} :
    service.subscribedEvents subscriber = other.subscribedEvents listed ↔
      service.view subscriber = other.view listed := by
  have hnone : ∀ keys : List String, keys.map some ≠ [none] := by
    intro keys heq
    have hmem : none ∈ keys.map some := heq ▸ List.mem_singleton_self none
    simp at hmem
  by_cases hall : subscriber ∈ service.allEventSubscriptions
  · by_cases hother : listed ∈ other.allEventSubscriptions
    · simp [subscribedEvents, hall, hother, view]
    · simp [subscribedEvents, hall, hother, view, (hnone _).symm]
  · by_cases hother : listed ∈ other.allEventSubscriptions
    · simp [subscribedEvents, hall, hother, view, hnone]
    · rw [subscribedEvents, subscribedEvents, if_neg hall, if_neg hother,
        view_of_not_mem_all hall, view_of_not_mem_all hother, View.names.injEq,
        (List.map_injective_iff.mpr (Option.some_injective _)).eq_iff]
      refine ⟨congrArg List.toFinset, fun hfinset => keysOf_congr fun name => ?_⟩
      have hmem := congrArg (name ∈ ·) hfinset
      simpa only [List.mem_toFinset, mem_keysOf, eq_iff_iff] using hmem

/-- The tables implement the views: in every reachable state each of the five
mutators acts on the views, and answers, as the abstract component does, the
observer reports the views, and the tables stay consistent. -/
theorem reachable_refines_view {service : SubscriptionService} (hreach : service.Reachable) :
    (∀ call, ((service.exec call).1.view, (service.exec call).2) =
        viewStep service.view call) ∧
      (∀ subscriber,
        (service.view subscriber).ReportedBy (service.subscribedEvents subscriber)) ∧
      service.Consistent := by
  have hservice := hreach.consistent
  exact ⟨view_exec hservice, subscribedEvents_reports service, hservice⟩

theorem reachable_refines_view_two_names :
    Reachable (new.exec (.subscribeEvents ["ObjectAdded", "ObjectDeleted"] 7)).1 ∧
      (((new.exec (.subscribeEvents ["ObjectAdded", "ObjectDeleted"] 7)).1.exec
            (.subscribe 7)).2 = true) := by
  have hreach : Reachable (new.exec (.subscribeEvents ["ObjectAdded", "ObjectDeleted"] 7)).1 :=
    ⟨[.subscribeEvents ["ObjectAdded", "ObjectDeleted"] 7], rfl⟩
  have hrefines := (reachable_refines_view hreach).1 (.subscribe 7)
  refine ⟨hreach, ?_⟩
  have hanswer := congrArg Prod.snd hrefines
  rw [hanswer]
  decide

/-- Over a whole history the views go through the abstract history. -/
theorem view_run {service : SubscriptionService} (calls : List Call)
    (hservice : service.Consistent) :
    (calls.foldl (fun state call => (state.exec call).1) service).view =
      calls.foldl (fun views call => (viewStep views call).1) service.view := by
  induction calls generalizing service with
  | nil => rfl
  | cons call calls ih =>
      rw [List.foldl_cons, List.foldl_cons, ih (hservice.exec call)]
      rw [← congrArg Prod.fst (view_exec hservice call)]

end SubscriptionService

end Mbstf.Subscription
