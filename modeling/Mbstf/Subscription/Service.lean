import Mbstf.Core.SetIndex
import Mbstf.Core.Runs

/-!
# The subscription tables of a `SubscriptionService`

A service keeps two tables: the subscribers to every event, and the subscribers
to single events, filed under the event name.  The five mutators and the
observer below are the ones of `SubscriptionService.cc`; each returns the new
tables and the value the C++ function returns.  The mutex is not part of this
model: the functions are the bodies of its critical sections.
-/

namespace Mbstf.Subscription

open Std
open Mbstf.SetIndex

/-- A `Subscriber*`.  The sets of subscribers are ordered by address. -/
abbrev SubscriberPtr := ℕ

/-- The two tables of a `SubscriptionService`. -/
structure SubscriptionService where
  allEventSubscriptions : ExtTreeSet SubscriberPtr
  namedEventSubscriptions : ExtTreeMap String (ExtTreeSet SubscriberPtr)

namespace SubscriptionService

/-- `SubscriptionService::SubscriptionService()`. -/
def new : SubscriptionService where
  allEventSubscriptions := ∅
  namedEventSubscriptions := ∅

/-- `subscribe(Subscriber&)`: the named subscriptions are dropped first, then
the subscriber joins the all-events table. -/
def subscribe (service : SubscriptionService) (subscriber : SubscriberPtr) :
    SubscriptionService × Bool :=
  ({ allEventSubscriptions := service.allEventSubscriptions.insert subscriber
     namedEventSubscriptions := eraseEverywhere service.namedEventSubscriptions subscriber },
    subscriber ∉ service.allEventSubscriptions)

/-- One turn of the loop over the event names: the value so far of `ret` is the
second component. -/
def subscribeName (subscriber : SubscriberPtr) (state : SubscriptionService × Bool)
    (eventName : String) : SubscriptionService × Bool :=
  ({ state.1 with
     namedEventSubscriptions :=
       insertAt state.1.namedEventSubscriptions eventName subscriber },
    (subscriber ∉ row state.1.namedEventSubscriptions eventName) || state.2)

/-- `subscribe(std::initializer_list<const char*>, Subscriber&)`. -/
def subscribeEvents (service : SubscriptionService) (eventsList : List String)
    (subscriber : SubscriberPtr) : SubscriptionService × Bool :=
  if subscriber ∈ service.allEventSubscriptions then (service, false)
  else eventsList.foldl (subscribeName subscriber) (service, false)

/-- `subscribe<Iterable>(const Iterable&, Subscriber&)`: the template of the
header, which repeats the loop without taking the mutex. -/
def subscribeIterable (service : SubscriptionService) (iterable : List String)
    (subscriber : SubscriberPtr) : SubscriptionService × Bool :=
  if subscriber ∈ service.allEventSubscriptions then (service, false)
  else iterable.foldl (subscribeName subscriber) (service, false)

/-- `unsubscribe(Subscriber&)`: the named table is only searched when the
subscriber was not an all-events one. -/
def unsubscribe (service : SubscriptionService) (subscriber : SubscriberPtr) :
    SubscriptionService × Bool :=
  if subscriber ∈ service.allEventSubscriptions then
    ({ service with
       allEventSubscriptions := service.allEventSubscriptions.erase subscriber }, true)
  else
    ({ service with
       namedEventSubscriptions :=
         eraseEverywhere service.namedEventSubscriptions subscriber },
      service.namedEventSubscriptions.toList.any fun entry => subscriber ∈ entry.2)

/-- One turn of the loop of the named `unsubscribe`. -/
def unsubscribeName (subscriber : SubscriberPtr) (state : SubscriptionService × Bool)
    (eventName : String) : SubscriptionService × Bool :=
  ({ state.1 with
     namedEventSubscriptions :=
       eraseAt state.1.namedEventSubscriptions eventName subscriber },
    (subscriber ∈ row state.1.namedEventSubscriptions eventName) || state.2)

/-- `unsubscribe(std::initializer_list<const char*>, Subscriber&)`. -/
def unsubscribeEvents (service : SubscriptionService) (eventsList : List String)
    (subscriber : SubscriberPtr) : SubscriptionService × Bool :=
  eventsList.foldl (unsubscribeName subscriber) (service, false)

/-- `subscribedEvents(Subscriber&)`; `none` is the null pointer that stands for
"all events". -/
def subscribedEvents (service : SubscriptionService) (subscriber : SubscriberPtr) :
    List (Option String) :=
  if subscriber ∈ service.allEventSubscriptions then [none]
  else (keysOf service.namedEventSubscriptions subscriber).map some

/-- The mutators of a service as data. -/
inductive Call where
  | subscribe (subscriber : SubscriberPtr)
  | subscribeEvents (eventsList : List String) (subscriber : SubscriberPtr)
  | subscribeIterable (iterable : List String) (subscriber : SubscriberPtr)
  | unsubscribe (subscriber : SubscriberPtr)
  | unsubscribeEvents (eventsList : List String) (subscriber : SubscriberPtr)

/-- The tables and the returned value after one call. -/
def exec (service : SubscriptionService) : Call → SubscriptionService × Bool
  | .subscribe subscriber => service.subscribe subscriber
  | .subscribeEvents eventsList subscriber => service.subscribeEvents eventsList subscriber
  | .subscribeIterable iterable subscriber => service.subscribeIterable iterable subscriber
  | .unsubscribe subscriber => service.unsubscribe subscriber
  | .unsubscribeEvents eventsList subscriber =>
      service.unsubscribeEvents eventsList subscriber

/-- A call as a step, with its answer forgotten. -/
def step (service : SubscriptionService) (call : Call) : Option SubscriptionService :=
  some (service.exec call).1

/-- The states of a service: those a new one reaches by any calls. -/
def Reachable (service : SubscriptionService) : Prop :=
  Runs.Reachable step new service

/-- What the two tables keep: nobody is in both, and no name is kept with an
empty set of subscribers. -/
structure Consistent (service : SubscriptionService) : Prop where
  disjoint : ∀ subscriber eventName, subscriber ∈ service.allEventSubscriptions →
    subscriber ∉ row service.namedEventSubscriptions eventName
  noEmptyRow : NoEmptyRow service.namedEventSubscriptions

theorem consistent_new : new.Consistent where
  disjoint := by simp [new]
  noEmptyRow := noEmptyRow_empty

/-! ## The loops over event names -/

@[simp]
theorem subscribeName_all (subscriber : SubscriberPtr) (state : SubscriptionService × Bool)
    (eventName : String) :
    (subscribeName subscriber state eventName).1.allEventSubscriptions =
      state.1.allEventSubscriptions := rfl

@[simp]
theorem unsubscribeName_all (subscriber : SubscriberPtr) (state : SubscriptionService × Bool)
    (eventName : String) :
    (unsubscribeName subscriber state eventName).1.allEventSubscriptions =
      state.1.allEventSubscriptions := rfl

theorem foldl_subscribeName_all (subscriber : SubscriberPtr) (eventsList : List String)
    (state : SubscriptionService × Bool) :
    (eventsList.foldl (subscribeName subscriber) state).1.allEventSubscriptions =
      state.1.allEventSubscriptions := by
  induction eventsList generalizing state with
  | nil => rfl
  | cons eventName eventsList ih => rw [List.foldl_cons, ih, subscribeName_all]

theorem mem_row_foldl_subscribeName (subscriber other : SubscriberPtr) (name : String)
    (eventsList : List String) (state : SubscriptionService × Bool) :
    other ∈ row (eventsList.foldl (subscribeName subscriber) state).1.namedEventSubscriptions
        name ↔
      (name ∈ eventsList ∧ other = subscriber) ∨
        other ∈ row state.1.namedEventSubscriptions name := by
  induction eventsList generalizing state with
  | nil => simp
  | cons eventName eventsList ih =>
      rw [List.foldl_cons, ih, subscribeName, mem_row_insertAt, List.mem_cons]
      tauto

/-- `ret` ends true when it was, or when some name of the list was new. -/
theorem foldl_subscribeName_ret (subscriber : SubscriberPtr) (eventsList : List String)
    (state : SubscriptionService × Bool) :
    (eventsList.foldl (subscribeName subscriber) state).2 = true ↔
      state.2 = true ∨ ∃ eventName ∈ eventsList,
        subscriber ∉ row state.1.namedEventSubscriptions eventName := by
  induction eventsList generalizing state with
  | nil => simp
  | cons eventName eventsList ih =>
      rw [List.foldl_cons, ih]
      simp only [subscribeName, mem_row_insertAt, Bool.or_eq_true, decide_eq_true_eq,
        List.mem_cons, exists_eq_or_imp, not_or, and_true]
      -- A later name counts only when it is new after the insertions before it;
      -- the first occurrence of the name is where it is new.
      constructor
      · rintro ((hnew | hret) | ⟨later, hlater, -, hnew⟩)
        · exact Or.inr (Or.inl hnew)
        · exact Or.inl hret
        · exact Or.inr (Or.inr ⟨later, hlater, hnew⟩)
      · rintro (hret | hnew | ⟨later, hlater, hnew⟩)
        · exact Or.inl (Or.inr hret)
        · exact Or.inl (Or.inl hnew)
        · by_cases heq : later = eventName
          · exact Or.inl (Or.inl (heq ▸ hnew))
          · exact Or.inr ⟨later, hlater, heq, hnew⟩

theorem noEmptyRow_foldl_subscribeName (subscriber : SubscriberPtr) (eventsList : List String)
    {state : SubscriptionService × Bool}
    (hstate : NoEmptyRow state.1.namedEventSubscriptions) :
    NoEmptyRow
      (eventsList.foldl (subscribeName subscriber) state).1.namedEventSubscriptions := by
  induction eventsList generalizing state with
  | nil => exact hstate
  | cons eventName eventsList ih => exact ih (noEmptyRow_insertAt hstate eventName subscriber)

theorem foldl_unsubscribeName_all (subscriber : SubscriberPtr) (eventsList : List String)
    (state : SubscriptionService × Bool) :
    (eventsList.foldl (unsubscribeName subscriber) state).1.allEventSubscriptions =
      state.1.allEventSubscriptions := by
  induction eventsList generalizing state with
  | nil => rfl
  | cons eventName eventsList ih => rw [List.foldl_cons, ih, unsubscribeName_all]

theorem mem_row_foldl_unsubscribeName (subscriber other : SubscriberPtr) (name : String)
    (eventsList : List String) (state : SubscriptionService × Bool) :
    other ∈ row
        (eventsList.foldl (unsubscribeName subscriber) state).1.namedEventSubscriptions name ↔
      other ∈ row state.1.namedEventSubscriptions name ∧
        ¬ (name ∈ eventsList ∧ other = subscriber) := by
  induction eventsList generalizing state with
  | nil => simp
  | cons eventName eventsList ih =>
      rw [List.foldl_cons, ih, unsubscribeName, mem_row_eraseAt, List.mem_cons]
      tauto

/-- `ret` ends true when it was, or when some name of the list was removed. -/
theorem foldl_unsubscribeName_ret (subscriber : SubscriberPtr) (eventsList : List String)
    (state : SubscriptionService × Bool) :
    (eventsList.foldl (unsubscribeName subscriber) state).2 = true ↔
      state.2 = true ∨ ∃ eventName ∈ eventsList,
        subscriber ∈ row state.1.namedEventSubscriptions eventName := by
  induction eventsList generalizing state with
  | nil => simp
  | cons eventName eventsList ih =>
      rw [List.foldl_cons, ih]
      simp only [unsubscribeName, mem_row_eraseAt, Bool.or_eq_true, decide_eq_true_eq,
        List.mem_cons, exists_eq_or_imp, and_true]
      constructor
      · rintro ((hold | hret) | ⟨later, hlater, hold, -⟩)
        · exact Or.inr (Or.inl hold)
        · exact Or.inl hret
        · exact Or.inr (Or.inr ⟨later, hlater, hold⟩)
      · rintro (hret | hold | ⟨later, hlater, hold⟩)
        · exact Or.inl (Or.inr hret)
        · exact Or.inl (Or.inl hold)
        · by_cases heq : later = eventName
          · exact Or.inl (Or.inl (heq ▸ hold))
          · exact Or.inr ⟨later, hlater, hold, heq⟩

theorem noEmptyRow_foldl_unsubscribeName (subscriber : SubscriberPtr)
    (eventsList : List String) {state : SubscriptionService × Bool}
    (hstate : NoEmptyRow state.1.namedEventSubscriptions) :
    NoEmptyRow
      (eventsList.foldl (unsubscribeName subscriber) state).1.namedEventSubscriptions := by
  induction eventsList generalizing state with
  | nil => exact hstate
  | cons eventName eventsList ih => exact ih (noEmptyRow_eraseAt hstate eventName subscriber)

/-! ## Every call keeps the tables consistent -/

theorem Consistent.subscribe {service : SubscriptionService} (hservice : service.Consistent)
    (subscriber : SubscriberPtr) : (service.subscribe subscriber).1.Consistent where
  disjoint := by
    intro other eventName hall
    simp only [SubscriptionService.subscribe, mem_insert_iff, mem_row_eraseEverywhere,
      not_and] at hall ⊢
    intro hne
    exact hservice.disjoint other eventName (hall.resolve_left hne)
  noEmptyRow := noEmptyRow_eraseEverywhere hservice.noEmptyRow subscriber

theorem Consistent.subscribeEvents {service : SubscriptionService}
    (hservice : service.Consistent) (eventsList : List String) (subscriber : SubscriberPtr) :
    (service.subscribeEvents eventsList subscriber).1.Consistent := by
  unfold SubscriptionService.subscribeEvents
  split
  · exact hservice
  · rename_i hnot
    refine ⟨fun other eventName hall => ?_, ?_⟩
    · rw [foldl_subscribeName_all] at hall
      rw [mem_row_foldl_subscribeName]
      rintro (⟨-, rfl⟩ | hrow)
      · exact hnot hall
      · exact hservice.disjoint other eventName hall hrow
    · exact noEmptyRow_foldl_subscribeName subscriber eventsList hservice.noEmptyRow

theorem Consistent.unsubscribe {service : SubscriptionService}
    (hservice : service.Consistent) (subscriber : SubscriberPtr) :
    (service.unsubscribe subscriber).1.Consistent := by
  unfold SubscriptionService.unsubscribe
  split
  · refine ⟨fun other eventName hall => ?_, hservice.noEmptyRow⟩
    exact hservice.disjoint other eventName (mem_erase_iff.mp hall).2
  · refine ⟨fun other eventName hall hrow => ?_, ?_⟩
    · exact hservice.disjoint other eventName hall (mem_row_eraseEverywhere.mp hrow).2
    · exact noEmptyRow_eraseEverywhere hservice.noEmptyRow subscriber

theorem Consistent.unsubscribeEvents {service : SubscriptionService}
    (hservice : service.Consistent) (eventsList : List String) (subscriber : SubscriberPtr) :
    (service.unsubscribeEvents eventsList subscriber).1.Consistent where
  disjoint := by
    intro other eventName hall hrow
    rw [SubscriptionService.unsubscribeEvents, foldl_unsubscribeName_all] at hall
    rw [SubscriptionService.unsubscribeEvents, mem_row_foldl_unsubscribeName] at hrow
    exact hservice.disjoint other eventName hall hrow.1
  noEmptyRow := noEmptyRow_foldl_unsubscribeName subscriber eventsList hservice.noEmptyRow

theorem Consistent.exec {service : SubscriptionService} (hservice : service.Consistent)
    (call : Call) : (service.exec call).1.Consistent := by
  cases call with
  | subscribe subscriber => exact hservice.subscribe subscriber
  | subscribeEvents eventsList subscriber =>
      exact hservice.subscribeEvents eventsList subscriber
  | subscribeIterable iterable subscriber =>
      exact hservice.subscribeEvents iterable subscriber
  | unsubscribe subscriber => exact hservice.unsubscribe subscriber
  | unsubscribeEvents eventsList subscriber =>
      exact hservice.unsubscribeEvents eventsList subscriber

/-- The tables of every reachable service are consistent. -/
theorem Reachable.consistent {service : SubscriptionService} (hreach : service.Reachable) :
    service.Consistent := by
  refine Runs.Reachable.invariant ?_ consistent_new hreach
  intro state call next hstate hnext
  obtain rfl : (state.exec call).1 = next := by simpa [step] using hnext
  exact hstate.exec call

end SubscriptionService

end Mbstf.Subscription
