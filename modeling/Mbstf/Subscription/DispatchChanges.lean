import Mbstf.Subscription.Delivery

/-!
# Dispatch while subscriptions change

The loops of `sendEventSynchronous` keep an iterator into a set of subscribers while the
mutex is released for `processEvent`, and the handler, or another thread, may subscribe and
unsubscribe then.  An iterator is the entry it points to: it survives changes of other
entries, and is dead when its own entry is erased, whether or not it comes back.
-/

namespace Mbstf.Subscription

open Std (ExtTreeSet)
open Mbstf.SetIndex

/-- Where a dispatch is: in `processEvent` of a subscriber, called by the loop over the
subscribers to the name or by the one over the subscribers to all events, at its end, or
behind an entry that is gone. -/
inductive Position where
  | named (current : SubscriberPtr)
  | all (current : SubscriberPtr)
  | finished
  | lost
  deriving DecidableEq

namespace Position

/-- The subscriber whose handler runs. -/
def current : Position → Option SubscriberPtr
  | .named current => some current
  | .all current => some current
  | .finished => none
  | .lost => none

/-- The entry that the iterator points to is in its table. -/
def EntryIn (service : SubscriptionService) (eventName : String) : Position → Prop
  | .named current => current ∈ row service.namedEventSubscriptions eventName
  | .all current => current ∈ service.allEventSubscriptions
  | .finished => True
  | .lost => True

instance (service : SubscriptionService) (eventName : String) (position : Position) :
    Decidable (position.EntryIn service eventName) :=
  match position with
  | .named current =>
      inferInstanceAs (Decidable (current ∈ row service.namedEventSubscriptions eventName))
  | .all current => inferInstanceAs (Decidable (current ∈ service.allEventSubscriptions))
  | .finished => inferInstanceAs (Decidable True)
  | .lost => inferInstanceAs (Decidable True)

end Position

/-- The first entry of a set behind the current one, or the first of all. -/
def nextEntry (subscribers : ExtTreeSet SubscriberPtr) (current : Option SubscriberPtr) :
    Option SubscriberPtr :=
  subscribers.toList.find? fun subscriber => current.all (· < subscriber)

/-- A dispatch: `entryErased` says whether the entry of the iterator was erased since it got
there, `received` are the subscribers called, and `tables` all states of the service since
the dispatch began. -/
structure Dispatch where
  service : SubscriptionService
  event : Event
  position : Position
  entryErased : Bool
  received : List SubscriberPtr
  tables : List SubscriptionService

namespace Dispatch

/-- What happens while a handler runs: calls on the service and on the event, and the return
to the loop. -/
inductive Label where
  | call (call : SubscriptionService.Call)
  | act (action : Event.Action)
  | handlerReturns

/-- The iterator gets to an entry, and the handler is called. -/
def visit (dispatch : Dispatch) (position : Position) : Dispatch :=
  { dispatch with
    position := position
    entryErased := false
    received := dispatch.received ++ position.current.toList }

/-- The first subscriber to all events, behind the first loop. -/
def firstAll (service : SubscriptionService) : Option Position :=
  (nextEntry service.allEventSubscriptions none).map .all

/-- Where the iterator goes from its entry. -/
def following (dispatch : Dispatch) : Option Position :=
  match dispatch.position with
  | .named current =>
      ((nextEntry (row dispatch.service.namedEventSubscriptions dispatch.event.eventName)
        (some current)).map .named).or (firstAll dispatch.service)
  | .all current => (nextEntry dispatch.service.allEventSubscriptions (some current)).map .all
  | .finished => none
  | .lost => none

/-- The iterator gets to a position, or to the end. -/
def goTo (dispatch : Dispatch) : Option Position → Dispatch
  | some position => dispatch.visit position
  | none => { dispatch with position := .finished }

/-- `sendEventSynchronous(Event&)` up to the first handler. -/
def start (service : SubscriptionService) (event : Event) : Dispatch :=
  let dispatch : Dispatch := ⟨service, event, .finished, false, [], [service]⟩
  match nextEntry (row service.namedEventSubscriptions event.eventName) none with
  | some subscriber => dispatch.visit (.named subscriber)
  | none => if event.stopProcessingFlag then dispatch else dispatch.goTo (firstAll service)

/-- A call on the service while a handler runs. -/
def runCall (dispatch : Dispatch) (call : SubscriptionService.Call) : Dispatch :=
  let service := (dispatch.service.exec call).1
  { dispatch with
    service := service
    entryErased := dispatch.entryErased ||
      !decide (dispatch.position.EntryIn service dispatch.event.eventName)
    tables := dispatch.tables ++ [service] }

/-- The handler returns: a stopped event ends the loop, else the iterator is advanced. -/
def handlerReturns (dispatch : Dispatch) : Dispatch :=
  if dispatch.event.stopProcessingFlag then { dispatch with position := .finished }
  else if dispatch.entryErased then { dispatch with position := .lost }
  else dispatch.goTo dispatch.following

/-- One step, while a handler runs. -/
def step (dispatch : Dispatch) (label : Label) : Option Dispatch :=
  if dispatch.position.current = none then none
  else
    match label with
    | .call call => some (dispatch.runCall call)
    | .act action => some { dispatch with event := dispatch.event.act action }
    | .handlerReturns => some dispatch.handlerReturns

/-- A subscriber that was subscribed to the event all the time. -/
def Stays (dispatch : Dispatch) (subscriber : SubscriberPtr) : Prop :=
  ∀ service ∈ dispatch.tables, subscriber ∈ service.interested dispatch.event.eventName

/-- No iterator is advanced behind an erased entry, and who stays subscribed is called once,
unless the event is stopped. -/
structure Tolerates (dispatch : Dispatch) : Prop where
  notLost : dispatch.position ≠ .lost
  atMostOnce : ∀ subscriber, dispatch.Stays subscriber →
    dispatch.received.count subscriber ≤ 1
  once : dispatch.position = .finished → dispatch.event.stopProcessingFlag = false →
    ∀ subscriber, dispatch.Stays subscriber → dispatch.received.count subscriber = 1

/-- When a handler returns and the event is not stopped, its own entry was not erased, and
the loop does not come to somebody who was called before and has stayed subscribed. -/
def Undisturbed (dispatch : Dispatch) : Label → Prop
  | .call _ => True
  | .act _ => True
  | .handlerReturns => dispatch.event.stopProcessingFlag = true ∨
      dispatch.entryErased = false ∧
        ∀ position ∈ dispatch.following, ∀ subscriber ∈ position.current,
          subscriber ∈ dispatch.received → ¬ dispatch.Stays subscriber

/-! ## The next entry -/

theorem pairwise_lt_toList (subscribers : ExtTreeSet SubscriberPtr) :
    subscribers.toList.Pairwise (· < ·) :=
  subscribers.ordered_toList.imp Nat.compare_eq_lt.mp

theorem nextEntry_eq_some {subscribers : ExtTreeSet SubscriberPtr}
    {current : Option SubscriberPtr} {next : SubscriberPtr}
    (hnext : nextEntry subscribers current = some next) :
    next ∈ subscribers ∧ (∀ subscriber ∈ current, subscriber < next) ∧
      ∀ other ∈ subscribers, (∀ subscriber ∈ current, subscriber < other) → next ≤ other := by
  obtain ⟨hbehind, earlier, later, hlist, hearlier⟩ :=
    List.find?_eq_some_iff_append.mp hnext
  have hsorted := pairwise_lt_toList subscribers
  rw [hlist] at hsorted
  refine ⟨?_, by simpa [Option.all_eq_true] using hbehind, fun other hother hcurrent => ?_⟩
  · rw [← ExtTreeSet.mem_toList, hlist]
    simp
  · rw [← ExtTreeSet.mem_toList, hlist, List.mem_append, List.mem_cons] at hother
    rcases hother with hbefore | rfl | hafter
    · have hnot := hearlier other hbefore
      have hall : current.all (· < other) = true := by
        rw [Option.all_eq_true]
        simpa using hcurrent
      simp [hall] at hnot
    · exact le_rfl
    · have htail := (List.pairwise_append.mp hsorted).2.1
      exact ((List.pairwise_cons.mp htail).1 other hafter).le

theorem nextEntry_eq_none {subscribers : ExtTreeSet SubscriberPtr}
    {current : Option SubscriberPtr} (hnext : nextEntry subscribers current = none) :
    ∀ other ∈ subscribers, ¬ ∀ subscriber ∈ current, subscriber < other := by
  intro other hother hcurrent
  have hnot := List.find?_eq_none.mp hnext other (ExtTreeSet.mem_toList.mpr hother)
  apply hnot
  rw [Option.all_eq_true]
  simpa using hcurrent

/-- Between an entry and the next there is none. -/
theorem eq_of_nextEntry {table : ExtTreeSet SubscriberPtr} {current next : SubscriberPtr}
    (hnext : nextEntry table (some current) = some next) {subscriber : SubscriberPtr}
    (hmem : subscriber ∈ table) (hafter : ¬ subscriber ≤ current) (hle : subscriber ≤ next) :
    subscriber = next := by
  obtain ⟨-, -, hleast⟩ := nextEntry_eq_some hnext
  apply le_antisymm hle
  apply hleast subscriber hmem
  simpa using hafter

/-! ## A call never moves a subscriber to a name while it stays subscribed -/

theorem view_eq_all_iff {service : SubscriptionService} {subscriber : SubscriberPtr} :
    service.view subscriber = .all ↔ subscriber ∈ service.allEventSubscriptions := by
  constructor
  · intro hview
    by_contra hall
    rw [SubscriptionService.view_of_not_mem_all hall] at hview
    cases hview
  · exact SubscriptionService.view_of_mem_all

/-- From the view of all events a call leads to the same or to nothing. -/
theorem act_all (call : SubscriptionService.Call) :
    (call.act .all).1 = .all ∨ (call.act .all).1 = .nothing := by
  cases call with
  | subscribe subscriber => exact .inl rfl
  | subscribeEvents eventsList subscriber => exact .inl rfl
  | subscribeIterable iterable subscriber => exact .inl rfl
  | unsubscribe subscriber => exact .inr rfl
  | unsubscribeEvents eventsList subscriber => exact .inl rfl

theorem not_mem_row_exec_of_mem_all {service : SubscriptionService}
    (hservice : service.Consistent) (call : SubscriptionService.Call)
    {subscriber : SubscriberPtr} (hall : subscriber ∈ service.allEventSubscriptions)
    (eventName : String) :
    subscriber ∉ row (service.exec call).1.namedEventSubscriptions eventName := by
  have hview : (service.exec call).1.view subscriber = .all ∨
      (service.exec call).1.view subscriber = .nothing := by
    by_cases hsame : subscriber = call.subscriber
    · subst hsame
      have hact : (service.exec call).1.view call.subscriber = (call.act .all).1 := by
        rw [← SubscriptionService.view_of_mem_all hall]
        exact congrArg Prod.fst (SubscriptionService.view_exec_self hservice call)
      rw [hact]
      exact act_all call
    · rw [SubscriptionService.view_exec_other call hsame]
      exact .inl (SubscriptionService.view_of_mem_all hall)
  rcases hview with hstill | hnothing
  · exact (hservice.exec call).disjoint subscriber eventName (view_eq_all_iff.mp hstill)
  · intro hrow
    have hhears : ((service.exec call).1.view subscriber).Hears eventName :=
      SubscriptionService.mem_interested.mp
        (List.mem_append_left _ (ExtTreeSet.mem_toList.mpr hrow))
    rw [hnothing] at hhears
    exact absurd hhears (Finset.notMem_empty eventName)

theorem mem_interested_iff {service : SubscriptionService} {eventName : String}
    {subscriber : SubscriberPtr} :
    subscriber ∈ service.interested eventName ↔
      subscriber ∈ row service.namedEventSubscriptions eventName ∨
        subscriber ∈ service.allEventSubscriptions := by
  rw [SubscriptionService.interested, List.mem_append, ExtTreeSet.mem_toList,
    ExtTreeSet.mem_toList]

/-! ## What the loops leave behind them -/

/-- The entries the loops have passed. -/
def Behind (dispatch : Dispatch) (subscriber : SubscriberPtr) : Prop :=
  match dispatch.position with
  | .named current =>
      subscriber ∈ row dispatch.service.namedEventSubscriptions dispatch.event.eventName ∧
        subscriber ≤ current
  | .all current =>
      subscriber ∈ row dispatch.service.namedEventSubscriptions dispatch.event.eventName ∨
        subscriber ≤ current
  | .finished => dispatch.event.stopProcessingFlag = false
  | .lost => False

/-- Whoever has stayed subscribed and is behind the loops was called. -/
structure Covers (dispatch : Dispatch) : Prop where
  consistent : dispatch.service.Consistent
  current : dispatch.service ∈ dispatch.tables
  called : ∀ subscriber, dispatch.Stays subscriber → dispatch.Behind subscriber →
    subscriber ∈ dispatch.received

variable {dispatch : Dispatch}

/-- Who stays subscribed is in one of the tables now. -/
theorem Covers.stays (hcovers : dispatch.Covers) {subscriber : SubscriberPtr}
    (hstays : dispatch.Stays subscriber) :
    subscriber ∈ row dispatch.service.namedEventSubscriptions dispatch.event.eventName ∨
      subscriber ∈ dispatch.service.allEventSubscriptions :=
  mem_interested_iff.mp (hstays dispatch.service hcovers.current)

/-- The iterator gets to the second loop, whose subscribers are all ahead. -/
theorem called_firstAll (hcurrent : dispatch.service ∈ dispatch.tables)
    (hnamed : ∀ subscriber, dispatch.Stays subscriber →
      subscriber ∈ row dispatch.service.namedEventSubscriptions dispatch.event.eventName →
        subscriber ∈ dispatch.received) (subscriber : SubscriberPtr)
    (hstays : (dispatch.goTo (firstAll dispatch.service)).Stays subscriber)
    (hbehind : (dispatch.goTo (firstAll dispatch.service)).Behind subscriber) :
    subscriber ∈ (dispatch.goTo (firstAll dispatch.service)).received := by
  cases hfirst : nextEntry dispatch.service.allEventSubscriptions none with
  | none =>
      have hend : dispatch.goTo (firstAll dispatch.service) =
          { dispatch with position := .finished } := by
        rw [firstAll, hfirst]
        rfl
      rw [hend] at hstays ⊢
      rcases mem_interested_iff.mp (hstays dispatch.service hcurrent) with hrow | hall
      · exact hnamed subscriber hstays hrow
      · exact absurd (by simp) (nextEntry_eq_none hfirst subscriber hall)
  | some first =>
      have hvisit : dispatch.goTo (firstAll dispatch.service) =
          dispatch.visit (.all first) := by
        rw [firstAll, hfirst]
        rfl
      rw [hvisit] at hstays hbehind ⊢
      obtain ⟨-, -, hleast⟩ := nextEntry_eq_some hfirst
      rcases mem_interested_iff.mp (hstays dispatch.service hcurrent) with hrow | hall
      · exact List.mem_append_left _ (hnamed subscriber hstays hrow)
      · rcases hbehind with hrow | hle
        · exact List.mem_append_left _ (hnamed subscriber hstays hrow)
        · have hsame : subscriber = first :=
            le_antisymm hle (hleast subscriber hall (by simp))
          exact List.mem_append_right _ (by simp [hsame, Position.current])

theorem Covers.following_named (hcovers : dispatch.Covers) {current : SubscriberPtr}
    (hposition : dispatch.position = .named current) (subscriber : SubscriberPtr)
    (hstays : (dispatch.goTo dispatch.following).Stays subscriber)
    (hbehind : (dispatch.goTo dispatch.following).Behind subscriber) :
    subscriber ∈ (dispatch.goTo dispatch.following).received := by
  cases hnext : nextEntry
      (row dispatch.service.namedEventSubscriptions dispatch.event.eventName)
      (some current) with
  | none =>
      have hgo : dispatch.goTo dispatch.following =
          dispatch.goTo (firstAll dispatch.service) := by
        simp [Dispatch.following, hposition, hnext]
      rw [hgo] at hstays hbehind ⊢
      apply called_firstAll hcovers.current _ subscriber hstays hbehind
      intro other hother hrow
      apply hcovers.called other hother
      have hle := nextEntry_eq_none hnext other hrow
      simp only [Option.mem_def, Option.some.injEq, forall_eq', not_lt] at hle
      simpa [Behind, hposition] using ⟨hrow, hle⟩
  | some next =>
      have hgo : dispatch.goTo dispatch.following = dispatch.visit (.named next) := by
        simp [Dispatch.following, hposition, hnext, goTo]
      rw [hgo] at hstays hbehind ⊢
      obtain ⟨hrow, hle⟩ := hbehind
      by_cases hpassed : subscriber ≤ current
      · apply List.mem_append_left
        apply hcovers.called subscriber hstays
        simpa [Behind, hposition] using ⟨hrow, hpassed⟩
      · have hsame : subscriber = next := eq_of_nextEntry hnext hrow hpassed hle
        exact List.mem_append_right _ (by simp [hsame, Position.current])

theorem Covers.following_all (hcovers : dispatch.Covers) {current : SubscriberPtr}
    (hposition : dispatch.position = .all current) (subscriber : SubscriberPtr)
    (hstays : (dispatch.goTo dispatch.following).Stays subscriber)
    (hbehind : (dispatch.goTo dispatch.following).Behind subscriber) :
    subscriber ∈ (dispatch.goTo dispatch.following).received := by
  have hcalled : ∀ other, dispatch.Stays other →
      (other ∈ row dispatch.service.namedEventSubscriptions dispatch.event.eventName ∨
        other ≤ current) → other ∈ dispatch.received := by
    intro other hother hpassed
    apply hcovers.called other hother
    simpa [Behind, hposition] using hpassed
  cases hnext : nextEntry dispatch.service.allEventSubscriptions (some current) with
  | none =>
      have hgo : dispatch.goTo dispatch.following =
          { dispatch with position := .finished } := by
        simp [Dispatch.following, hposition, hnext, goTo]
      rw [hgo] at hstays ⊢
      apply hcalled subscriber hstays
      refine (hcovers.stays hstays).imp_right fun hall => ?_
      simpa using nextEntry_eq_none hnext subscriber hall
  | some next =>
      have hgo : dispatch.goTo dispatch.following = dispatch.visit (.all next) := by
        simp [Dispatch.following, hposition, hnext, goTo]
      rw [hgo] at hstays hbehind ⊢
      by_cases hpassed : subscriber ≤ current
      · exact List.mem_append_left _ (hcalled subscriber hstays (.inr hpassed))
      · rcases hcovers.stays hstays with hrow | hall
        · exact List.mem_append_left _ (hcalled subscriber hstays (.inl hrow))
        · rcases hbehind with hrow | hle
          · exact List.mem_append_left _ (hcalled subscriber hstays (.inl hrow))
          · have hsame : subscriber = next := eq_of_nextEntry hnext hall hpassed hle
            exact List.mem_append_right _ (by simp [hsame, Position.current])

/-- Advancing the iterator leaves nobody out. -/
theorem Covers.following (hcovers : dispatch.Covers) (subscriber : SubscriberPtr)
    (hstays : (dispatch.goTo dispatch.following).Stays subscriber)
    (hbehind : (dispatch.goTo dispatch.following).Behind subscriber)
    (hrunning : dispatch.position.current ≠ none) :
    subscriber ∈ (dispatch.goTo dispatch.following).received := by
  cases hposition : dispatch.position with
  | named current => exact hcovers.following_named hposition subscriber hstays hbehind
  | all current => exact hcovers.following_all hposition subscriber hstays hbehind
  | finished => exact absurd (by simp [hposition, Position.current]) hrunning
  | lost => exact absurd (by simp [hposition, Position.current]) hrunning

theorem Covers.runCall (hcovers : dispatch.Covers) (call : SubscriptionService.Call)
    (hrunning : dispatch.position.current ≠ none) : (dispatch.runCall call).Covers where
  consistent := hcovers.consistent.exec call
  current := List.mem_append_right _ (List.mem_singleton_self _)
  called := by
    intro subscriber hstays hbehind
    have hbefore : dispatch.Stays subscriber := fun service hservice =>
      hstays service (List.mem_append_left _ hservice)
    -- Who is under the name after the call and has stayed was there before it.
    have hrow :
        subscriber ∈ row (dispatch.service.exec call).1.namedEventSubscriptions
          dispatch.event.eventName →
        subscriber ∈ row dispatch.service.namedEventSubscriptions
          dispatch.event.eventName := by
      intro hafter
      apply (hcovers.stays hbefore).resolve_right
      intro hall
      exact not_mem_row_exec_of_mem_all hcovers.consistent call hall _ hafter
    apply hcovers.called subscriber hbefore
    cases hposition : dispatch.position with
    | named current =>
        simp only [Behind, Dispatch.runCall, hposition] at hbehind ⊢
        exact hbehind.imp_left hrow
    | all current =>
        simp only [Behind, Dispatch.runCall, hposition] at hbehind ⊢
        exact hbehind.imp_left hrow
    | finished => exact absurd (by simp [hposition, Position.current]) hrunning
    | lost => exact absurd (by simp [hposition, Position.current]) hrunning

theorem goTo_service (dispatch : Dispatch) (position : Option Position) :
    (dispatch.goTo position).service = dispatch.service := by
  cases position with
  | none => rfl
  | some position => rfl

theorem goTo_tables (dispatch : Dispatch) (position : Option Position) :
    (dispatch.goTo position).tables = dispatch.tables := by
  cases position with
  | none => rfl
  | some position => rfl

theorem Covers.handlerReturns (hcovers : dispatch.Covers)
    (hrunning : dispatch.position.current ≠ none) : dispatch.handlerReturns.Covers := by
  unfold Dispatch.handlerReturns
  split
  case isTrue hstop =>
      refine ⟨hcovers.consistent, hcovers.current, fun subscriber _ hbehind => ?_⟩
      have hclear : dispatch.event.stopProcessingFlag = false := hbehind
      rw [hstop] at hclear
      cases hclear
  case isFalse hgoes =>
      split
      · exact ⟨hcovers.consistent, hcovers.current, fun _ _ hbehind => absurd hbehind not_false⟩
      · refine ⟨?_, ?_, fun subscriber hstays hbehind =>
          hcovers.following subscriber hstays hbehind hrunning⟩
        · rw [goTo_service]
          exact hcovers.consistent
        · rw [goTo_service, goTo_tables]
          exact hcovers.current

theorem Covers.step {next : Dispatch} {label : Label} (hcovers : dispatch.Covers)
    (hstep : dispatch.step label = some next) : next.Covers := by
  obtain ⟨hrunning, hstep⟩ := Option.ite_none_left_eq_some.mp hstep
  cases label with
  | call call =>
      obtain rfl := Option.some.inj hstep
      exact hcovers.runCall call hrunning
  | act action =>
      obtain rfl := Option.some.inj hstep
      refine ⟨hcovers.consistent, hcovers.current, fun subscriber hstays hbehind => ?_⟩
      simp only [Stays, Event.act_eventName] at hstays
      apply hcovers.called subscriber hstays
      cases hposition : dispatch.position with
      | named current => simpa [Behind, hposition] using hbehind
      | all current => simpa [Behind, hposition] using hbehind
      | finished => exact absurd (by simp [hposition, Position.current]) hrunning
      | lost => exact absurd (by simp [hposition, Position.current]) hrunning
  | handlerReturns =>
      obtain rfl := Option.some.inj hstep
      exact hcovers.handlerReturns hrunning

theorem covers_start {service : SubscriptionService} (hservice : service.Consistent)
    (event : Event) : (start service event).Covers := by
  let dispatch : Dispatch := ⟨service, event, .finished, false, [], [service]⟩
  have hcurrent : dispatch.service ∈ dispatch.tables := List.mem_singleton_self service
  unfold start
  split
  case h_1 first hfirst =>
      refine ⟨hservice, hcurrent, fun subscriber _ hbehind => ?_⟩
      obtain ⟨-, -, hleast⟩ := nextEntry_eq_some hfirst
      obtain ⟨hrow, hle⟩ := hbehind
      have hsame : subscriber = first :=
        le_antisymm hle (hleast subscriber hrow (by simp))
      simp [visit, Position.current, hsame]
  case h_2 hnone =>
      split
      case isTrue hstop =>
          refine ⟨hservice, hcurrent, fun subscriber _ hbehind => ?_⟩
          have hclear : event.stopProcessingFlag = false := hbehind
          rw [hstop] at hclear
          cases hclear
      case isFalse hgoes =>
          refine ⟨?_, ?_, fun subscriber hstays hbehind =>
            called_firstAll hcurrent (fun other _ hrow => ?_) subscriber hstays hbehind⟩
          · rw [goTo_service]
            exact hservice
          · rw [goTo_service, goTo_tables]
            exact hcurrent
          · exact absurd (by simp) (nextEntry_eq_none hnone other hrow)

/-! ## Tolerance -/

/-- That nobody is left out needs no condition. -/
theorem Covers.tolerates_iff (hcovers : dispatch.Covers) :
    dispatch.Tolerates ↔ dispatch.position ≠ .lost ∧
      ∀ subscriber, dispatch.Stays subscriber → dispatch.received.count subscriber ≤ 1 := by
  constructor
  · intro htolerates
    exact ⟨htolerates.notLost, htolerates.atMostOnce⟩
  · rintro ⟨hlost, honce⟩
    refine ⟨hlost, honce, fun hfinished hstop subscriber hstays => ?_⟩
    have hcalled : subscriber ∈ dispatch.received := by
      apply hcovers.called subscriber hstays
      simpa [Behind, hfinished] using hstop
    have hpositive := List.count_pos_iff.mpr hcalled
    have hmost := honce subscriber hstays
    omega

theorem current_of_firstAll {service : SubscriptionService} {position : Position}
    (hfirst : firstAll service = some position) :
    ∃ subscriber, position.current = some subscriber := by
  obtain ⟨subscriber, -, rfl⟩ := Option.map_eq_some_iff.mp hfirst
  exact ⟨subscriber, rfl⟩

/-- The loops go on to a handler. -/
theorem current_of_following {position : Position} (hnext : dispatch.following = some position) :
    ∃ subscriber, position.current = some subscriber := by
  unfold Dispatch.following at hnext
  split at hnext
  case h_1 =>
      rcases Option.or_eq_some_iff.mp hnext with hrow | ⟨-, hfirst⟩
      · obtain ⟨subscriber, -, rfl⟩ := Option.map_eq_some_iff.mp hrow
        exact ⟨subscriber, rfl⟩
      · exact current_of_firstAll hfirst
  case h_2 =>
      obtain ⟨subscriber, -, rfl⟩ := Option.map_eq_some_iff.mp hnext
      exact ⟨subscriber, rfl⟩
  case h_3 => cases hnext
  case h_4 => cases hnext

/-- Calling one more subscriber is tolerated when it was not called before, or has not
stayed. -/
theorem visit_tolerates_iff (htolerates : dispatch.Tolerates) {position : Position}
    {subscriber : SubscriberPtr} (hcurrent : position.current = some subscriber)
    (hafter : (dispatch.visit position).Covers) :
    (dispatch.visit position).Tolerates ↔
      (subscriber ∈ dispatch.received → ¬ dispatch.Stays subscriber) := by
  have hreceived : (dispatch.visit position).received = dispatch.received ++ [subscriber] := by
    rw [visit, hcurrent]
    rfl
  have hlost : (dispatch.visit position).position ≠ .lost := by
    rintro hlost
    rw [show position = .lost from hlost] at hcurrent
    cases hcurrent
  rw [hafter.tolerates_iff, and_iff_right hlost, hreceived]
  constructor
  · intro honce hcalled hstays
    have hcount := honce subscriber hstays
    have hbefore := List.count_pos_iff.mpr hcalled
    rw [List.count_append, List.count_singleton_self] at hcount
    omega
  · intro hnew other hstays
    have hmost := htolerates.atMostOnce other hstays
    by_cases hsame : other = subscriber
    · subst hsame
      have hnone : dispatch.received.count other = 0 :=
        List.count_eq_zero.mpr fun hcalled => hnew hcalled hstays
      rw [List.count_append, hnone, List.count_singleton_self]
    · rw [List.count_append, List.count_singleton]
      simpa [Ne.symm hsame] using hmost

theorem handlerReturns_tolerates_iff (htolerates : dispatch.Tolerates)
    (hafter : dispatch.handlerReturns.Covers) :
    dispatch.handlerReturns.Tolerates ↔ dispatch.Undisturbed .handlerReturns := by
  by_cases hstop : dispatch.event.stopProcessingFlag = true
  · refine iff_of_true (hafter.tolerates_iff.mpr ?_) (.inl hstop)
    rw [handlerReturns, if_pos hstop]
    exact ⟨Position.noConfusion, htolerates.atMostOnce⟩
  · have hgoes : dispatch.handlerReturns =
        if dispatch.entryErased then { dispatch with position := .lost }
        else dispatch.goTo dispatch.following := if_neg hstop
    rw [hgoes] at hafter ⊢
    simp only [Undisturbed, hstop, Bool.false_eq_true, false_or]
    by_cases herased : dispatch.entryErased = true
    · rw [if_pos herased]
      refine iff_of_false (fun hlost => hlost.notLost rfl) ?_
      simp [herased]
    · rw [if_neg herased] at hafter ⊢
      simp only [herased, true_and, Bool.not_eq_true] at *
      cases hnext : dispatch.following with
      | none =>
          rw [hnext] at hafter
          refine iff_of_true (hafter.tolerates_iff.mpr ?_) (by simp)
          exact ⟨Position.noConfusion, htolerates.atMostOnce⟩
      | some position =>
          rw [hnext] at hafter
          obtain ⟨subscriber, hcurrent⟩ := current_of_following hnext
          rw [show dispatch.goTo (some position) = dispatch.visit position from rfl] at *
          rw [visit_tolerates_iff htolerates hcurrent hafter]
          simp [hcurrent]

/-- One step keeps the tolerance if and only if it is undisturbed. -/
theorem step_tolerates_iff {next : Dispatch} {label : Label} (hcovers : dispatch.Covers)
    (htolerates : dispatch.Tolerates) (hstep : dispatch.step label = some next) :
    next.Tolerates ↔ dispatch.Undisturbed label := by
  have hafter := hcovers.step hstep
  obtain ⟨hrunning, hstep⟩ := Option.ite_none_left_eq_some.mp hstep
  cases label with
  | call call =>
      obtain rfl := Option.some.inj hstep
      refine iff_of_true (hafter.tolerates_iff.mpr ⟨htolerates.notLost, ?_⟩) trivial
      intro subscriber hstays
      exact htolerates.atMostOnce subscriber fun service hservice =>
        hstays service (List.mem_append_left _ hservice)
  | act action =>
      obtain rfl := Option.some.inj hstep
      refine iff_of_true (hafter.tolerates_iff.mpr ⟨htolerates.notLost, ?_⟩) trivial
      intro subscriber hstays
      simp only [Stays, Event.act_eventName] at hstays
      exact htolerates.atMostOnce subscriber hstays
  | handlerReturns =>
      obtain rfl := Option.some.inj hstep
      exact handlerReturns_tolerates_iff htolerates hafter

/-- At the start at most one handler has been called. -/
theorem start_spec (service : SubscriptionService) (event : Event) :
    (start service event).position ≠ .lost ∧ (start service event).received.length ≤ 1 := by
  unfold start
  split
  case h_1 first _ => exact ⟨Position.noConfusion, le_rfl⟩
  case h_2 =>
      split
      · exact ⟨Position.noConfusion, Nat.zero_le 1⟩
      · cases hfirst : nextEntry service.allEventSubscriptions none with
        | none =>
            rw [firstAll, hfirst]
            exact ⟨Position.noConfusion, Nat.zero_le 1⟩
        | some first =>
            rw [firstAll, hfirst]
            exact ⟨Position.noConfusion, le_rfl⟩

theorem tolerates_start {service : SubscriptionService} (hservice : service.Consistent)
    (event : Event) : (start service event).Tolerates := by
  obtain ⟨hlost, hlength⟩ := start_spec service event
  exact (covers_start hservice event).tolerates_iff.mpr
    ⟨hlost, fun subscriber _ => List.count_le_length.trans hlength⟩

/-- From any reachable tables, and with any changes of the subscriptions while the handlers
run, the dispatch is tolerant throughout if and only if no return to the loops is
disturbed. -/
theorem dispatch_tolerates_iff {service : SubscriptionService} (hreach : service.Reachable)
    (event : Event) (labels : List Label) :
    Runs.Throughout step Tolerates (start service event) labels ↔
      Runs.Guarded step Undisturbed (start service event) labels := by
  have haux : ∀ dispatch label next, Covers dispatch → Tolerates dispatch →
      step dispatch label = some next → Covers next :=
    fun _ _ _ hcovers _ hstep => hcovers.step hstep
  have hstep : ∀ dispatch label next, Covers dispatch → Tolerates dispatch →
      step dispatch label = some next → (Tolerates next ↔ Undisturbed dispatch label) :=
    fun _ _ _ hcovers htolerates hstep => step_tolerates_iff hcovers htolerates hstep
  exact Runs.throughout_iff_guarded haux hstep (covers_start hreach.consistent event)
    (tolerates_start hreach.consistent event)

/-- Two subscribers to one name. -/
def twoNamed : SubscriptionService :=
  ((SubscriptionService.new.exec (.subscribeEvents ["ObjectAdded"] 3)).1.exec
    (.subscribeEvents ["ObjectAdded"] 5)).1

theorem reachable_twoNamed : twoNamed.Reachable :=
  ⟨[.subscribeEvents ["ObjectAdded"] 3, .subscribeEvents ["ObjectAdded"] 5], rfl⟩

/-- The second subscriber goes while the handler of the first runs. -/
theorem dispatch_tolerates_iff_other_leaves :
    Runs.Throughout step Tolerates (start twoNamed (.new "ObjectAdded"))
        [.call (.unsubscribe 5), .handlerReturns] ↔
      Runs.Guarded step Undisturbed (start twoNamed (.new "ObjectAdded"))
        [.call (.unsubscribe 5), .handlerReturns] :=
  dispatch_tolerates_iff reachable_twoNamed _ _

/-- A handler that unsubscribes itself leaves a dead iterator, and one that subscribes an
earlier subscriber to all events has it called again. -/
theorem own_entry_lost_and_called_twice :
    (∃ dispatch, Runs.run step (start twoNamed (.new "ObjectAdded"))
        [.call (.unsubscribe 3), .handlerReturns] = some dispatch ∧
      dispatch.position = .lost ∧ ¬ dispatch.Tolerates) ∧
    ∃ dispatch, Runs.run step (start twoNamed (.new "ObjectAdded"))
        [.handlerReturns, .call (.subscribe 3), .handlerReturns, .handlerReturns] =
          some dispatch ∧
      dispatch.position = .finished ∧ dispatch.received = [3, 5, 3] ∧
      ¬ dispatch.Tolerates := by
  constructor
  · obtain ⟨dispatch, hrun, hlost⟩ := (Option.any_eq_true _ _).mp
      (show (Runs.run step (start twoNamed (.new "ObjectAdded"))
          [.call (.unsubscribe 3), .handlerReturns]).any
            (fun dispatch => decide (dispatch.position = .lost)) = true by decide +kernel)
    have hlost := of_decide_eq_true hlost
    exact ⟨dispatch, hrun, hlost, fun htolerates => htolerates.notLost hlost⟩
  · obtain ⟨dispatch, hrun, hend⟩ := (Option.any_eq_true _ _).mp
      (show (Runs.run step (start twoNamed (.new "ObjectAdded"))
          [.handlerReturns, .call (.subscribe 3), .handlerReturns, .handlerReturns]).any
            (fun dispatch => decide (dispatch.position = .finished ∧
              dispatch.received = [3, 5, 3] ∧ ∀ service ∈ dispatch.tables,
                3 ∈ service.interested dispatch.event.eventName)) = true by decide +kernel)
    obtain ⟨hfinished, hreceived, hstays⟩ := of_decide_eq_true hend
    refine ⟨dispatch, hrun, hfinished, hreceived, fun htolerates => ?_⟩
    have honce := htolerates.atMostOnce 3 hstays
    rw [hreceived] at honce
    exact absurd honce (by decide)

end Dispatch

end Mbstf.Subscription
