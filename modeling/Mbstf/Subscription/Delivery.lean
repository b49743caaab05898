import Mbstf.Subscription.Event
import Mbstf.Subscription.View

/-!
# Synchronous delivery

`sendEventSynchronous` walks the subscribers of the event's name and then the
all-events subscribers, calling `processEvent` on each with the mutex released.
Here the handlers leave the subscriptions alone and return normally; they may
read and change a world of their own, and raise the flags of the event.
-/

namespace Mbstf.Subscription

open Std
open Mbstf.SetIndex

variable {World : Type*}

/-- The `processEvent` overrides: what the handler of a subscriber does to the
world, and what it calls on the event. -/
abbrev Handler (World : Type*) := SubscriberPtr → World → Event → World × List Event.Action

/-- One call of `processEvent`: the subscriber called, the world and the event it was
called with, and what it called on the event. -/
structure HandlerCall (World : Type*) where
  subscriber : SubscriberPtr
  world : World
  event : Event
  actions : List Event.Action

namespace HandlerCall

/-- The call did to its event what the handler does there. -/
def By (handler : Handler World) (call : HandlerCall World) : Prop :=
  call.actions = (handler call.subscriber call.world call.event).2

def Stops (call : HandlerCall World) : Prop := .stopProcessing ∈ call.actions

def Prevents (call : HandlerCall World) : Prop := .preventDefault ∈ call.actions

instance (call : HandlerCall World) : Decidable call.Stops :=
  inferInstanceAs (Decidable (_ ∈ _))

instance (call : HandlerCall World) : Decidable call.Prevents :=
  inferInstanceAs (Decidable (_ ∈ _))

end HandlerCall

/-- The state of one delivery: the world, the event, and the calls made so far. -/
structure Delivery (World : Type*) where
  world : World
  event : Event
  calls : List (HandlerCall World)

namespace Delivery

/-- `subsc->processEvent(event, *this)`. -/
def processEvent (handler : Handler World) (subscriber : SubscriberPtr)
    (delivery : Delivery World) : Delivery World :=
  let result := handler subscriber delivery.world delivery.event
  { world := result.1
    event := result.2.foldl Event.act delivery.event
    calls := delivery.calls ++ [⟨subscriber, delivery.world, delivery.event, result.2⟩] }

/-- The body of both loops: a subscriber that stops the event ends the loop. -/
def deliverTo (handler : Handler World) : List SubscriberPtr → Delivery World → Delivery World
  | [], delivery => delivery
  | subscriber :: subscribers, delivery =>
      let after := delivery.processEvent handler subscriber
      if after.event.stopProcessingFlag then after
      else deliverTo handler subscribers after

end Delivery

namespace SubscriptionService

/-- `sendEventSynchronous(Event&)`. -/
def sendEventSynchronous (service : SubscriptionService) (handler : Handler World)
    (world : World) (event : Event) : Delivery World × Bool :=
  let named := Delivery.deliverTo handler
    (row service.namedEventSubscriptions event.eventName).toList ⟨world, event, []⟩
  if named.event.stopProcessingFlag then (named, false)
  else
    let all := Delivery.deliverTo handler service.allEventSubscriptions.toList named
    (all, !all.event.preventDefaultFlag)

/-- The subscribers that are to see an event, in the order they are to see it. -/
def interested (service : SubscriptionService) (eventName : String) : List SubscriberPtr :=
  (row service.namedEventSubscriptions eventName).toList ++
    service.allEventSubscriptions.toList

end SubscriptionService

/-- Whether a view lets an event through. -/
def View.Hears {Name : Type*} (eventName : Name) : View Name → Prop
  | .all => True
  | .names held => eventName ∈ held

/-- The handler is called on the subscribers in order, once on each, up to and
including the first on which it stops the event. The first call is given the world and
the event of the start, every later one what the call before it left, and what the last
one leaves is the world and the event at the end. -/
inductive Walk (handler : Handler World) :
    List SubscriberPtr → World → Event → List (HandlerCall World) → World → Event → Prop
  | finished {world : World} {event : Event} : Walk handler [] world event [] world event
  | stopped {subscriber : SubscriberPtr} {subscribers : List SubscriberPtr}
      {world left : World} {event : Event} {actions : List Event.Action} :
      handler subscriber world event = (left, actions) → .stopProcessing ∈ actions →
        Walk handler (subscriber :: subscribers) world event
          [⟨subscriber, world, event, actions⟩] left (actions.foldl Event.act event)
  | continued {subscriber : SubscriberPtr} {subscribers : List SubscriberPtr}
      {world left endWorld : World} {event endEvent : Event} {actions : List Event.Action}
      {calls : List (HandlerCall World)} :
      handler subscriber world event = (left, actions) → .stopProcessing ∉ actions →
        Walk handler subscribers left (actions.foldl Event.act event) calls endWorld endEvent →
          Walk handler (subscriber :: subscribers) world event
            (⟨subscriber, world, event, actions⟩ :: calls) endWorld endEvent

namespace Walk

variable {handler : Handler World} {subscribers later : List SubscriberPtr}
  {world middle endWorld : World} {event between endEvent : Event}
  {calls laterCalls : List (HandlerCall World)}

/-- The subscribers called are an initial segment of those to be called. -/
theorem isPrefix (hwalk : Walk handler subscribers world event calls endWorld endEvent) :
    calls.map HandlerCall.subscriber <+: subscribers := by
  induction hwalk with
  | finished => exact List.prefix_rfl
  | stopped hcall hstops => simp
  | continued hcall hgoes hwalk ih => simpa using ih

/-- Every call did what the handler does. -/
theorem by_handler (hwalk : Walk handler subscribers world event calls endWorld endEvent) :
    ∀ call ∈ calls, call.By handler := by
  induction hwalk with
  | finished => simp
  | stopped hcall hstops => simp [HandlerCall.By, hcall]
  | continued hcall hgoes hwalk ih => simpa [HandlerCall.By, hcall] using ih

/-- A walk that nobody stopped reached everybody. -/
theorem complete (hwalk : Walk handler subscribers world event calls endWorld endEvent)
    (hgoes : ∀ call ∈ calls, ¬ call.Stops) :
    calls.map HandlerCall.subscriber = subscribers := by
  induction hwalk with
  | finished => rfl
  | stopped hcall hstops => exact absurd hstops (hgoes _ List.mem_cons_self)
  | continued _ _ hwalk ih =>
      have hrest := ih fun call hcall => hgoes call (List.mem_cons_of_mem _ hcall)
      simp [hrest]

/-- A walk that was stopped covers any longer list of subscribers. -/
theorem append_of_stopped
    (hwalk : Walk handler subscribers world event calls endWorld endEvent)
    (hstop : ∃ call ∈ calls, call.Stops) :
    Walk handler (subscribers ++ later) world event calls endWorld endEvent := by
  induction hwalk with
  | finished => simp at hstop
  | stopped hcall hstops => exact Walk.stopped hcall hstops
  | continued hcall hgoes hwalk ih =>
      obtain ⟨call, hmem, hstops⟩ := hstop
      rcases List.mem_cons.mp hmem with rfl | hmem
      · exact absurd hstops hgoes
      · exact Walk.continued hcall hgoes (ih ⟨call, hmem, hstops⟩)

/-- A walk that nobody stopped goes on with the next list. -/
theorem append (hwalk : Walk handler subscribers world event calls middle between)
    (hgoes : ∀ call ∈ calls, ¬ call.Stops)
    (hlater : Walk handler later middle between laterCalls endWorld endEvent) :
    Walk handler (subscribers ++ later) world event (calls ++ laterCalls) endWorld endEvent := by
  induction hwalk with
  | finished => exact hlater
  | stopped hcall hstops => exact absurd hstops (hgoes _ List.mem_cons_self)
  | continued hcall hgoesOn hwalk ih =>
      have hrest := ih (fun call hcall => hgoes call (List.mem_cons_of_mem _ hcall)) hlater
      exact Walk.continued hcall hgoesOn hrest

end Walk

namespace Delivery

/-- What every call keeps, a loop keeps. -/
theorem deliverTo_keeps {Kept : Delivery World → Prop} {handler : Handler World}
    (hcall : ∀ subscriber delivery, Kept delivery →
      Kept (processEvent handler subscriber delivery))
    (subscribers : List SubscriberPtr) {delivery : Delivery World} (hkept : Kept delivery) :
    Kept (deliverTo handler subscribers delivery) := by
  induction subscribers generalizing delivery with
  | nil => exact hkept
  | cons subscriber subscribers ih =>
      have hafter : Kept (delivery.processEvent handler subscriber) :=
        hcall subscriber delivery hkept
      rw [deliverTo]
      split
      · exact hafter
      · exact ih hafter

theorem processEvent_stop (handler : Handler World) (subscriber : SubscriberPtr)
    {delivery : Delivery World} (hclear : delivery.event.stopProcessingFlag = false) :
    (delivery.processEvent handler subscriber).event.stopProcessingFlag = true ↔
      Event.Action.stopProcessing ∈
        (handler subscriber delivery.world delivery.event).2 := by
  rw [processEvent, Event.foldl_act_stopProcessingFlag]
  simp [hclear]

/-- What one loop does, started with the stop flag clear: it makes the calls of
a walk, and the flags it leaves are those the calls raised. -/
theorem deliverTo_walk (handler : Handler World) (subscribers : List SubscriberPtr)
    {delivery : Delivery World} (hclear : delivery.event.stopProcessingFlag = false) :
    ∃ calls, (deliverTo handler subscribers delivery).calls = delivery.calls ++ calls ∧
      Walk handler subscribers delivery.world delivery.event calls
        (deliverTo handler subscribers delivery).world
        (deliverTo handler subscribers delivery).event ∧
      ((deliverTo handler subscribers delivery).event.stopProcessingFlag = true ↔
        ∃ call ∈ calls, call.Stops) ∧
      ((deliverTo handler subscribers delivery).event.preventDefaultFlag = true ↔
        delivery.event.preventDefaultFlag = true ∨ ∃ call ∈ calls, call.actions ≠ []) := by
  induction subscribers generalizing delivery with
  | nil =>
      refine ⟨[], ?_, Walk.finished, ?_, ?_⟩
      · simp [deliverTo]
      · simp [deliverTo, hclear]
      · simp [deliverTo]
  | cons subscriber subscribers ih =>
      let call : HandlerCall World := ⟨subscriber, delivery.world, delivery.event,
        (handler subscriber delivery.world delivery.event).2⟩
      have hstop := processEvent_stop handler subscriber hclear
      have hprevent : (delivery.processEvent handler subscriber).event.preventDefaultFlag =
          true ↔ delivery.event.preventDefaultFlag = true ∨ call.actions ≠ [] := by
        rw [processEvent, Event.foldl_act_preventDefaultFlag]
      by_cases hstops : call.Stops
      · have hset := hstop.mpr hstops
        have hdeliver : deliverTo handler (subscriber :: subscribers) delivery =
            delivery.processEvent handler subscriber := by
          simp [deliverTo, hset]
        rw [hdeliver]
        refine ⟨[call], rfl, Walk.stopped rfl hstops, ?_, ?_⟩
        · simp [hset, hstops]
        · simp [hprevent]
      · have hset : (delivery.processEvent handler subscriber).event.stopProcessingFlag =
            false := by
          rw [← Bool.not_eq_true, hstop]
          exact hstops
        have hdeliver : deliverTo handler (subscriber :: subscribers) delivery =
            deliverTo handler subscribers (delivery.processEvent handler subscriber) := by
          simp [deliverTo, hset]
        obtain ⟨calls, hcalls, hwalk, hstopped, hprevented⟩ := ih hset
        rw [hdeliver]
        refine ⟨call :: calls, ?_, Walk.continued rfl hstops hwalk, ?_, ?_⟩
        · rw [hcalls]
          simp [processEvent, call]
        · rw [hstopped]
          simp [hstops]
        · rw [hprevented, hprevent]
          simp [or_assoc]

end Delivery

namespace SubscriptionService

/-- The interested subscribers are those whose view lets the event through. -/
theorem mem_interested {service : SubscriptionService} {eventName : String}
    {subscriber : SubscriberPtr} :
    subscriber ∈ service.interested eventName ↔
      (service.view subscriber).Hears eventName := by
  rw [interested, List.mem_append, ExtTreeSet.mem_toList, ExtTreeSet.mem_toList]
  by_cases hall : subscriber ∈ service.allEventSubscriptions
  · simp [view_of_mem_all hall, View.Hears, hall]
  · simp [view_of_not_mem_all hall, View.Hears, hall, mem_keysOf]

/-- No subscriber is interested twice, since the tables are disjoint. -/
theorem nodup_interested {service : SubscriptionService} (hservice : service.Consistent)
    (eventName : String) : (service.interested eventName).Nodup := by
  apply List.Nodup.append
  · exact nodup_toList _
  · exact nodup_toList _
  · intro subscriber hnamed hall
    rw [ExtTreeSet.mem_toList] at hnamed hall
    exact hservice.disjoint subscriber eventName hall hnamed

section

variable {service : SubscriptionService} {handler : Handler World} {world : World} {event : Event}
  {named : Delivery World}

/-- A send that a subscriber by name stops. -/
theorem sendEventSynchronous_of_stopped
    (hnamed : Delivery.deliverTo handler
      (row service.namedEventSubscriptions event.eventName).toList ⟨world, event, []⟩ = named)
    (hstopped : named.event.stopProcessingFlag = true) :
    service.sendEventSynchronous handler world event = (named, false) := by
  simp only [sendEventSynchronous, hnamed]
  rw [if_pos hstopped]

/-- A send that no subscriber by name stops goes on to the subscribers to all events. -/
theorem sendEventSynchronous_of_clear
    (hnamed : Delivery.deliverTo handler
      (row service.namedEventSubscriptions event.eventName).toList ⟨world, event, []⟩ = named)
    (hclear : named.event.stopProcessingFlag = false) :
    service.sendEventSynchronous handler world event =
      (Delivery.deliverTo handler service.allEventSubscriptions.toList named,
        !(Delivery.deliverTo handler service.allEventSubscriptions.toList
          named).event.preventDefaultFlag) := by
  simp only [sendEventSynchronous, hnamed]
  rw [if_neg]
  simpa using hclear

end

/-- Both loops together, for an event whose flags are clear. -/
theorem sendEventSynchronous_walk (service : SubscriptionService) (handler : Handler World)
    (world : World) {event : Event} (hstop : event.stopProcessingFlag = false)
    (hprevent : event.preventDefaultFlag = false) :
    Walk handler (service.interested event.eventName) world event
        (service.sendEventSynchronous handler world event).1.calls
        (service.sendEventSynchronous handler world event).1.world
        (service.sendEventSynchronous handler world event).1.event ∧
      ((service.sendEventSynchronous handler world event).2 = true ↔
        ∀ call ∈ (service.sendEventSynchronous handler world event).1.calls,
          call.actions = []) := by
  let start : Delivery World := ⟨world, event, []⟩
  have hstart : start.event.stopProcessingFlag = false := hstop
  obtain ⟨named, hnamed, hnamedWalk, hnamedStop, hnamedPrevent⟩ :=
    Delivery.deliverTo_walk handler
      (row service.namedEventSubscriptions event.eventName).toList hstart
  rw [List.nil_append] at hnamed
  simp only [start, hprevent, Bool.false_eq_true, false_or] at hnamedPrevent
  by_cases hstopped : ∃ call ∈ named, call.Stops
  · rw [sendEventSynchronous_of_stopped rfl (hnamedStop.mpr hstopped)]
    refine ⟨?_, ?_⟩
    · rw [hnamed]
      exact hnamedWalk.append_of_stopped hstopped
    · obtain ⟨call, hmem, hcall⟩ := hstopped
      rw [← hnamed] at hmem
      simp only [Bool.false_eq_true, false_iff, not_forall]
      exact ⟨call, hmem, List.ne_nil_of_mem hcall⟩
  · have hclear : (Delivery.deliverTo handler
        (row service.namedEventSubscriptions event.eventName).toList
        start).event.stopProcessingFlag = false := by
      rw [← Bool.not_eq_true, hnamedStop]
      exact hstopped
    obtain ⟨all, hall, hallWalk, -, hallPrevent⟩ :=
      Delivery.deliverTo_walk handler service.allEventSubscriptions.toList hclear
    rw [sendEventSynchronous_of_clear rfl hclear]
    rw [hnamed] at hall
    refine ⟨?_, ?_⟩
    · rw [hall]
      apply hnamedWalk.append
      · intro call hcall hstops
        exact hstopped ⟨call, hcall, hstops⟩
      · exact hallWalk
    · rw [hall, Bool.not_eq_true', ← Bool.not_eq_true, hallPrevent, hnamedPrevent]
      simp only [not_or, not_exists, not_and, ne_eq, not_not, List.mem_append]
      constructor
      · rintro ⟨hfirst, hsecond⟩ call (hcall | hcall)
        · exact hfirst call hcall
        · exact hsecond call hcall
      · intro hboth
        exact ⟨fun call hcall => hboth call (Or.inl hcall),
          fun call hcall => hboth call (Or.inr hcall)⟩

/-- What every call keeps, a send keeps. -/
theorem sendEventSynchronous_keeps {Kept : Delivery World → Prop} {handler : Handler World}
    (hcall : ∀ subscriber delivery, Kept delivery →
      Kept (Delivery.processEvent handler subscriber delivery))
    (service : SubscriptionService) {world : World} {event : Event}
    (hkept : Kept ⟨world, event, []⟩) :
    Kept (service.sendEventSynchronous handler world event).1 := by
  have hnamed : Kept (Delivery.deliverTo handler
      (row service.namedEventSubscriptions event.eventName).toList ⟨world, event, []⟩) :=
    Delivery.deliverTo_keeps hcall _ hkept
  rw [sendEventSynchronous]
  split
  · exact hnamed
  · exact Delivery.deliverTo_keeps hcall _ hnamed

/-- What a synchronous send promises: the handler is called on the interested subscribers
in order, each time on the world and the event that the call before left, up to the
first call that stops the event; those are the subscribers whose view lets the event
through, nobody is called twice, the world and the event at the end are what the last
call left, and the send answers true exactly when no call touched the event. -/
structure DeliversOnce (service : SubscriptionService) (handler : Handler World)
    (world : World) (event : Event) (result : Delivery World × Bool) : Prop where
  walk : Walk handler (service.interested event.eventName) world event
    result.1.calls result.1.world result.1.event
  byHandler : ∀ call ∈ result.1.calls, call.By handler
  interested_iff : ∀ subscriber, subscriber ∈ service.interested event.eventName ↔
    (service.view subscriber).Hears event.eventName
  onlyInterested : ∀ call ∈ result.1.calls,
    (service.view call.subscriber).Hears event.eventName
  once : (result.1.calls.map HandlerCall.subscriber).Nodup
  answer_iff : result.2 = true ↔ ∀ call ∈ result.1.calls, ¬ call.Prevents ∧ ¬ call.Stops

theorem sendEventSynchronous_delivers_once {service : SubscriptionService}
    (hreach : service.Reachable) (handler : Handler World) (world : World) (event : Event)
    (hstop : event.stopProcessingFlag = false)
    (hprevent : event.preventDefaultFlag = false) :
    DeliversOnce service handler world event
      (service.sendEventSynchronous handler world event) := by
  have hservice := hreach.consistent
  obtain ⟨hwalk, hanswer⟩ :=
    service.sendEventSynchronous_walk handler world hstop hprevent
  refine ⟨hwalk, hwalk.by_handler, fun subscriber => mem_interested, ?_, ?_, ?_⟩
  · intro call hcall
    rw [← mem_interested]
    exact hwalk.isPrefix.subset (List.mem_map_of_mem hcall)
  · exact (nodup_interested hservice event.eventName).sublist hwalk.isPrefix.sublist
  · rw [hanswer]
    apply forall₂_congr
    intro call hcall
    rw [HandlerCall.Prevents, HandlerCall.Stops, List.eq_nil_iff_forall_not_mem]
    constructor
    · intro hnone
      exact ⟨hnone _, hnone _⟩
    · rintro ⟨hprevents, hstops⟩ action
      cases action with
      | preventDefault => exact hprevents
      | stopProcessing => exact hstops

theorem sendEventSynchronous_delivers_once_stopped :
    DeliversOnce (new.exec (.subscribe 3)).1
      (fun _ (world : ℕ) _ => (world + 1, [.stopProcessing])) 0 (.new "ObjectAdded")
      ((new.exec (.subscribe 3)).1.sendEventSynchronous
        (fun _ (world : ℕ) _ => (world + 1, [.stopProcessing])) 0 (.new "ObjectAdded")) :=
  sendEventSynchronous_delivers_once ⟨[.subscribe 3], rfl⟩
    (fun _ world _ => (world + 1, [.stopProcessing])) 0 (.new "ObjectAdded") rfl rfl

end SubscriptionService

end Mbstf.Subscription
