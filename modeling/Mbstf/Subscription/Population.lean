import Mbstf.Subscription.View

/-!
# Subscribers and services together

A subscription is recorded twice: in the tables of the service and in
`m_subscriptions` of the subscriber.  Destructors follow these records, so the
two must agree.  A population is the set of live objects with both records, and
the operations below are the public and protected ones of `Subscriber.cc` and
`SubscriptionService.cc` that change a record or the set of live objects.

Objects are named by their addresses, and an address may be used again after a
destruction.  Following a pointer to a dead object has no defined result, which
is the result `none`.
-/

namespace Mbstf.Subscription

open Std
open Mbstf.SetIndex

/-- A `SubscriptionService*`. -/
abbrev ServicePtr := ℕ

/-- The live services with their tables, and the live subscribers with their
`m_subscriptions`. -/
structure Population where
  services : ServicePtr → Option SubscriptionService
  subscriptions : SubscriberPtr → Option (ExtTreeSet ServicePtr)

namespace View

theorem subscribe_ne_nothing (view : View String) : view.subscribe.1 ≠ nothing := by
  cases view with
  | all => simp [subscribe, nothing]
  | names held => simp [subscribe, nothing]

@[simp]
theorem unsubscribe_eq_nothing (view : View String) : view.unsubscribe.1 = nothing := by
  cases view with
  | all => rfl
  | names held => rfl

theorem subscribeNames_ne_nothing {wanted : List String} {view : View String} :
    (view.subscribeNames wanted).1 ≠ nothing ↔ view ≠ nothing ∨ wanted ≠ [] := by
  cases view with
  | all => simp [subscribeNames, nothing]
  | names held =>
      have hempty : held ∪ wanted.toFinset = ∅ ↔ held = ∅ ∧ wanted = [] := by
        rw [Finset.union_eq_empty, List.toFinset_eq_empty_iff]
      simp only [subscribeNames, nothing, ne_eq, names.injEq, hempty]
      tauto

/-- A subscription that answers false left the view as it was. -/
theorem subscribe_fst_of_snd {view : View String} (hret : view.subscribe.2 = false) :
    view.subscribe.1 = view := by
  cases view with
  | all => rfl
  | names held => simp [subscribe] at hret

theorem subscribeNames_fst_of_snd {wanted : List String} {view : View String}
    (hret : (view.subscribeNames wanted).2 = false) :
    (view.subscribeNames wanted).1 = view := by
  cases view with
  | all => rfl
  | names held =>
      have hold : wanted.toFinset ⊆ held := by
        intro name hname
        by_contra hnew
        exact (decide_eq_false_iff_not.mp hret) ⟨name, List.mem_toFinset.mp hname, hnew⟩
      simp only [subscribeNames, Finset.union_eq_left.mpr hold]

/-- A subscription that answers true left something to hear. -/
theorem subscribeNames_ne_nothing_of_snd {wanted : List String} {view : View String}
    (hret : (view.subscribeNames wanted).2 = true) :
    (view.subscribeNames wanted).1 ≠ nothing := by
  rw [subscribeNames_ne_nothing]
  right
  rintro rfl
  cases view with
  | all => simp [subscribeNames] at hret
  | names held => simp [subscribeNames] at hret

end View

namespace SubscriptionService

theorem subscribedEvents_eq_nil_iff {service : SubscriptionService}
    {subscriber : SubscriberPtr} :
    service.subscribedEvents subscriber = [] ↔ service.view subscriber = View.nothing := by
  have hreport := service.subscribedEvents_reports subscriber
  cases hview : service.view subscriber with
  | all =>
      rw [hview] at hreport
      have hevents : service.subscribedEvents subscriber = [none] := hreport
      simp [hevents, View.nothing]
  | names held =>
      rw [hview] at hreport
      rw [List.eq_nil_iff_forall_not_mem, View.nothing, View.names.injEq,
        Finset.eq_empty_iff_forall_notMem]
      constructor
      · intro hnone name hname
        exact hnone (some name) ((hreport.2 _).mpr ⟨name, hname, rfl⟩)
      · intro hnone event hevent
        obtain ⟨name, hname, -⟩ := (hreport.2 event).mp hevent
        exact hnone name hname

/-- The subscribers collected by the destructor, in a `std::set`. -/
def subscribers (service : SubscriptionService) : ExtTreeSet SubscriberPtr :=
  let all := service.allEventSubscriptions.toList.foldl ExtTreeSet.insert ∅
  service.namedEventSubscriptions.toList.foldl
    (fun collected entry => entry.2.toList.foldl ExtTreeSet.insert collected) all

theorem mem_foldl_insert {subscriber : SubscriberPtr} (added : List SubscriberPtr)
    (collected : ExtTreeSet SubscriberPtr) :
    subscriber ∈ added.foldl ExtTreeSet.insert collected ↔
      subscriber ∈ added ∨ subscriber ∈ collected := by
  induction added generalizing collected with
  | nil => simp
  | cons first added ih =>
      rw [List.foldl_cons, ih, mem_insert_iff, List.mem_cons]
      tauto

theorem mem_foldl_rows {subscriber : SubscriberPtr}
    (rows : List (String × ExtTreeSet SubscriberPtr)) (collected : ExtTreeSet SubscriberPtr) :
    subscriber ∈ rows.foldl
        (fun collected entry => entry.2.toList.foldl ExtTreeSet.insert collected) collected ↔
      (∃ entry ∈ rows, subscriber ∈ entry.2) ∨ subscriber ∈ collected := by
  induction rows generalizing collected with
  | nil => simp
  | cons first rows ih =>
      rw [List.foldl_cons, ih, mem_foldl_insert, ExtTreeSet.mem_toList]
      simp only [List.mem_cons, exists_eq_or_imp]
      rw [or_left_comm, or_assoc]

/-- The destructor collects those who hear something. -/
theorem mem_subscribers {service : SubscriptionService} {subscriber : SubscriberPtr} :
    subscriber ∈ service.subscribers ↔ service.view subscriber ≠ View.nothing := by
  have hrows : (∃ entry ∈ service.namedEventSubscriptions.toList, subscriber ∈ entry.2) ↔
      ∃ name, subscriber ∈ row service.namedEventSubscriptions name := by
    rw [← any_mem_iff, List.any_eq_true]
    simp
  rw [subscribers, mem_foldl_rows, mem_foldl_insert, hrows, ExtTreeSet.mem_toList]
  by_cases hall : subscriber ∈ service.allEventSubscriptions
  · simp [view_of_mem_all hall, hall, View.nothing]
  · have hkeys : (keysOf service.namedEventSubscriptions subscriber).toFinset = ∅ ↔
        ∀ name, subscriber ∉ row service.namedEventSubscriptions name := by
      simp only [Finset.eq_empty_iff_forall_notMem, List.mem_toFinset, mem_keysOf]
    simp [view_of_not_mem_all hall, hall, View.nothing, hkeys]

end SubscriptionService

namespace Population

/-- Nothing is alive. -/
def empty : Population where
  services := fun _ => none
  subscriptions := fun _ => none

/-- The view a service has of a subscriber; a dead service has none. -/
def view (population : Population) (service : ServicePtr) (subscriber : SubscriberPtr) :
    View String :=
  (population.services service).elim View.nothing fun tables => tables.view subscriber

/-- The tables of the service list the subscriber for some event. -/
def Lists (population : Population) (service : ServicePtr) (subscriber : SubscriberPtr) :
    Prop :=
  population.view service subscriber ≠ View.nothing

/-- `m_subscriptions` of the subscriber contains the service. -/
def Holds (population : Population) (subscriber : SubscriberPtr) (service : ServicePtr) :
    Prop :=
  service ∈ (population.subscriptions subscriber).getD ∅

instance (population : Population) (service : ServicePtr) (subscriber : SubscriberPtr) :
    Decidable (population.Lists service subscriber) :=
  inferInstanceAs (Decidable (_ ≠ _))

instance (population : Population) (subscriber : SubscriberPtr) (service : ServicePtr) :
    Decidable (population.Holds subscriber service) :=
  inferInstanceAs (Decidable (_ ∈ _))

/-! ## The operations -/

/-- A member function of a service, called through a pointer. -/
def call (population : Population) (service : ServicePtr)
    (request : SubscriptionService.Call) : Option (Population × Bool) :=
  (population.services service).map fun tables =>
    ({ population with
       services :=
         Function.update population.services service (some (tables.exec request).1) },
      (tables.exec request).2)

/-- `m_subscriptions` of a live subscriber is replaced. -/
def setSubscriptions (population : Population) (subscriber : SubscriberPtr)
    (held : Option (ExtTreeSet ServicePtr)) : Population :=
  { population with
    subscriptions := Function.update population.subscriptions subscriber held }

/-- `Subscriber::Subscriber()` at an address that is free. -/
def newSubscriber (population : Population) (subscriber : SubscriberPtr) : Option Population :=
  match population.subscriptions subscriber with
  | some _ => none
  | none => some (population.setSubscriptions subscriber (some ∅))

/-- `SubscriptionService::SubscriptionService()` at an address that is free. -/
def newService (population : Population) (service : ServicePtr) : Option Population :=
  match population.services service with
  | some _ => none
  | none =>
      some { population with
        services := Function.update population.services service (some .new) }

/-- Both `Subscriber::subscribeTo`: the call on the service, then the insertion
when the call answered true. -/
def subscribeVia (population : Population) (subscriber : SubscriberPtr)
    (service : ServicePtr) (request : SubscriptionService.Call) : Option Population := do
  let held ← population.subscriptions subscriber
  let (called, ret) ← population.call service request
  if ret then some (called.setSubscriptions subscriber (some (held.insert service)))
  else some called

/-- `subscribeTo(SubscriptionService&)`. -/
def subscribeTo (population : Population) (subscriber : SubscriberPtr)
    (service : ServicePtr) : Option Population :=
  population.subscribeVia subscriber service (.subscribe subscriber)

/-- `subscribeTo(std::initializer_list<const char*>, SubscriptionService&)`. -/
def subscribeToEvents (population : Population) (subscriber : SubscriberPtr)
    (eventsList : List String) (service : ServicePtr) : Option Population :=
  population.subscribeVia subscriber service (.subscribeEvents eventsList subscriber)

/-- A member function of a live service called from outside, on a live subscriber. -/
def callService (population : Population) (service : ServicePtr)
    (request : SubscriptionService.Call) : Option Population := do
  let _ ← population.subscriptions request.subscriber
  let (called, _) ← population.call service request
  some called

/-- `svc->unsubscribe(*this)`, the body of the "Unsubscribe all" loops. -/
def dropSubscription (subscriber : SubscriberPtr) (population : Population)
    (service : ServicePtr) : Option Population := do
  let (called, _) ← population.call service (.unsubscribe subscriber)
  some called

/-- The subscription that the copying loops make for `*this`, from a list of
event names that is not empty. -/
def copyRequest (target : SubscriberPtr) (eventNames : List (Option String)) :
    SubscriptionService.Call :=
  if eventNames = [none] then .subscribe target
  else .subscribeIterable eventNames.reduceOption target

/-- The body of the "copy subscriptions from other" loops. -/
def copySubscription (target other : SubscriberPtr) (population : Population)
    (service : ServicePtr) : Option Population := do
  let tables ← population.services service
  let eventNames := tables.subscribedEvents other
  if eventNames = [] then some population
  else do
    let (called, _) ← population.call service (copyRequest target eventNames)
    some called

/-- The body of the "copy subscriptions from other and unsubscribe other" loops. -/
def moveSubscription (target other : SubscriberPtr) (population : Population)
    (service : ServicePtr) : Option Population := do
  let tables ← population.services service
  let eventNames := tables.subscribedEvents other
  if eventNames = [] then some population
  else do
    let (called, _) ← population.call service (copyRequest target eventNames)
    dropSubscription other called service

/-- `Subscriber::Subscriber(const Subscriber&)`. -/
def copyConstruct (population : Population) (target other : SubscriberPtr) :
    Option Population := do
  let created ← population.newSubscriber target
  let held ← population.subscriptions other
  held.toList.foldlM (copySubscription target other) created

/-- `Subscriber::Subscriber(Subscriber&&)`. -/
def moveConstruct (population : Population) (target other : SubscriberPtr) :
    Option Population := do
  let created ← population.newSubscriber target
  let held ← population.subscriptions other
  held.toList.foldlM (moveSubscription target other) created

/-- `Subscriber::operator=(const Subscriber&)`. -/
def copyAssign (population : Population) (target other : SubscriberPtr) :
    Option Population := do
  let current ← population.subscriptions target
  let held ← population.subscriptions other
  let dropped ← current.toList.foldlM (dropSubscription target) population
  held.toList.foldlM (copySubscription target other) dropped

/-- `Subscriber::operator=(Subscriber&&)`. -/
def moveAssign (population : Population) (target other : SubscriberPtr) :
    Option Population := do
  let current ← population.subscriptions target
  let held ← population.subscriptions other
  let dropped ← current.toList.foldlM (dropSubscription target) population
  held.toList.foldlM (moveSubscription target other) dropped

/-- `Subscriber::~Subscriber()`. -/
def destroySubscriber (population : Population) (subscriber : SubscriberPtr) :
    Option Population := do
  let held ← population.subscriptions subscriber
  let dropped ← held.toList.foldlM (dropSubscription subscriber) population
  some (dropped.setSubscriptions subscriber none)

/-- `Subscriber::subscriberRemoved(SubscriptionService&)`. -/
def subscriberRemoved (service : ServicePtr) (population : Population)
    (subscriber : SubscriberPtr) : Option Population := do
  let held ← population.subscriptions subscriber
  some (population.setSubscriptions subscriber (some (held.erase service)))

/-- `SubscriptionService::~SubscriptionService()`. -/
def destroyService (population : Population) (service : ServicePtr) : Option Population := do
  let tables ← population.services service
  let removed ← tables.subscribers.toList.foldlM (subscriberRemoved service) population
  some { removed with services := Function.update removed.services service none }

/-- The operations as data. -/
inductive Operation where
  | newService (service : ServicePtr)
  | newSubscriber (subscriber : SubscriberPtr)
  | subscribeTo (subscriber : SubscriberPtr) (service : ServicePtr)
  | subscribeToEvents (subscriber : SubscriberPtr) (eventsList : List String)
      (service : ServicePtr)
  | callService (service : ServicePtr) (request : SubscriptionService.Call)
  | copyConstruct (target other : SubscriberPtr)
  | moveConstruct (target other : SubscriberPtr)
  | copyAssign (target other : SubscriberPtr)
  | moveAssign (target other : SubscriberPtr)
  | destroySubscriber (subscriber : SubscriberPtr)
  | destroyService (service : ServicePtr)

/-- One operation of the program. -/
def step (population : Population) : Operation → Option Population
  | .newService service => population.newService service
  | .newSubscriber subscriber => population.newSubscriber subscriber
  | .subscribeTo subscriber service => population.subscribeTo subscriber service
  | .subscribeToEvents subscriber eventsList service =>
      population.subscribeToEvents subscriber eventsList service
  | .callService service request => population.callService service request
  | .copyConstruct target other => population.copyConstruct target other
  | .moveConstruct target other => population.moveConstruct target other
  | .copyAssign target other => population.copyAssign target other
  | .moveAssign target other => population.moveAssign target other
  | .destroySubscriber subscriber => population.destroySubscriber subscriber
  | .destroyService service => population.destroyService service

/-! ## What the operations do to the two records -/

/-- The tables of every live service are consistent. -/
def Consistent (population : Population) : Prop :=
  ∀ service tables, population.services service = some tables → tables.Consistent

/-- The step from one population to another touched tables only: the same
objects are alive and hold what they held. -/
structure TablesOnly (before after : Population) : Prop where
  subscriptions : after.subscriptions = before.subscriptions
  alive : ∀ service, (after.services service).isSome = (before.services service).isSome
  consistent : after.Consistent

variable {population after : Population} {service : ServicePtr}
  {subscriber target other : SubscriberPtr} {request : SubscriptionService.Call}

theorem TablesOnly.refl (hcons : population.Consistent) : TablesOnly population population :=
  ⟨rfl, fun _ => rfl, hcons⟩

theorem TablesOnly.trans {middle : Population} (hfirst : TablesOnly population middle)
    (hsecond : TablesOnly middle after) : TablesOnly population after where
  subscriptions := hsecond.subscriptions.trans hfirst.subscriptions
  alive := fun service => (hsecond.alive service).trans (hfirst.alive service)
  consistent := hsecond.consistent

theorem TablesOnly.holds (hstep : TablesOnly population after) (subscriber : SubscriberPtr)
    (service : ServicePtr) :
    after.Holds subscriber service ↔ population.Holds subscriber service := by
  rw [Holds, Holds, hstep.subscriptions]

theorem view_of_services {tables : SubscriptionService}
    (hservice : population.services service = some tables) (subscriber : SubscriberPtr) :
    population.view service subscriber = tables.view subscriber := by
  rw [view, hservice, Option.elim_some]

theorem call_tablesOnly (hcons : population.Consistent) {ret : Bool}
    (hcall : population.call service request = some (after, ret)) :
    TablesOnly population after := by
  obtain ⟨tables, htables, heq⟩ := Option.map_eq_some_iff.mp hcall
  cases heq
  refine ⟨rfl, fun other => ?_, fun other updated hother => ?_⟩
  · by_cases hsame : other = service
    · subst hsame
      simp [htables]
    · simp [hsame]
  · by_cases hsame : other = service
    · subst hsame
      obtain rfl : (tables.exec request).1 = updated := by simpa using hother
      exact (hcons other tables htables).exec request
    · exact hcons other updated (by simpa [hsame] using hother)

/-- A call acts on one view, the one of its service and its subscriber. -/
theorem view_call (hcons : population.Consistent) {ret : Bool}
    (hcall : population.call service request = some (after, ret)) (other : ServicePtr)
    (subscriber : SubscriberPtr) :
    after.view other subscriber =
      if other = service ∧ subscriber = request.subscriber then
        (request.act (population.view other subscriber)).1
      else population.view other subscriber := by
  obtain ⟨tables, htables, heq⟩ := Option.map_eq_some_iff.mp hcall
  cases heq
  by_cases hservice : other = service
  · subst hservice
    have hview := congrArg (fun answer => answer.1 subscriber)
      (SubscriptionService.view_exec (hcons other tables htables) request)
    simp only [SubscriptionService.viewStep, Function.update_apply] at hview
    rw [view_of_services htables, view]
    simp only [Function.update_self, Option.elim_some, hview]
    by_cases hsubscriber : subscriber = request.subscriber
    · simp [hsubscriber]
    · simp [hsubscriber]
  · simp [view, hservice]

theorem call_ret (hcons : population.Consistent) {ret : Bool}
    (hcall : population.call service request = some (after, ret)) :
    ret = (request.act (population.view service request.subscriber)).2 := by
  obtain ⟨tables, htables, heq⟩ := Option.map_eq_some_iff.mp hcall
  cases heq
  rw [view_of_services htables]
  exact congrArg Prod.snd (SubscriptionService.view_exec (hcons service tables htables) request)

/-! ### The three loops over `m_subscriptions` -/

theorem dropSubscription_spec (hcons : population.Consistent)
    (hdrop : dropSubscription subscriber population service = some after) :
    TablesOnly population after ∧ ∀ other listed, after.Lists other listed ↔
      population.Lists other listed ∧ ¬ (listed = subscriber ∧ other = service) := by
  obtain ⟨⟨called, ret⟩, hcall, heq⟩ := Option.bind_eq_some_iff.mp hdrop
  cases heq
  refine ⟨call_tablesOnly hcons hcall, fun other listed => ?_⟩
  rw [Lists, Lists, view_call hcons hcall]
  by_cases hself : other = service ∧ listed = subscriber
  · simp [hself, SubscriptionService.Call.subscriber, SubscriptionService.Call.act]
  · have hother : ¬ (listed = subscriber ∧ other = service) := fun h => hself h.symm
    simp [SubscriptionService.Call.subscriber, hself, hother]

theorem dropLoop_spec {held : List ServicePtr} (hcons : population.Consistent)
    (hloop : held.foldlM (dropSubscription subscriber) population = some after) :
    TablesOnly population after ∧ ∀ service listed, after.Lists service listed ↔
      population.Lists service listed ∧ ¬ (listed = subscriber ∧ service ∈ held) := by
  induction held generalizing population with
  | nil =>
      obtain rfl : population = after := by simpa using hloop
      exact ⟨TablesOnly.refl hcons, by simp⟩
  | cons first held ih =>
      obtain ⟨next, hnext, hrest⟩ := Runs.run_cons_eq_some.mp hloop
      obtain ⟨hfirst, hfirstLists⟩ := dropSubscription_spec hcons hnext
      obtain ⟨hlater, hlaterLists⟩ := ih hfirst.consistent hrest
      refine ⟨hfirst.trans hlater, fun service listed => ?_⟩
      rw [hlaterLists, hfirstLists, List.mem_cons]
      tauto

/-- The subscription made for the copy hears something, and it is the copy's. -/
theorem copyRequest_spec (target : SubscriberPtr) {tables : SubscriptionService}
    (hevents : tables.subscribedEvents other ≠ []) :
    (copyRequest target (tables.subscribedEvents other)).subscriber = target ∧
      ∀ view, ((copyRequest target (tables.subscribedEvents other)).act view).1 ≠
        View.nothing := by
  by_cases hall : tables.subscribedEvents other = [none]
  · rw [copyRequest, if_pos hall]
    exact ⟨rfl, View.subscribe_ne_nothing⟩
  · rw [copyRequest, if_neg hall]
    refine ⟨rfl, fun view => View.subscribeNames_ne_nothing.mpr (Or.inr ?_)⟩
    have hreport := tables.subscribedEvents_reports other
    cases hview : tables.view other with
    | all =>
        rw [hview] at hreport
        exact absurd hreport hall
    | names held =>
        rw [hview] at hreport
        obtain ⟨event, hevent⟩ := List.exists_mem_of_ne_nil _ hevents
        obtain ⟨name, -, rfl⟩ := (hreport.2 event).mp hevent
        exact List.ne_nil_of_mem (List.reduceOption_mem_iff.mpr hevent)

theorem copySubscription_spec (hcons : population.Consistent)
    (hcopy : copySubscription target other population service = some after) :
    TablesOnly population after ∧ ∀ place listed, after.Lists place listed ↔
      population.Lists place listed ∨
        (listed = target ∧ place = service ∧ population.Lists place other) := by
  obtain ⟨tables, htables, hbody⟩ := Option.bind_eq_some_iff.mp hcopy
  have hother : population.Lists service other ↔ tables.subscribedEvents other ≠ [] := by
    rw [Lists, view_of_services htables, Ne, Ne, SubscriptionService.subscribedEvents_eq_nil_iff]
  by_cases hevents : tables.subscribedEvents other = []
  · simp only [hevents, if_true, Option.some.injEq] at hbody
    subst hbody
    refine ⟨TablesOnly.refl hcons, fun place listed => ?_⟩
    have hnot : ¬ population.Lists service other := by simp [hother, hevents]
    constructor
    · exact Or.inl
    · rintro (hlists | ⟨-, rfl, hlists⟩)
      · exact hlists
      · exact absurd hlists hnot
  · simp only [hevents, if_false] at hbody
    obtain ⟨⟨called, ret⟩, hcall, heq⟩ := Option.bind_eq_some_iff.mp hbody
    cases heq
    obtain ⟨hsubscriber, hact⟩ := copyRequest_spec target hevents
    refine ⟨call_tablesOnly hcons hcall, fun place listed => ?_⟩
    rw [Lists, view_call hcons hcall, hsubscriber]
    by_cases hself : place = service ∧ listed = target
    · obtain ⟨rfl, rfl⟩ := hself
      simp [hact, hother, hevents]
    · rw [if_neg hself]
      constructor
      · exact Or.inl
      · rintro (hlists | ⟨rfl, rfl, -⟩)
        · exact hlists
        · exact absurd ⟨rfl, rfl⟩ hself

theorem copyLoop_spec {held : List ServicePtr} (hcons : population.Consistent)
    (hloop : held.foldlM (copySubscription target other) population = some after) :
    TablesOnly population after ∧ ∀ service listed, after.Lists service listed ↔
      population.Lists service listed ∨
        (listed = target ∧ service ∈ held ∧ population.Lists service other) := by
  induction held generalizing population with
  | nil =>
      obtain rfl : population = after := by simpa using hloop
      exact ⟨TablesOnly.refl hcons, by simp⟩
  | cons first held ih =>
      obtain ⟨next, hnext, hrest⟩ := Runs.run_cons_eq_some.mp hloop
      obtain ⟨hfirst, hfirstLists⟩ := copySubscription_spec hcons hnext
      obtain ⟨hlater, hlaterLists⟩ := ih hfirst.consistent hrest
      refine ⟨hfirst.trans hlater, fun service listed => ?_⟩
      rw [hlaterLists, hfirstLists, hfirstLists, List.mem_cons]
      tauto

/-- Moving is copying and then dropping. -/
theorem moveSubscription_spec (hcons : population.Consistent)
    (hmove : moveSubscription target other population service = some after) :
    TablesOnly population after ∧ ∀ place listed, after.Lists place listed ↔
      ¬ (listed = other ∧ place = service) ∧
        (population.Lists place listed ∨
          (listed = target ∧ place = service ∧ population.Lists place other)) := by
  obtain ⟨tables, htables, hbody⟩ := Option.bind_eq_some_iff.mp hmove
  by_cases hevents : tables.subscribedEvents other = []
  · have hcopy : copySubscription target other population service = some population := by
      simp [copySubscription, htables, hevents]
    obtain ⟨hkeeps, hlists⟩ := copySubscription_spec hcons hcopy
    simp only [hevents, if_true, Option.some.injEq] at hbody
    subst hbody
    refine ⟨hkeeps, fun place listed => ?_⟩
    have hnot : ¬ population.Lists service other := by
      rw [Lists, view_of_services htables, ne_eq, not_not]
      exact SubscriptionService.subscribedEvents_eq_nil_iff.mp hevents
    rw [← hlists]
    constructor
    · intro hlisted
      exact ⟨fun ⟨hlistedEq, hplace⟩ => hnot (hplace ▸ hlistedEq ▸ hlisted), hlisted⟩
    · exact fun hboth => hboth.2
  · simp only [hevents, if_false] at hbody
    obtain ⟨⟨called, ret⟩, hcall, hdrop⟩ := Option.bind_eq_some_iff.mp hbody
    have hcopy : copySubscription target other population service = some called := by
      simp [copySubscription, htables, hevents, hcall]
    obtain ⟨hcopied, hcopiedLists⟩ := copySubscription_spec hcons hcopy
    obtain ⟨hdropped, hdroppedLists⟩ := dropSubscription_spec hcopied.consistent hdrop
    refine ⟨hcopied.trans hdropped, fun place listed => ?_⟩
    rw [hdroppedLists, hcopiedLists]
    exact and_comm

theorem moveLoop_spec {held : List ServicePtr} (hcons : population.Consistent)
    (hloop : held.foldlM (moveSubscription target other) population = some after) :
    TablesOnly population after ∧ ∀ service listed, after.Lists service listed ↔
      ¬ (listed = other ∧ service ∈ held) ∧
        (population.Lists service listed ∨
          (listed = target ∧ service ∈ held ∧ population.Lists service other)) := by
  induction held generalizing population with
  | nil =>
      obtain rfl : population = after := by simpa using hloop
      exact ⟨TablesOnly.refl hcons, by simp⟩
  | cons first held ih =>
      obtain ⟨next, hnext, hrest⟩ := Runs.run_cons_eq_some.mp hloop
      obtain ⟨hfirst, hfirstLists⟩ := moveSubscription_spec hcons hnext
      obtain ⟨hlater, hlaterLists⟩ := ih hfirst.consistent hrest
      refine ⟨hfirst.trans hlater, fun service listed => ?_⟩
      rw [hlaterLists, hfirstLists, hfirstLists, List.mem_cons]
      by_cases hservice : service = first
      · subst hservice
        -- Only the subscriptions of the two subscribers change.
        by_cases hother : listed = other
        · simp [hother]
        · by_cases htarget : listed = target
          · simp only [htarget, true_and, true_or]
            tauto
          · simp [hother, htarget]
      · simp [hservice]

/-- The loop of the service destructor takes the service out of each
`m_subscriptions` it visits. -/
theorem removedLoop_spec {visited : List SubscriberPtr}
    (hloop : visited.foldlM (subscriberRemoved service) population = some after) :
    after.services = population.services ∧ ∀ holder held, after.Holds holder held ↔
      population.Holds holder held ∧ ¬ (held = service ∧ holder ∈ visited) := by
  induction visited generalizing population with
  | nil =>
      obtain rfl : population = after := by simpa using hloop
      exact ⟨rfl, by simp⟩
  | cons first visited ih =>
      obtain ⟨next, hnext, hrest⟩ := Runs.run_cons_eq_some.mp hloop
      obtain ⟨held, hheld, heq⟩ := Option.bind_eq_some_iff.mp hnext
      obtain ⟨hservices, hholds⟩ := ih hrest
      cases heq
      refine ⟨hservices, fun holder other => ?_⟩
      rw [hholds, List.mem_cons]
      by_cases hfirst : holder = first
      · subst hfirst
        simp only [Holds, setSubscriptions, Function.update_self, Option.getD_some,
          mem_erase_iff, hheld]
        tauto
      · simp only [Holds, setSubscriptions, Function.update_of_ne hfirst]
        tauto

end Population

end Mbstf.Subscription
