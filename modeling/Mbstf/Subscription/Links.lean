import Mbstf.Subscription.Population

/-!
# The two records of a subscription agree

`Linked` says that the tables of the services and the `m_subscriptions` of the
subscribers agree and point to live objects only.  Some operations write one
record and forget the other: the copying and moving of subscribers, and the
calls made on a service directly.  `Safe` says when such an operation does no
harm, and a run keeps the records in agreement exactly when all its operations
are safe.  While they agree, no operation follows a pointer to a dead object.
-/

namespace Mbstf.Subscription

open Std
open Mbstf.SetIndex

namespace Population

variable {population after : Population} {service : ServicePtr}
  {subscriber target other : SubscriberPtr} {request : SubscriptionService.Call}

/-- Neither side keeps a reference the other does not know of, and no reference
is to a dead object. -/
structure Linked (population : Population) : Prop where
  agree : ∀ service subscriber, (population.services service).isSome →
    (population.subscriptions subscriber).isSome →
      (population.Lists service subscriber ↔ population.Holds subscriber service)
  listedAlive : ∀ service subscriber, population.Lists service subscriber →
    (population.subscriptions subscriber).isSome
  heldAlive : ∀ subscriber service, population.Holds subscriber service →
    (population.services service).isSome

theorem alive_of_lists (hlists : population.Lists service subscriber) :
    (population.services service).isSome := by
  cases hservice : population.services service with
  | none => simp [Lists, view, hservice] at hlists
  | some tables => rfl

theorem alive_of_holds (hholds : population.Holds subscriber service) :
    (population.subscriptions subscriber).isSome := by
  cases hsubscriber : population.subscriptions subscriber with
  | none => simp [Holds, hsubscriber] at hholds
  | some held => rfl

/-- Dead objects have empty records, so agreement alone is all there is to it. -/
theorem linked_iff : population.Linked ↔
    ∀ service subscriber,
      population.Lists service subscriber ↔ population.Holds subscriber service := by
  constructor
  · intro hlinked service subscriber
    constructor
    · intro hlists
      exact (hlinked.agree service subscriber (alive_of_lists hlists)
        (hlinked.listedAlive service subscriber hlists)).mp hlists
    · intro hholds
      exact (hlinked.agree service subscriber (hlinked.heldAlive subscriber service hholds)
        (alive_of_holds hholds)).mpr hholds
  · intro hagree
    refine ⟨fun service subscriber _ _ => hagree service subscriber, ?_, ?_⟩
    · intro service subscriber hlists
      exact alive_of_holds ((hagree service subscriber).mp hlists)
    · intro subscriber service hholds
      exact alive_of_lists ((hagree service subscriber).mpr hholds)

theorem linked_empty : empty.Linked := by
  rw [linked_iff]
  intro service subscriber
  simp [Lists, view, Holds, empty]

/-- A call made on the service itself changes nothing about who is listed. -/
def KeepsListing (population : Population) (service : ServicePtr) :
    SubscriptionService.Call → Prop
  | .subscribe subscriber => population.Lists service subscriber
  | .subscribeEvents eventsList subscriber =>
      population.Lists service subscriber ∨ eventsList = []
  | .subscribeIterable iterable subscriber =>
      population.Lists service subscriber ∨ iterable = []
  | .unsubscribe subscriber => ¬ population.Lists service subscriber
  | .unsubscribeEvents eventsList subscriber =>
      ∀ held, population.view service subscriber = .names held →
        held ⊆ eventsList.toFinset → held = ∅

/-- The operations after which the two records still agree. -/
def Safe (population : Population) : Operation → Prop
  | .callService service request => population.KeepsListing service request
  | .copyConstruct _ other => ∀ service, ¬ population.Holds other service
  | .moveConstruct _ other => ∀ service, ¬ population.Holds other service
  | .copyAssign target other => ∀ service,
      population.Holds target service ↔ target ≠ other ∧ population.Holds other service
  | .moveAssign target other => ∀ service,
      ¬ population.Holds target service ∧ ¬ population.Holds other service
  | _ => True

/-- When only tables were touched, agreement is that the same are listed. -/
theorem TablesOnly.linked_iff (hlinked : population.Linked) (hstep : TablesOnly population after) :
    after.Linked ↔ ∀ service subscriber,
      after.Lists service subscriber ↔ population.Lists service subscriber := by
  rw [Population.linked_iff]
  apply forall₂_congr
  intro service subscriber
  rw [hstep.holds, Population.linked_iff.mp hlinked]

theorem keepsListing_iff :
    population.KeepsListing service request ↔
      ((request.act (population.view service request.subscriber)).1 ≠ View.nothing ↔
        population.Lists service request.subscriber) := by
  cases request with
  | subscribe subscriber =>
      simp [KeepsListing, SubscriptionService.Call.act, SubscriptionService.Call.subscriber,
        View.subscribe_ne_nothing]
  | subscribeEvents eventsList subscriber =>
      simp only [KeepsListing, SubscriptionService.Call.act,
        SubscriptionService.Call.subscriber, View.subscribeNames_ne_nothing, Lists]
      tauto
  | subscribeIterable iterable subscriber =>
      simp only [KeepsListing, SubscriptionService.Call.act,
        SubscriptionService.Call.subscriber, View.subscribeNames_ne_nothing, Lists]
      tauto
  | unsubscribe subscriber =>
      simp [KeepsListing, SubscriptionService.Call.act, SubscriptionService.Call.subscriber]
  | unsubscribeEvents eventsList subscriber =>
      simp only [KeepsListing, SubscriptionService.Call.act,
        SubscriptionService.Call.subscriber, Lists]
      cases population.view service subscriber with
      | all => simp [View.unsubscribeNames, View.nothing]
      | names held =>
          have hsub : held \ eventsList.toFinset = ∅ ↔ held ⊆ eventsList.toFinset :=
            Finset.sdiff_eq_empty_iff_subset
          simp only [View.unsubscribeNames, View.nothing, View.names.injEq, forall_eq',
            ne_eq, hsub]
          constructor
          · intro himp
            refine ⟨fun hnot hempty => hnot (by simp [hempty]), fun hne hsubset => ?_⟩
            exact hne (himp hsubset)
          · intro hiff hsubset
            by_contra hne
            exact hiff.mpr hne hsubset

/-! ## Which steps keep them in agreement -/

theorem callService_linked_iff (hcons : population.Consistent) (hlinked : population.Linked)
    (hstep : population.callService service request = some after) :
    after.Consistent ∧ (after.Linked ↔ population.KeepsListing service request) := by
  obtain ⟨held, -, hbody⟩ := Option.bind_eq_some_iff.mp hstep
  obtain ⟨⟨called, ret⟩, hcall, heq⟩ := Option.bind_eq_some_iff.mp hbody
  cases heq
  have hview := view_call hcons hcall
  refine ⟨(call_tablesOnly hcons hcall).consistent, ?_⟩
  rw [(call_tablesOnly hcons hcall).linked_iff hlinked, keepsListing_iff]
  constructor
  · intro hall
    have hself := hall service request.subscriber
    rw [Lists, hview, if_pos ⟨rfl, rfl⟩] at hself
    exact hself
  · intro hkeeps other subscriber
    rw [Lists, hview]
    by_cases hself : other = service ∧ subscriber = request.subscriber
    · obtain ⟨rfl, rfl⟩ := hself
      rw [if_pos ⟨rfl, rfl⟩]
      exact hkeeps
    · rw [if_neg hself]
      rfl

/-- `subscribeTo` writes both records: it inserts exactly when the service
listed something new, and otherwise the service was held already. -/
theorem subscribeVia_linked (hcons : population.Consistent) (hlinked : population.Linked)
    (hrequest : request.subscriber = subscriber)
    (htrue : ∀ view, (request.act view).2 = true → (request.act view).1 ≠ View.nothing)
    (hfalse : ∀ view, (request.act view).2 = false → (request.act view).1 = view)
    (hstep : population.subscribeVia subscriber service request = some after) :
    after.Linked ∧ after.Consistent := by
  obtain ⟨held, hheld, hbody⟩ := Option.bind_eq_some_iff.mp hstep
  obtain ⟨⟨called, ret⟩, hcall, hrest⟩ := Option.bind_eq_some_iff.mp hbody
  have htables := call_tablesOnly hcons hcall
  have hview := view_call hcons hcall
  have hret := call_ret hcons hcall
  subst hrequest
  cases ret with
  | false =>
      obtain rfl : called = after := by simpa using hrest
      refine ⟨(htables.linked_iff hlinked).mpr fun other listed => ?_, htables.consistent⟩
      rw [Lists, hview]
      by_cases hself : other = service ∧ listed = request.subscriber
      · obtain ⟨rfl, rfl⟩ := hself
        rw [if_pos ⟨rfl, rfl⟩, hfalse _ hret.symm]
        rfl
      · rw [if_neg hself]
        rfl
  | true =>
      obtain rfl : called.setSubscriptions request.subscriber (some (held.insert service)) =
          after := by simpa using hrest
      refine ⟨linked_iff.mpr fun other listed => ?_, htables.consistent⟩
      have hagree := linked_iff.mp hlinked other listed
      have hlists : (called.setSubscriptions request.subscriber
          (some (held.insert service))).Lists other listed ↔
            called.Lists other listed := Iff.rfl
      rw [hlists, Lists, hview]
      by_cases hlisted : listed = request.subscriber
      · subst hlisted
        have hholds : (called.setSubscriptions request.subscriber
            (some (held.insert service))).Holds request.subscriber other ↔
              other = service ∨ population.Holds request.subscriber other := by
          simp [Holds, setSubscriptions, hheld, mem_insert_iff, -ExtTreeSet.mem_insert]
        rw [hholds, ← hagree]
        by_cases hservice : other = service
        · subst hservice
          simp [htrue _ hret.symm]
        · simp [hservice, Lists]
      · have hholds : (called.setSubscriptions request.subscriber
            (some (held.insert service))).Holds listed other ↔
              population.Holds listed other := by
          rw [← htables.holds]
          simp [Holds, setSubscriptions, hlisted]
        rw [hholds, ← hagree, if_neg fun hself => hlisted hself.2]
        rfl

theorem subscribeTo_linked (hcons : population.Consistent) (hlinked : population.Linked)
    (hstep : population.subscribeTo subscriber service = some after) :
    after.Linked ∧ after.Consistent := by
  have hsubscriber : (SubscriptionService.Call.subscribe subscriber).subscriber = subscriber :=
    rfl
  apply subscribeVia_linked hcons hlinked hsubscriber ?_ ?_ hstep
  · exact fun view _ => View.subscribe_ne_nothing view
  · exact fun view => View.subscribe_fst_of_snd

theorem subscribeToEvents_linked {eventsList : List String} (hcons : population.Consistent)
    (hlinked : population.Linked)
    (hstep : population.subscribeToEvents subscriber eventsList service = some after) :
    after.Linked ∧ after.Consistent := by
  have hsubscriber :
      (SubscriptionService.Call.subscribeEvents eventsList subscriber).subscriber =
        subscriber := rfl
  apply subscribeVia_linked hcons hlinked hsubscriber ?_ ?_ hstep
  · exact fun view => View.subscribeNames_ne_nothing_of_snd
  · exact fun view => View.subscribeNames_fst_of_snd

theorem newSubscriber_spec (hstep : population.newSubscriber target = some after) :
    after.services = population.services ∧
      (∀ subscriber service,
        after.Holds subscriber service ↔ population.Holds subscriber service) ∧
      ∀ subscriber, subscriber ≠ target →
        after.subscriptions subscriber = population.subscriptions subscriber := by
  unfold newSubscriber at hstep
  cases hfree : population.subscriptions target with
  | some held => simp [hfree] at hstep
  | none =>
      obtain rfl : population.setSubscriptions target (some ∅) = after := by
        simpa [hfree] using hstep
      refine ⟨rfl, fun subscriber service => ?_, fun subscriber hne => ?_⟩
      · by_cases hsubscriber : subscriber = target
        · subst hsubscriber
          simp [Holds, setSubscriptions, hfree]
        · simp [Holds, setSubscriptions, hsubscriber]
      · simp [setSubscriptions, hne]

theorem lists_congr (hservices : after.services = population.services)
    (service : ServicePtr) (subscriber : SubscriberPtr) :
    after.Lists service subscriber ↔ population.Lists service subscriber := by
  rw [Lists, Lists, view, view, hservices]

theorem holds_iff {held : ExtTreeSet ServicePtr}
    (hheld : population.subscriptions subscriber = some held) (service : ServicePtr) :
    population.Holds subscriber service ↔ service ∈ held.toList := by
  rw [Holds, hheld, Option.getD_some, ExtTreeSet.mem_toList]

theorem newSubscriber_linked (hcons : population.Consistent) (hlinked : population.Linked)
    (hstep : population.newSubscriber target = some after) :
    after.Linked ∧ after.Consistent := by
  obtain ⟨hservices, hholds, -⟩ := newSubscriber_spec hstep
  constructor
  · rw [linked_iff]
    intro service subscriber
    rw [lists_congr hservices, hholds]
    exact linked_iff.mp hlinked service subscriber
  · intro service tables htables
    exact hcons service tables (hservices ▸ htables)

theorem newService_linked (hcons : population.Consistent) (hlinked : population.Linked)
    (hstep : population.newService service = some after) :
    after.Linked ∧ after.Consistent := by
  unfold newService at hstep
  cases hfree : population.services service with
  | some tables => simp [hfree] at hstep
  | none =>
      simp only [hfree, Option.some.injEq] at hstep
      subst hstep
      constructor
      · rw [linked_iff]
        intro other subscriber
        have hsame : Lists { population with
            services := Function.update population.services service (some .new) }
              other subscriber ↔ population.Lists other subscriber := by
          by_cases hother : other = service
          · subst hother
            simp [Lists, view, hfree, SubscriptionService.view_new]
          · simp [Lists, view, hother]
        rw [hsame]
        exact linked_iff.mp hlinked other subscriber
      · intro other tables htables
        by_cases hother : other = service
        · subst hother
          obtain rfl : SubscriptionService.new = tables := by simpa using htables
          exact SubscriptionService.consistent_new
        · exact hcons other tables (by simpa [hother] using htables)

/-- What a construction from another subscriber starts its loop with. -/
theorem created_spec (hcons : population.Consistent) (hlinked : population.Linked)
    {created : Population} {held : ExtTreeSet ServicePtr}
    (hcreated : population.newSubscriber target = some created)
    (hheld : population.subscriptions other = some held) :
    created.Linked ∧ created.Consistent ∧ (∀ service, ¬ created.Lists service target) ∧
      (∀ service, population.Holds other service ↔ service ∈ held.toList) ∧
      ∀ service, created.Lists service other ↔ service ∈ held.toList := by
  obtain ⟨hservices, hholds, -⟩ := newSubscriber_spec hcreated
  obtain ⟨hcreatedLinked, hcreatedCons⟩ := newSubscriber_linked hcons hlinked hcreated
  have hfree : population.subscriptions target = none := by
    unfold newSubscriber at hcreated
    split at hcreated
    · cases hcreated
    · assumption
  refine ⟨hcreatedLinked, hcreatedCons, fun service => ?_, holds_iff hheld, fun service => ?_⟩
  · rw [linked_iff.mp hcreatedLinked, hholds]
    simp [Holds, hfree]
  · rw [linked_iff.mp hcreatedLinked, hholds, holds_iff hheld]

theorem copyConstruct_linked_iff (hcons : population.Consistent) (hlinked : population.Linked)
    (hstep : population.copyConstruct target other = some after) :
    after.Consistent ∧
      (after.Linked ↔ ∀ service, ¬ population.Holds other service) := by
  obtain ⟨created, hcreated, hbody⟩ := Option.bind_eq_some_iff.mp hstep
  obtain ⟨held, hheld, hloop⟩ := Option.bind_eq_some_iff.mp hbody
  obtain ⟨hcreatedLinked, hcreatedCons, hfresh, hholds, hlists⟩ :=
    created_spec hcons hlinked hcreated hheld
  obtain ⟨htables, hafter⟩ := copyLoop_spec hcreatedCons hloop
  refine ⟨htables.consistent, ?_⟩
  rw [htables.linked_iff hcreatedLinked]
  constructor
  · intro hall service hother
    have hmem := (hholds service).mp hother
    have hlisted : after.Lists service target :=
      (hafter service target).mpr (Or.inr ⟨rfl, hmem, (hlists service).mpr hmem⟩)
    exact hfresh service ((hall service target).mp hlisted)
  · intro hnone service listed
    rw [hafter, ← hholds]
    have hother := hnone service
    tauto

theorem moveConstruct_linked_iff (hcons : population.Consistent) (hlinked : population.Linked)
    (hstep : population.moveConstruct target other = some after) :
    after.Consistent ∧
      (after.Linked ↔ ∀ service, ¬ population.Holds other service) := by
  obtain ⟨created, hcreated, hbody⟩ := Option.bind_eq_some_iff.mp hstep
  obtain ⟨held, hheld, hloop⟩ := Option.bind_eq_some_iff.mp hbody
  obtain ⟨hcreatedLinked, hcreatedCons, hfresh, hholds, hlists⟩ :=
    created_spec hcons hlinked hcreated hheld
  obtain ⟨htables, hafter⟩ := moveLoop_spec hcreatedCons hloop
  refine ⟨htables.consistent, ?_⟩
  rw [htables.linked_iff hcreatedLinked]
  constructor
  · intro hall service hother
    have hmem := (hholds service).mp hother
    have hkept : after.Lists service other :=
      (hall service other).mpr ((hlists service).mpr hmem)
    exact ((hafter service other).mp hkept).1 ⟨rfl, hmem⟩
  · intro hnone service listed
    rw [hafter, ← hholds]
    have hother := hnone service
    tauto

/-- What both assignments start their second loop with. -/
theorem dropped_spec (hcons : population.Consistent) (hlinked : population.Linked)
    {dropped : Population} {current held : ExtTreeSet ServicePtr}
    (hcurrent : population.subscriptions target = some current)
    (hheld : population.subscriptions other = some held)
    (hdrop : current.toList.foldlM (dropSubscription target) population = some dropped) :
    TablesOnly population dropped ∧
      (∀ service, population.Holds other service ↔ service ∈ held.toList) ∧
      ∀ service listed, dropped.Lists service listed ↔
        population.Holds listed service ∧ listed ≠ target := by
  obtain ⟨htables, hlists⟩ := dropLoop_spec hcons hdrop
  refine ⟨htables, holds_iff hheld, fun service listed => ?_⟩
  rw [hlists, linked_iff.mp hlinked, ← holds_iff hcurrent]
  constructor
  · rintro ⟨hholds, hnot⟩
    refine ⟨hholds, ?_⟩
    rintro rfl
    exact hnot ⟨rfl, hholds⟩
  · rintro ⟨hholds, hne⟩
    exact ⟨hholds, fun hboth => hne hboth.1⟩

theorem copyAssign_linked_iff (hcons : population.Consistent) (hlinked : population.Linked)
    (hstep : population.copyAssign target other = some after) :
    after.Consistent ∧ (after.Linked ↔ ∀ service,
      population.Holds target service ↔ target ≠ other ∧ population.Holds other service) := by
  obtain ⟨current, hcurrent, hbody⟩ := Option.bind_eq_some_iff.mp hstep
  obtain ⟨held, hheld, hrest⟩ := Option.bind_eq_some_iff.mp hbody
  obtain ⟨dropped, hdrop, hloop⟩ := Option.bind_eq_some_iff.mp hrest
  obtain ⟨hdropped, hholds, hlists⟩ := dropped_spec hcons hlinked hcurrent hheld hdrop
  obtain ⟨hcopied, hafter⟩ := copyLoop_spec hdropped.consistent hloop
  have hfinal : ∀ service listed, after.Lists service listed ↔
      (population.Holds listed service ∧ listed ≠ target) ∨
        (listed = target ∧ target ≠ other ∧ population.Holds other service) := by
    intro service listed
    rw [hafter, hlists, hlists, ← hholds, ne_comm (a := other)]
    tauto
  refine ⟨hcopied.consistent, ?_⟩
  rw [(hdropped.trans hcopied).linked_iff hlinked]
  constructor
  · intro hall service
    rw [← linked_iff.mp hlinked, ← hall, hfinal]
    tauto
  · intro hsame service listed
    rw [hfinal, linked_iff.mp hlinked]
    by_cases hlisted : listed = target
    · subst hlisted
      have htarget := hsame service
      tauto
    · tauto

theorem moveAssign_linked_iff (hcons : population.Consistent) (hlinked : population.Linked)
    (hstep : population.moveAssign target other = some after) :
    after.Consistent ∧ (after.Linked ↔ ∀ service,
      ¬ population.Holds target service ∧ ¬ population.Holds other service) := by
  obtain ⟨current, hcurrent, hbody⟩ := Option.bind_eq_some_iff.mp hstep
  obtain ⟨held, hheld, hrest⟩ := Option.bind_eq_some_iff.mp hbody
  obtain ⟨dropped, hdrop, hloop⟩ := Option.bind_eq_some_iff.mp hrest
  obtain ⟨hdropped, hholds, hlists⟩ := dropped_spec hcons hlinked hcurrent hheld hdrop
  obtain ⟨hmoved, hafter⟩ := moveLoop_spec hdropped.consistent hloop
  have hfinal : ∀ service listed, after.Lists service listed ↔
      (population.Holds listed service ∧ listed ≠ target ∧ listed ≠ other) ∨
        (listed = target ∧ target ≠ other ∧ population.Holds other service) := by
    intro service listed
    rw [hafter, hlists, hlists, ← hholds, ne_comm (a := other)]
    by_cases hlisted : listed = other
    · subst hlisted
      tauto
    · by_cases htarget : listed = target
      · subst htarget
        tauto
      · tauto
  refine ⟨hmoved.consistent, ?_⟩
  rw [(hdropped.trans hmoved).linked_iff hlinked]
  constructor
  · intro hall service
    have htarget := (hall service target).symm.trans (hfinal service target)
    have hother := (hall service other).symm.trans (hfinal service other)
    rw [linked_iff.mp hlinked] at htarget hother
    tauto
  · intro hnone service listed
    rw [hfinal, linked_iff.mp hlinked]
    have hboth := hnone service
    by_cases htarget : listed = target
    · subst htarget
      tauto
    · by_cases hother : listed = other
      · subst hother
        tauto
      · tauto

theorem destroySubscriber_linked (hcons : population.Consistent) (hlinked : population.Linked)
    (hstep : population.destroySubscriber subscriber = some after) :
    after.Linked ∧ after.Consistent := by
  obtain ⟨held, hheld, hbody⟩ := Option.bind_eq_some_iff.mp hstep
  obtain ⟨dropped, hdrop, heq⟩ := Option.bind_eq_some_iff.mp hbody
  obtain ⟨hdropped, -, hlists⟩ := dropped_spec hcons hlinked hheld hheld hdrop
  cases heq
  refine ⟨linked_iff.mpr fun service listed => ?_, hdropped.consistent⟩
  have hafter : (dropped.setSubscriptions subscriber none).Lists service listed ↔
      dropped.Lists service listed := Iff.rfl
  rw [hafter, hlists, ← hdropped.holds]
  by_cases hlisted : listed = subscriber
  · subst hlisted
    simp [Holds, setSubscriptions]
  · simp [Holds, setSubscriptions, hlisted]

theorem destroyService_linked (hcons : population.Consistent) (hlinked : population.Linked)
    (hstep : population.destroyService service = some after) :
    after.Linked ∧ after.Consistent := by
  obtain ⟨tables, htables, hbody⟩ := Option.bind_eq_some_iff.mp hstep
  obtain ⟨removed, hloop, heq⟩ := Option.bind_eq_some_iff.mp hbody
  obtain ⟨hservices, hholds⟩ := removedLoop_spec hloop
  cases heq
  constructor
  · rw [linked_iff]
    intro other subscriber
    have hafter : Holds { removed with
        services := Function.update removed.services service none } subscriber other ↔
          removed.Holds subscriber other := Iff.rfl
    have hagree := linked_iff.mp hlinked other subscriber
    rw [hafter, hholds, ← hagree, ExtTreeSet.mem_toList, SubscriptionService.mem_subscribers,
      ← view_of_services htables]
    by_cases hother : other = service
    · subst hother
      simp [Lists, view]
    · simp [Lists, view, hother, hservices]
  · intro other found hfound
    by_cases hother : other = service
    · subst hother
      simp at hfound
    · exact hcons other found (by simpa [hother, hservices] using hfound)

/-- One step, in every population with consistent tables whose records agree:
the tables stay consistent, and the records still agree exactly when the
operation is a safe one. -/
theorem step_linked_iff {operation : Operation} (hcons : population.Consistent)
    (hlinked : population.Linked) (hstep : population.step operation = some after) :
    after.Consistent ∧ (after.Linked ↔ population.Safe operation) := by
  cases operation with
  | newService service =>
      obtain ⟨hafter, hafterCons⟩ := newService_linked hcons hlinked hstep
      exact ⟨hafterCons, iff_of_true hafter trivial⟩
  | newSubscriber subscriber =>
      obtain ⟨hafter, hafterCons⟩ := newSubscriber_linked hcons hlinked hstep
      exact ⟨hafterCons, iff_of_true hafter trivial⟩
  | subscribeTo subscriber service =>
      obtain ⟨hafter, hafterCons⟩ := subscribeTo_linked hcons hlinked hstep
      exact ⟨hafterCons, iff_of_true hafter trivial⟩
  | subscribeToEvents subscriber eventsList service =>
      obtain ⟨hafter, hafterCons⟩ := subscribeToEvents_linked hcons hlinked hstep
      exact ⟨hafterCons, iff_of_true hafter trivial⟩
  | callService service request => exact callService_linked_iff hcons hlinked hstep
  | copyConstruct target other => exact copyConstruct_linked_iff hcons hlinked hstep
  | moveConstruct target other => exact moveConstruct_linked_iff hcons hlinked hstep
  | copyAssign target other => exact copyAssign_linked_iff hcons hlinked hstep
  | moveAssign target other => exact moveAssign_linked_iff hcons hlinked hstep
  | destroySubscriber subscriber =>
      obtain ⟨hafter, hafterCons⟩ := destroySubscriber_linked hcons hlinked hstep
      exact ⟨hafterCons, iff_of_true hafter trivial⟩
  | destroyService service =>
      obtain ⟨hafter, hafterCons⟩ := destroyService_linked hcons hlinked hstep
      exact ⟨hafterCons, iff_of_true hafter trivial⟩

theorem consistent_empty : empty.Consistent := by
  intro service tables htables
  simp [empty] at htables

/-- Over any operations on any objects, the two records agree in every state
reached if and only if every operation taken is a safe one. -/
theorem linked_throughout_iff_safe (operations : List Operation) :
    Runs.Throughout step Linked empty operations ↔
      Runs.Guarded step Safe empty operations := by
  have hkeeps : ∀ population operation after, Consistent population → Linked population →
      step population operation = some after → Consistent after := by
    intro population operation after hcons hlinked hstep
    exact (step_linked_iff hcons hlinked hstep).1
  have hexact : ∀ population operation after, Consistent population → Linked population →
      step population operation = some after → (Linked after ↔ Safe population operation) := by
    intro population operation after hcons hlinked hstep
    exact (step_linked_iff hcons hlinked hstep).2
  exact Runs.throughout_iff_guarded hkeeps hexact consistent_empty linked_empty

/-! ## No dead object is followed -/

/-- The objects an operation names are alive, and the addresses it builds at are
free. -/
def Applicable (population : Population) : Operation → Prop
  | .newService service => population.services service = none
  | .newSubscriber subscriber => population.subscriptions subscriber = none
  | .subscribeTo subscriber service | .subscribeToEvents subscriber _ service =>
      (population.subscriptions subscriber).isSome ∧ (population.services service).isSome
  | .callService service request =>
      (population.subscriptions request.subscriber).isSome ∧
        (population.services service).isSome
  | .copyConstruct target other | .moveConstruct target other =>
      population.subscriptions target = none ∧ (population.subscriptions other).isSome
  | .copyAssign target other | .moveAssign target other =>
      (population.subscriptions target).isSome ∧ (population.subscriptions other).isSome
  | .destroySubscriber subscriber => (population.subscriptions subscriber).isSome
  | .destroyService service => (population.services service).isSome

theorem call_isSome (hservice : (population.services service).isSome)
    (request : SubscriptionService.Call) :
    ∃ called ret, population.call service request = some (called, ret) := by
  obtain ⟨tables, htables⟩ := Option.isSome_iff_exists.mp hservice
  exact ⟨_, _, by rw [call, htables, Option.map_some]⟩

theorem dropSubscription_isSome (hservice : (population.services service).isSome) :
    ∃ after, dropSubscription subscriber population service = some after := by
  obtain ⟨called, ret, hcall⟩ := call_isSome hservice (.unsubscribe subscriber)
  exact ⟨called, by simp [dropSubscription, hcall]⟩

theorem copySubscription_isSome (hservice : (population.services service).isSome) :
    ∃ after, copySubscription target other population service = some after := by
  obtain ⟨tables, htables⟩ := Option.isSome_iff_exists.mp hservice
  by_cases hevents : tables.subscribedEvents other = []
  · exact ⟨population, by simp [copySubscription, htables, hevents]⟩
  · obtain ⟨called, ret, hcall⟩ :=
      call_isSome hservice (copyRequest target (tables.subscribedEvents other))
    exact ⟨called, by simp [copySubscription, htables, hevents, hcall]⟩

theorem moveSubscription_isSome (hcons : population.Consistent)
    (hservice : (population.services service).isSome) :
    ∃ after, moveSubscription target other population service = some after := by
  obtain ⟨tables, htables⟩ := Option.isSome_iff_exists.mp hservice
  by_cases hevents : tables.subscribedEvents other = []
  · exact ⟨population, by simp [moveSubscription, htables, hevents]⟩
  · obtain ⟨called, ret, hcall⟩ :=
      call_isSome hservice (copyRequest target (tables.subscribedEvents other))
    have halive : (called.services service).isSome := by
      rwa [(call_tablesOnly hcons hcall).alive]
    obtain ⟨dropped, hdrop⟩ :
        ∃ dropped, dropSubscription other called service = some dropped :=
      dropSubscription_isSome halive
    exact ⟨dropped, by simp [moveSubscription, htables, hevents, hcall, hdrop]⟩

/-- A loop body that goes through for a service that is alive, and changes tables only. -/
def GoesThrough (body : Population → ServicePtr → Option Population) : Prop :=
  ∀ population service, population.Consistent → (population.services service).isSome →
    ∃ after, body population service = some after ∧ TablesOnly population after

/-- A loop over services that are all alive goes through. -/
theorem GoesThrough.loop {body : Population → ServicePtr → Option Population}
    (hbody : GoesThrough body) {held : List ServicePtr} (hcons : population.Consistent)
    (halive : ∀ service ∈ held, (population.services service).isSome) :
    ∃ after, held.foldlM body population = some after ∧ TablesOnly population after := by
  apply Runs.run_isSome ?_ (TablesOnly.refl hcons)
  intro middle hmiddle service hservice
  have hservices : (middle.services service).isSome := by
    rw [hmiddle.alive]
    exact halive service hservice
  obtain ⟨after, hafter, hstep⟩ := hbody middle service hmiddle.consistent hservices
  exact ⟨after, hafter, hmiddle.trans hstep⟩

theorem dropSubscription_goesThrough (subscriber : SubscriberPtr) :
    GoesThrough (dropSubscription subscriber) := by
  intro before service hbefore hservice
  obtain ⟨after, hafter⟩ := dropSubscription_isSome hservice
  exact ⟨after, hafter, (dropSubscription_spec hbefore hafter).1⟩

theorem copySubscription_goesThrough (target other : SubscriberPtr) :
    GoesThrough (copySubscription target other) := by
  intro before service hbefore hservice
  obtain ⟨after, hafter⟩ := copySubscription_isSome hservice
  exact ⟨after, hafter, (copySubscription_spec hbefore hafter).1⟩

theorem moveSubscription_goesThrough (target other : SubscriberPtr) :
    GoesThrough (moveSubscription target other) := by
  intro before service hbefore hservice
  obtain ⟨after, hafter⟩ := moveSubscription_isSome hbefore hservice
  exact ⟨after, hafter, (moveSubscription_spec hbefore hafter).1⟩

theorem removedLoop_isSome (service : ServicePtr) {visited : List SubscriberPtr}
    (halive : ∀ subscriber ∈ visited, (population.subscriptions subscriber).isSome) :
    ∃ after, visited.foldlM (subscriberRemoved service) population = some after := by
  have hbody : ∀ middle : Population,
      (∀ subscriber ∈ visited, (middle.subscriptions subscriber).isSome) →
        ∀ subscriber ∈ visited, ∃ next,
          subscriberRemoved service middle subscriber = some next ∧
            ∀ other ∈ visited, (next.subscriptions other).isSome := by
    intro middle hmiddle subscriber hsubscriber
    obtain ⟨held, hheld⟩ := Option.isSome_iff_exists.mp (hmiddle subscriber hsubscriber)
    refine ⟨_, by rw [subscriberRemoved, hheld, Option.bind_eq_bind, Option.bind_some], ?_⟩
    intro other hother
    by_cases hsame : other = subscriber
    · subst hsame
      simp [setSubscriptions]
    · simpa [setSubscriptions, hsame] using hmiddle other hother
  obtain ⟨after, hafter, -⟩ := Runs.run_isSome hbody halive
  exact ⟨after, hafter⟩

theorem subscribeVia_isSome (hsubscriber : (population.subscriptions subscriber).isSome)
    (hservice : (population.services service).isSome)
    (request : SubscriptionService.Call) :
    ∃ after, population.subscribeVia subscriber service request = some after := by
  obtain ⟨held, hheld⟩ := Option.isSome_iff_exists.mp hsubscriber
  obtain ⟨called, ret, hcall⟩ := call_isSome hservice request
  cases ret with
  | false => exact ⟨_, by simp [subscribeVia, hheld, hcall]; rfl⟩
  | true => exact ⟨_, by simp [subscribeVia, hheld, hcall]; rfl⟩

theorem newSubscriber_eq_some (hfree : population.subscriptions target = none) :
    population.newSubscriber target =
      some (population.setSubscriptions target (some ∅)) := by
  simp [newSubscriber, hfree]

/-- The services a live subscriber holds are alive when the records agree. -/
theorem Linked.held_alive (hlinked : population.Linked) {held : ExtTreeSet ServicePtr}
    (hheld : population.subscriptions subscriber = some held) :
    ∀ service ∈ held.toList, (population.services service).isSome := by
  intro service hservice
  exact hlinked.heldAlive subscriber service ((holds_iff hheld service).mpr hservice)

section

variable {body : Population → ServicePtr → Option Population}

/-- A constructor from another subscriber, by what it does for each service. -/
theorem Linked.construct_isSome (hlinked : population.Linked) (hcons : population.Consistent)
    (hbody : GoesThrough body) (htarget : population.subscriptions target = none)
    (hother : (population.subscriptions other).isSome) :
    ∃ after, ((population.newSubscriber target).bind fun created =>
      (population.subscriptions other).bind fun held => held.toList.foldlM body created) =
        some after := by
  obtain ⟨held, hheld⟩ := Option.isSome_iff_exists.mp hother
  have hcreated := newSubscriber_eq_some htarget
  have hcreatedCons := (newSubscriber_linked hcons hlinked hcreated).2
  have halive : ∀ service ∈ held.toList,
      ((population.setSubscriptions target (some ∅)).services service).isSome :=
    hlinked.held_alive hheld
  obtain ⟨after, hloop, -⟩ := hbody.loop hcreatedCons halive
  exact ⟨after, by rw [hcreated, hheld, Option.bind_some, Option.bind_some, hloop]⟩

/-- An assignment from another subscriber: what was held is dropped first. -/
theorem Linked.assign_isSome (hlinked : population.Linked) (hcons : population.Consistent)
    (hbody : GoesThrough body) (htarget : (population.subscriptions target).isSome)
    (hother : (population.subscriptions other).isSome) :
    ∃ after, ((population.subscriptions target).bind fun current =>
      (population.subscriptions other).bind fun held =>
        (current.toList.foldlM (dropSubscription target) population).bind fun dropped =>
          held.toList.foldlM body dropped) = some after := by
  obtain ⟨current, hcurrent⟩ := Option.isSome_iff_exists.mp htarget
  obtain ⟨held, hheld⟩ := Option.isSome_iff_exists.mp hother
  obtain ⟨dropped, hdrop, htables⟩ :=
    (dropSubscription_goesThrough target).loop hcons (hlinked.held_alive hcurrent)
  have halive : ∀ service ∈ held.toList, (dropped.services service).isSome := by
    intro service hservice
    rw [htables.alive]
    exact hlinked.held_alive hheld service hservice
  obtain ⟨after, hloop, -⟩ := hbody.loop htables.consistent halive
  exact ⟨after, by
    rw [hcurrent, hheld, Option.bind_some, Option.bind_some, hdrop, Option.bind_some, hloop]⟩

end

/-- While the records agree, an operation on live objects follows no pointer to
a dead one. -/
theorem Linked.step_isSome {operation : Operation} (hlinked : population.Linked)
    (hcons : population.Consistent) (happlicable : population.Applicable operation) :
    ∃ after, population.step operation = some after := by
  cases operation with
  | newService service =>
      have hfree : population.services service = none := happlicable
      exact ⟨_, by rw [step, newService, hfree]⟩
  | newSubscriber subscriber => exact ⟨_, newSubscriber_eq_some happlicable⟩
  | subscribeTo subscriber service =>
      exact subscribeVia_isSome happlicable.1 happlicable.2 _
  | subscribeToEvents subscriber eventsList service =>
      exact subscribeVia_isSome happlicable.1 happlicable.2 _
  | callService service request =>
      obtain ⟨held, hheld⟩ := Option.isSome_iff_exists.mp happlicable.1
      obtain ⟨called, ret, hcall⟩ := call_isSome happlicable.2 request
      exact ⟨called, by simp [step, callService, hheld, hcall]⟩
  | copyConstruct target other =>
      exact hlinked.construct_isSome hcons (copySubscription_goesThrough target other)
        happlicable.1 happlicable.2
  | moveConstruct target other =>
      exact hlinked.construct_isSome hcons (moveSubscription_goesThrough target other)
        happlicable.1 happlicable.2
  | copyAssign target other =>
      exact hlinked.assign_isSome hcons (copySubscription_goesThrough target other)
        happlicable.1 happlicable.2
  | moveAssign target other =>
      exact hlinked.assign_isSome hcons (moveSubscription_goesThrough target other)
        happlicable.1 happlicable.2
  | destroySubscriber subscriber =>
      obtain ⟨held, hheld⟩ := Option.isSome_iff_exists.mp happlicable
      obtain ⟨dropped, hdrop, -⟩ :=
        (dropSubscription_goesThrough subscriber).loop hcons (hlinked.held_alive hheld)
      exact ⟨_, by
        simp only [step, destroySubscriber, hheld, Option.bind_eq_bind, Option.bind_some,
          hdrop]
        rfl⟩
  | destroyService service =>
      obtain ⟨tables, htables⟩ := Option.isSome_iff_exists.mp happlicable
      have halive : ∀ subscriber ∈ tables.subscribers.toList,
          (population.subscriptions subscriber).isSome := by
        intro subscriber hsubscriber
        rw [ExtTreeSet.mem_toList, SubscriptionService.mem_subscribers,
          ← view_of_services htables] at hsubscriber
        exact hlinked.listedAlive service subscriber hsubscriber
      obtain ⟨removed, hloop⟩ := removedLoop_isSome service halive
      exact ⟨_, by
        simp only [step, destroyService, htables, Option.bind_eq_bind, Option.bind_some,
          hloop]
        rfl⟩

/-- A copy of a subscriber is listed without knowing it, so that its destructor
leaves the service with the address of a dead object. -/
theorem copied_subscriber_dangles :
    ∃ copied destroyed,
      Runs.run step empty
          [.newService 0, .newSubscriber 1, .subscribeTo 1 0, .copyConstruct 2 1] =
        some copied ∧
      copied.Lists 0 2 ∧ ¬ copied.Holds 2 0 ∧ ¬ copied.Linked ∧
      copied.step (.destroySubscriber 2) = some destroyed ∧
      destroyed.Lists 0 2 ∧ destroyed.subscriptions 2 = none := by
  refine ⟨_, _, rfl, by decide, by decide, ?_, rfl, by decide, rfl⟩
  rw [linked_iff]
  intro hagree
  exact absurd ((hagree 0 2).mp (by decide)) (by decide)

end Population

end Mbstf.Subscription
