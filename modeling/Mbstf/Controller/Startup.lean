import Mbstf.Controller.NoDangling

/-!
# Objects that are added while a controller starts

The ingester runs before the constructor is done, and an `ObjectAdded` goes to
whoever is subscribed when it is dispatched.  Every object that was added is still on
its way, was passed to a packager, was an invalid manifest, or was dropped; the books
say which, and what is dropped is never made good.
-/

namespace Mbstf.Controller

open Std Mbstf.Objects Mbstf.Session Mbstf.Runs

namespace System

/-- Where the added objects are. -/
def account (system : System) : Multiset String :=
  (pendingAdded system.objects : Multiset String) +
    (system.storeThread.objectIds : Multiset String) +
      (system.books.passed : Multiset String) + (system.books.invalid : Multiset String) +
        (system.books.lost : Multiset String)

/-- Construction has finished, and no event waits in the queue of the store or is
being dispatched. -/
def Settled (system : System) : Prop :=
  system.remaining = [] ∧ system.replacing = none ∧ system.objects.events = [] ∧
    system.storeThread.objectIds = []

instance (system : System) : Decidable system.Settled := by unfold Settled; infer_instance

/-- The objects that need not be passed on: in the streaming controller, those reported
as an invalid manifest. -/
def excused (setup : Setup) (system : System) : Multiset String :=
  match setup.kind with
  | .objectList => 0
  | .objectStreaming => system.books.invalid

/-- Each object that was added and is not excused, as often as it was added, has been
passed to the `add` of a packager of the controller once. -/
def PassedOnce (setup : Setup) (system : System) : Prop :=
  (system.books.added : Multiset String) =
    (system.books.passed : Multiset String) + system.excused setup

instance (setup : Setup) (system : System) : Decidable (system.PassedOnce setup) := by
  unfold PassedOnce
  infer_instance

/-- No manifest is being handled, and none was invalid. -/
def Manifestless (system : System) : Prop :=
  system.books.invalid = [] ∧ ∀ objectId, system.storeThread ≠ .manifest objectId

/-- The step does not drop the object of an event: the controller is subscribed when
an `ObjectAdded` is dispatched; in the list controller the packager is there when it
is handled; and in the streaming controller the object is in the store when it is
looked up. -/
def Delivers (setup : Setup) (system : System) : Label → Prop
  | .dispatch => ∀ objectId, system.storeThread = .popped (.objectAdded objectId) →
      system.subscribed = true
  | .handle => ∀ objectId, system.storeThread = .handling objectId →
      match setup.kind with
      | .objectList => system.current ≠ none
      | .objectStreaming => objectId ∈ system.objects.store
  | .updateManifest _ => ∀ objectId, system.storeThread = .manifest objectId →
      objectId ∈ system.objects.store
  | _ => True

/-- No object was passed to the packager, and the thread of the store has no pointer to it
to pass one. -/
def Unused (system : System) (index : ℕ) : Prop :=
  (∀ objectId, (index, objectId) ∉ system.books.handed) ∧ system.storeThread.held ≠ some index

/-- The packager that the step replaces, if the constructor sets its own in it, is unused. -/
def Lasts (system : System) : Label → Prop
  | .construct => ∀ rest index, system.replacing = none →
      system.remaining = .setObjectListPackager :: rest → system.current = some index →
        system.Unused index
  | _ => True

/-- What a step does to the account of the added objects. -/
structure Entered (setup : Setup) (label : Label) (system next : System) : Prop where
  total : next.account = system.account + ((addedBy label).toList : Multiset String)
  added : next.books.added = system.books.added ++ (addedBy label).toList
  lost : next.books.lost = [] ↔ system.books.lost = [] ∧ system.Delivers setup label

variable {setup : Setup} {system next : System} {label : Label}

/-- A step that drops nothing and passes nothing to a packager. -/
theorem Entered.same (hlabel : addedBy label = none) (haccount : next.account = system.account)
    (hadded : next.books.added = system.books.added)
    (hlost : next.books.lost = system.books.lost)
    (hdelivers : system.Delivers setup label) : Entered setup label system next where
  total := by rw [haccount, hlabel, Option.toList_none, Multiset.coe_nil, add_zero]
  added := by rw [hadded, hlabel, Option.toList_none, List.append_nil]
  lost := by rw [hlost, and_iff_left hdelivers]

/-- A step that drops an object. -/
theorem Entered.drops {objectId : String} (hlabel : addedBy label = none)
    (haccount : next.account = system.account)
    (hadded : next.books.added = system.books.added)
    (hlost : next.books.lost = system.books.lost ++ [objectId])
    (hdelivers : ¬ system.Delivers setup label) : Entered setup label system next where
  total := by rw [haccount, hlabel, Option.toList_none, Multiset.coe_nil, add_zero]
  added := by rw [hadded, hlabel, Option.toList_none, List.append_nil]
  lost := by
    rw [hlost]
    constructor
    · intro hnil
      exact absurd hnil (by simp)
    · intro hboth
      exact absurd hboth.2 hdelivers

/-- All ids on their way but the one that the thread of the store has. -/
theorem account_of_storeThread {objectId : String}
    (hthread : system.storeThread.objectIds = [objectId]) :
    system.account = account { system with storeThread := .waiting } + {objectId} := by
  rw [account, account, hthread, Multiset.coe_singleton]
  change _ = _ + (([] : List String) : Multiset String) + _ + _ + _ + _
  rw [Multiset.coe_nil]
  abel

theorem Entered.addObject (objectId : String) (data : ObjectData) (metadata : Metadata) :
    Entered setup (.addObject objectId data metadata) system { system with
      objects := system.objects.addObject objectId data metadata
      books := { system.books with added := system.books.added ++ [objectId] } } := by
  refine ⟨?_, rfl, (and_iff_left trivial).symm⟩
  have hpending : pendingAdded (system.objects.addObject objectId data metadata) =
      pendingAdded system.objects ++ [objectId] := by
    rw [pendingAdded, ObjectStore.addObject, List.filterMap_append]
    rfl
  rw [account, account, hpending, Held.coe_concat]
  change _ + _ + (system.books.passed : Multiset String) + _ + _ =
    _ + (([objectId] : List String) : Multiset String)
  rw [Multiset.coe_singleton]
  abel

theorem Entered.popped {event : StoreEvent} {rest : List StoreEvent}
    (hthread : system.storeThread = .waiting) (hevents : system.objects.events = event :: rest) :
    Entered setup .popEvent system { system with
      objects := { system.objects with events := rest }
      storeThread := .popped event } := by
  refine .same rfl ?_ rfl rfl trivial
  rw [account, account, pendingAdded_of_events hevents, hthread, ← Multiset.coe_add]
  change (rest.filterMap addedId : Multiset String) + _ + _ + _ + _ =
    _ + _ + (([] : List String) : Multiset String) + _ + _ + _
  rw [Multiset.coe_nil]
  abel

theorem passed_concat (books : Books) (index : ℕ) (objectId : String) :
    { books with handed := books.handed ++ [(index, objectId)] }.passed =
      books.passed ++ [objectId] :=
  List.map_append

/-- The object of the thread of the store is passed to a packager. -/
theorem Entered.add {objectId : String} {index : ℕ}
    (hthread : system.storeThread = .holding objectId index) (running : RunningPackager)
    {after : StoreThread} (hafter : after.objectIds = []) :
    Entered setup .addItem system { system with
      storeThread := after
      packagers := system.packagers.set index (running.add objectId)
      books := { system.books with
        handed := system.books.handed ++ [(index, objectId)] } } := by
  refine .same rfl ?_ rfl rfl trivial
  have hids : system.storeThread.objectIds = [objectId] := by rw [hthread]; rfl
  rw [account_of_storeThread hids, account, account, hafter, passed_concat, Held.coe_concat]
  change _ + (([] : List String) : Multiset String) + _ + _ + _ =
    _ + (([] : List String) : Multiset String) + (system.books.passed : Multiset String) + _ + _ + _
  abel

/-- The object of the thread of the store is done with, whatever the books say of it. -/
theorem account_drop {objectId : String} (hthread : system.storeThread.objectIds = [objectId]) :
    (system.drop objectId).account = system.account := by
  rw [drop, account_of_storeThread hthread, account, account]
  change _ + _ + (system.books.passed : Multiset String) + _ +
      ((system.books.lost ++ [objectId] : List String) : Multiset String) =
    _ + _ + _ + _ + (system.books.lost : Multiset String) + _
  rw [Held.coe_concat]
  abel

theorem account_rejectManifest {objectId : String}
    (hthread : system.storeThread.objectIds = [objectId]) :
    (system.rejectManifest objectId).account = system.account := by
  rw [rejectManifest, account_of_storeThread hthread, account, account]
  change _ + _ + (system.books.passed : Multiset String) +
      ((system.books.invalid ++ [objectId] : List String) : Multiset String) + _ =
    _ + _ + _ + (system.books.invalid : Multiset String) + _ + _
  rw [Held.coe_concat]
  abel

/-- The thread of the store goes on with the object it has, or with none. -/
theorem account_onward {before : StoreThread} (hthread : system.storeThread = before)
    (after : StoreThread) (hids : after.objectIds = before.objectIds) :
    account { system with storeThread := after } = system.account := by
  rw [account, account, hthread, hids]

theorem account_keepAfterSend {objectId : String}
    (hthread : system.storeThread = .handling objectId) :
    account { system with
      objects := keepAfterSend system.objects objectId
      storeThread := .manifest objectId } = system.account := by
  rw [account, account, hthread, pendingAdded_keepAfterSend]
  rfl

theorem delivers_dispatch {objectId : String}
    (hthread : system.storeThread = .popped (.objectAdded objectId)) :
    system.Delivers setup .dispatch ↔ system.subscribed = true :=
  ⟨fun hall => hall objectId hthread, fun hsubscribed _ _ => hsubscribed⟩

theorem delivers_dispatch_objectDeleted {objectId : String}
    (hthread : system.storeThread = .popped (.objectDeleted objectId)) :
    system.Delivers setup .dispatch := by
  intro other hother
  cases hthread.symm.trans hother

theorem delivers_handle_passing (hthread : system.storeThread = .passing) :
    system.Delivers setup .handle := by
  intro other hother
  cases hthread.symm.trans hother

theorem delivers_handle_objectList {objectId : String}
    (hthread : system.storeThread = .handling objectId) (hkind : setup.kind = .objectList) :
    system.Delivers setup .handle ↔ system.current ≠ none := by
  rw [Delivers, hkind]
  exact ⟨fun hall => hall objectId hthread, fun hcurrent _ _ => hcurrent⟩

theorem delivers_handle_objectStreaming {objectId : String}
    (hthread : system.storeThread = .handling objectId)
    (hkind : setup.kind = .objectStreaming) :
    system.Delivers setup .handle ↔ objectId ∈ system.objects.store := by
  rw [Delivers, hkind, hthread]
  constructor
  · intro hall
    exact hall objectId rfl
  · intro hmem other hother
    exact StoreThread.handling.inj hother ▸ hmem

theorem delivers_updateManifest {objectId : String} {result : ManifestResult}
    (hthread : system.storeThread = .manifest objectId) :
    system.Delivers setup (.updateManifest result) ↔ objectId ∈ system.objects.store := by
  rw [Delivers, hthread]
  constructor
  · intro hall
    exact hall objectId rfl
  · intro hmem other hother
    exact StoreThread.manifest.inj hother ▸ hmem

/-- A packager deletes objects at most, which is no `ObjectAdded`. -/
theorem Entered.packager (hsound : system.PackagersSound) {index : ℕ}
    {running : RunningPackager} (hrunning : system.packagers[index]? = some running)
    {packagerLabel : PackagerLabel} {turn : Turn}
    (hturn : running.turn (system.abandoned index) system.objects packagerLabel = some turn) :
    Entered setup (.packager index packagerLabel) system { system with
      objects := turn.objects
      packagers := system.packagers.set index turn.running
      books := { system.books with failed := system.books.failed ++ turn.failed } } := by
  have hturned := (hsound running (List.mem_of_getElem? hrunning)).turn hturn
  have hpending : pendingAdded turn.objects = pendingAdded system.objects := by
    obtain ⟨hobjects, _⟩ | ⟨deleted, hobjects, _⟩ := hturned.ids
    · rw [hobjects]
    · rw [hobjects, pendingAdded_deleteObject]
  refine .same rfl ?_ rfl rfl trivial
  rw [account, account, hpending]
  rfl

/-- An invalid manifest is done with, and its packager goes too. -/
theorem account_unset {objectId : String} (hthread : system.storeThread.objectIds = [objectId]) :
    (system.rejectManifest objectId).unsetPackager.account = system.account := by
  rw [← account_rejectManifest hthread, account, account, unsetPackager, objectIds_leaving]
  rfl

theorem step_entered (hsound : system.PackagersSound)
    (hstep : step setup system label = some next) : Entered setup label system next := by
  have hids : ∀ {thread : StoreThread}, system.storeThread = thread →
      system.storeThread.objectIds = thread.objectIds := congrArg StoreThread.objectIds
  cases step_taken hstep with
  | addObject objectId data metadata => exact .addObject objectId data metadata
  | popped hthread hevents => exact .popped hthread hevents
  | dispatched hthread hsubscribed =>
      exact .same rfl (account_onward hthread (.handling _) rfl) rfl rfl
        ((delivers_dispatch hthread).mpr hsubscribed)
  | unheard hthread hnot =>
      exact .drops rfl (account_drop (hids hthread)) rfl rfl
        ((delivers_dispatch hthread).not.mpr hnot)
  | deletion hthread =>
      refine .same rfl (account_onward hthread _ ?_) rfl rfl
        (delivers_dispatch_objectDeleted hthread)
      split
      · rfl
      · rfl
  | passed hthread =>
      exact .same rfl (account_onward hthread .waiting rfl) rfl rfl
        (delivers_handle_passing hthread)
  | drop hthread hkind hcurrent =>
      exact .drops rfl (account_drop (hids hthread)) rfl rfl
        ((delivers_handle_objectList hthread hkind).not.mpr (not_not.mpr hcurrent))
  | handlePackager hthread hkind hcurrent =>
      have hne : system.current ≠ none := by simp [hcurrent]
      exact .same rfl (account_onward hthread (.holding _ _) rfl) rfl rfl
        ((delivers_handle_objectList hthread hkind).mpr hne)
  | checkFailed hthread hkind habsent =>
      exact .drops rfl (account_drop (hids hthread)) rfl rfl
        ((delivers_handle_objectStreaming hthread hkind).not.mpr habsent)
  | manifest hthread hkind hmem =>
      exact .same rfl (account_keepAfterSend hthread) rfl rfl
        ((delivers_handle_objectStreaming hthread hkind).mpr hmem)
  | noManifest hthread hkind hmem =>
      exact .same rfl (account_onward hthread (.packaging _) rfl) rfl rfl
        ((delivers_handle_objectStreaming hthread hkind).mpr hmem)
  | updateFailed hthread habsent =>
      exact .drops rfl (account_drop (hids hthread)) rfl rfl
        ((delivers_updateManifest hthread).not.mpr habsent)
  | updated manifestHandler hthread hmem =>
      exact .same rfl (account_onward hthread (.packaging _) rfl) rfl rfl
        ((delivers_updateManifest hthread).mpr hmem)
  | rejected hthread hmem =>
      exact .same rfl (account_rejectManifest (hids hthread)) rfl rfl
        ((delivers_updateManifest hthread).mpr hmem)
  | unset hthread hmem =>
      exact .same rfl (account_unset (hids hthread)) rfl rfl
        ((delivers_updateManifest hthread).mpr hmem)
  | checkPackager hthread =>
      refine .same rfl (account_onward hthread _ ?_) rfl rfl trivial
      split
      · rfl
      · rfl
  | setObjectListPackager hthread =>
      exact .same rfl (account_onward hthread _ (objectIds_leaving _ _ _)) rfl rfl trivial
  | getObjectListPackager hthread =>
      exact .same rfl (account_onward hthread (.holding _ _) rfl) rfl rfl trivial
  | addItem hthread => exact .add hthread _ (objectIds_leaving _ _ _)
  | resume hthread =>
      exact .same rfl (account_onward hthread _ (objectIds_onward _)) rfl rfl trivial
  | packager hrunning hturn => exact .packager hsound hrunning hturn
  | _ => exact .same rfl rfl rfl rfl trivial

/-! ## The packager that the constructor replaces -/

/-- No object was passed to the packager that the constructor replaced, or is to be. -/
def Clean (system : System) : Prop :=
  ∀ index, system.books.replaced = some index → system.Unused index

/-- The constructor sets its packager once, and what it replaces is not the controller's
packager again. -/
structure SetsOnce (system : System) : Prop where
  remaining : system.remaining.Nodup
  replaced : .setObjectListPackager ∈ system.remaining → system.books.replaced = none
  current : ∀ index, system.current = some index → index < system.packagers.length
  old : ∀ index, system.books.replaced = some index →
    index < system.packagers.length ∧ system.current ≠ some index

/-- A step that sets no packager. -/
theorem SetsOnce.same (honce : system.SetsOnce) (hremaining : next.remaining <:+ system.remaining)
    (hreplaced : next.books.replaced = system.books.replaced)
    (hcurrent : next.current = system.current ∨ next.current = none)
    (hlength : next.packagers.length = system.packagers.length) : next.SetsOnce where
  remaining := honce.remaining.sublist hremaining.sublist
  replaced := by
    intro hmem
    rw [hreplaced]
    exact honce.replaced (hremaining.subset hmem)
  current := by
    intro index hindex
    rw [hlength]
    obtain hsame | hnone := hcurrent
    · exact honce.current index (hsame ▸ hindex)
    · cases hnone.symm.trans hindex
  old := by
    intro index hindex
    rw [hreplaced] at hindex
    obtain ⟨hless, hother⟩ := honce.old index hindex
    refine ⟨hlength ▸ hless, ?_⟩
    obtain hsame | hnone := hcurrent
    · rw [hsame]
      exact hother
    · rw [hnone]
      exact Option.some_ne_none index |>.symm

theorem SetsOnce.setPackager (honce : system.SetsOnce)
    (hremaining : next.remaining <:+ system.remaining)
    (hcurrent : next.current = some system.packagers.length)
    (hlength : next.packagers.length = system.packagers.length + 1)
    (hreplaced : .setObjectListPackager ∈ next.remaining → next.books.replaced = none)
    (hold : ∀ index, next.books.replaced = some index → index < system.packagers.length) :
    next.SetsOnce where
  remaining := honce.remaining.sublist hremaining.sublist
  replaced := hreplaced
  current := by
    intro index hindex
    obtain rfl := Option.some.inj (hcurrent.symm.trans hindex)
    exact hlength ▸ Nat.lt_succ_self _
  old := by
    intro index hindex
    have hless := hold index hindex
    refine ⟨hlength ▸ Nat.lt_succ_of_lt hless, ?_⟩
    rw [hcurrent]
    exact fun hsame => hless.ne (Option.some.inj hsame).symm

theorem SetsOnce.step (honce : system.SetsOnce)
    (hstep : System.step setup system label = some next) : next.SetsOnce := by
  have hsuffix := step_remaining hstep
  cases step_taken hstep with
  | subscribeToPackager => exact honce.same hsuffix rfl (.inl rfl) List.length_set
  | setOwnPackager _ hremaining =>
      refine honce.setPackager hsuffix rfl List.length_append ?_ honce.current
      intro hmem
      have hnodup := honce.remaining
      rw [hremaining] at hnodup
      exact absurd hmem (List.nodup_cons.mp hnodup).1
  | setObjectListPackager =>
      exact honce.setPackager hsuffix rfl List.length_append honce.replaced
        fun index hindex => (honce.old index hindex).1
  | unset => exact honce.same hsuffix rfl (.inr rfl) rfl
  | addItem => exact honce.same hsuffix rfl (.inl rfl) List.length_set
  | packager => exact honce.same hsuffix rfl (.inl rfl) List.length_set
  | _ => exact honce.same hsuffix rfl (.inl rfl) rfl

theorem setsOnce_start (setup : Setup) : (start setup).SetsOnce where
  remaining := by
    rw [start]
    cases setup.kind with
    | objectList => decide
    | objectStreaming => decide
  replaced := fun _ => rfl
  current := fun _ hindex => by cases hindex
  old := fun _ hindex => by cases hindex

/-- The packager that was replaced is as unused as before. -/
theorem clean_congr (hhanded : next.books.handed = system.books.handed)
    (hreplaced : next.books.replaced = system.books.replaced)
    (hheld : next.storeThread.held = system.storeThread.held) : next.Clean ↔ system.Clean := by
  unfold Clean Unused
  rw [hhanded, hreplaced, hheld]

/-- The thread of the store gets a pointer to the controller's packager, which was not
replaced. -/
theorem SetsOnce.clean_holding (honce : system.SetsOnce) {index : ℕ}
    (hcurrent : system.current = some index) (hheld : system.storeThread.held = none)
    (objectId : String) :
    Clean { system with storeThread := .holding objectId index } ↔ system.Clean := by
  refine forall_congr' fun other => imp_congr_right fun hreplaced => and_congr_right fun _ => ?_
  refine iff_of_true ?_ (by rw [hheld]; exact (Option.some_ne_none other).symm)
  rintro hsame
  obtain rfl : index = other := Option.some.inj hsame
  exact (honce.old index hreplaced).2 hcurrent

/-- An object is passed to a packager to which the thread of the store had a pointer. -/
theorem clean_add {objectId : String} {index : ℕ}
    (hthread : system.storeThread = .holding objectId index)
    (hhanded : next.books.handed = system.books.handed ++ [(index, objectId)])
    (hreplaced : next.books.replaced = system.books.replaced)
    (hheld : next.storeThread.held = none) : next.Clean ↔ system.Clean := by
  have hbefore : system.storeThread.held = some index := by rw [hthread]; rfl
  unfold Clean Unused
  rw [hreplaced, hhanded, hheld, hbefore]
  refine forall_congr' fun other => imp_congr_right fun _ => ?_
  constructor
  · rintro ⟨hnone, -⟩
    refine ⟨fun id hmem => hnone id (List.mem_append_left _ hmem), fun hsame => ?_⟩
    obtain rfl := Option.some.inj hsame
    exact hnone objectId (List.mem_append_right _ (List.mem_singleton_self _))
  · rintro ⟨hnone, hother⟩
    refine ⟨fun id hmem => ?_, (Option.some_ne_none other).symm⟩
    cases List.mem_append.mp hmem with
    | inl hold => exact hnone id hold
    | inr hnew =>
        rw [(Prod.mk.inj (List.mem_singleton.mp hnew)).1] at hother
        exact hother rfl

/-- The constructor replaces the controller's packager. -/
theorem clean_setOwnPackager {rest : List ConstructorStep} (hreplacing : system.replacing = none)
    (hremaining : system.remaining = .setObjectListPackager :: rest)
    (hreplaced : next.books.replaced = system.current)
    (hhanded : next.books.handed = system.books.handed)
    (hthread : next.storeThread = system.storeThread) :
    next.Clean ↔ system.Lasts .construct := by
  unfold Clean Unused
  rw [hreplaced, hhanded, hthread]
  constructor
  · intro hclean _ index _ _ hcurrent
    exact hclean index hcurrent
  · intro hlasts index hcurrent
    exact hlasts rest index hreplacing hremaining hcurrent

/-- A step of the constructor that sets no packager. -/
theorem lasts_of_remaining {first : ConstructorStep} {rest : List ConstructorStep}
    (hremaining : system.remaining = first :: rest) (hfirst : first ≠ .setObjectListPackager) :
    system.Lasts .construct := by
  intro _ _ _ hother
  rw [hremaining] at hother
  exact absurd (List.cons.inj hother).1 hfirst

theorem step_clean_iff (honce : system.SetsOnce)
    (hstep : step setup system label = some next) :
    next.Clean ↔ system.Clean ∧ system.Lasts label := by
  have hsame : next.books.handed = system.books.handed →
      next.books.replaced = system.books.replaced →
      next.storeThread.held = system.storeThread.held → system.Lasts label →
        (next.Clean ↔ system.Clean ∧ system.Lasts label) :=
    fun hhanded hreplaced hheld hlasts => by
      rw [clean_congr hhanded hreplaced hheld, and_iff_left hlasts]
  have hheld : ∀ {thread : StoreThread}, system.storeThread = thread → thread.held = none →
      none = system.storeThread.held := fun hthread hnone => hthread ▸ hnone.symm
  cases step_taken hstep with
  | replaced hreplacing =>
      refine hsame rfl rfl rfl fun _ _ hother => ?_
      cases hreplacing.symm.trans hother
  | subscribeToStore hremaining =>
      exact hsame rfl rfl rfl (lasts_of_remaining hremaining (by decide))
  | initObjectIngester hremaining =>
      exact hsame rfl rfl rfl (lasts_of_remaining hremaining (by decide))
  | getOwnPackager hremaining =>
      exact hsame rfl rfl rfl (lasts_of_remaining hremaining (by decide))
  | subscribeToPackager hremaining =>
      exact hsame rfl rfl rfl (lasts_of_remaining hremaining (by decide))
  | startWorker hremaining =>
      exact hsame rfl rfl rfl (lasts_of_remaining hremaining (by decide))
  | setOwnPackager hreplacing hremaining =>
      have hclean : system.Clean := by
        intro index hindex
        have hnone := honce.replaced (hremaining ▸ List.mem_cons_self)
        cases hnone.symm.trans hindex
      rw [and_iff_right hclean]
      exact clean_setOwnPackager hreplacing hremaining rfl rfl rfl
  | popped hthread => exact hsame rfl rfl (hheld hthread rfl) trivial
  | dispatched hthread => exact hsame rfl rfl (hheld hthread rfl) trivial
  | unheard hthread => exact hsame rfl rfl (hheld hthread rfl) trivial
  | deletion hthread =>
      refine hsame rfl rfl ?_ trivial
      rw [← hheld hthread rfl]
      change (if system.subscribed then _ else _ : StoreThread).held = none
      split
      · rfl
      · rfl
  | passed hthread => exact hsame rfl rfl (hheld hthread rfl) trivial
  | drop hthread => exact hsame rfl rfl (hheld hthread rfl) trivial
  | handlePackager hthread _ hcurrent =>
      exact (honce.clean_holding hcurrent (hheld hthread rfl).symm _).trans
        (and_iff_left trivial).symm
  | checkFailed hthread => exact hsame rfl rfl (hheld hthread rfl) trivial
  | manifest hthread => exact hsame rfl rfl (hheld hthread rfl) trivial
  | noManifest hthread => exact hsame rfl rfl (hheld hthread rfl) trivial
  | updateFailed hthread => exact hsame rfl rfl (hheld hthread rfl) trivial
  | updated _ hthread => exact hsame rfl rfl (hheld hthread rfl) trivial
  | rejected hthread => exact hsame rfl rfl (hheld hthread rfl) trivial
  | unset hthread =>
      exact hsame rfl rfl ((held_leaving _ _ _).trans (hheld hthread rfl)) trivial
  | checkPackager hthread =>
      refine hsame rfl rfl ?_ trivial
      rw [← hheld hthread rfl]
      change (if system.current.isNone then _ else _ : StoreThread).held = none
      split
      · rfl
      · rfl
  | setObjectListPackager hthread =>
      exact hsame rfl rfl ((held_leaving _ _ _).trans (hheld hthread rfl)) trivial
  | getObjectListPackager hthread hcurrent =>
      exact (honce.clean_holding hcurrent (hheld hthread rfl).symm _).trans
        (and_iff_left trivial).symm
  | addItem hthread =>
      exact Iff.trans (b := system.Clean) (clean_add hthread rfl rfl (held_leaving _ _ _))
        (and_iff_left trivial).symm
  | resume hthread =>
      exact hsame rfl rfl ((held_onward _).trans (hheld hthread rfl)) trivial
  | _ => exact hsame rfl rfl rfl trivial

/-! ## Runs -/

theorem packagersSound_step (hsound : system.PackagersSound)
    (hstep : step setup system label = some next) : next.PackagersSound :=
  (step_stepped hsound hstep).sound

/-- In every run each added object is where the account says. -/
theorem account_of_run {labels : List Label} {final : System}
    (hrun : run (step setup) (start setup) labels = some final) :
    (final.books.added : Multiset String) = final.account := by
  have hstep : ∀ system label next,
      system.PackagersSound ∧ (system.books.added : Multiset String) = system.account →
      step setup system label = some next →
        next.PackagersSound ∧ (next.books.added : Multiset String) = next.account := by
    intro system label next hinv hstep
    have hentered := step_entered hinv.1 hstep
    refine ⟨packagersSound_step hinv.1 hstep, ?_⟩
    rw [hentered.added, hentered.total, ← hinv.2]
    exact (Multiset.coe_add _ _).symm
  have hfinal : final.PackagersSound ∧
      (final.books.added : Multiset String) = final.account :=
    run_invariant hstep ⟨packagersSound_start setup, rfl⟩ hrun
  exact hfinal.2

/-- Objects are dropped by the steps that do not deliver. -/
theorem lost_eq_nil_iff {labels : List Label} {final : System}
    (hrun : run (step setup) (start setup) labels = some final) :
    final.books.lost = [] ↔ Guarded (step setup) (Delivers setup) (start setup) labels := by
  have hiff := run_iff_guarded (P := fun system : System => system.books.lost = [])
    (fun _ _ _ hsound hstep => packagersSound_step hsound hstep)
    (fun _ _ _ hsound hstep => (step_entered hsound hstep).lost)
    (packagersSound_start setup) hrun
  rw [hiff]
  exact and_iff_right rfl

/-- With no object in the thread of the store, what is clean has no orphans. -/
theorem orphaned_eq_nil_iff_clean (hthread : system.storeThread.objectIds = []) :
    system.books.orphaned = [] ↔ system.Clean := by
  have hheld : system.storeThread.held = none := by
    cases hstore : system.storeThread with
    | holding objectId index =>
        rw [hstore] at hthread
        cases hthread
    | _ => rfl
  rw [Books.orphaned, List.map_eq_nil_iff, List.filter_eq_nil_iff]
  constructor
  · intro hnone index hreplaced
    refine ⟨fun objectId hmem => ?_, by rw [hheld]; exact (Option.some_ne_none index).symm⟩
    exact hnone _ hmem (decide_eq_true hreplaced)
  · rintro hclean ⟨index, objectId⟩ hmem hreplaced
    exact (hclean index (of_decide_eq_true hreplaced)).1 objectId hmem

theorem clean_iff {labels : List Label} {final : System}
    (hrun : run (step setup) (start setup) labels = some final) :
    final.Clean ↔ Guarded (step setup) Lasts (start setup) labels := by
  have hiff := run_iff_guarded (P := Clean)
    (fun _ _ _ honce hstep => honce.step hstep)
    (fun _ _ _ honce hstep => step_clean_iff honce hstep) (setsOnce_start setup) hrun
  rw [hiff]
  exact and_iff_right fun _ hreplaced => by cases hreplaced

/-! ## The list controller has no manifests -/

theorem Manifestless.step (hkind : setup.kind = .objectList) (hinv : system.Manifestless)
    (hstep : System.step setup system label = some next) : next.Manifestless := by
  have hleaving : ∀ (before : System) dropped objectId,
      ∀ manifest, before.leaving dropped objectId ≠ .manifest manifest := by
    intro before dropped objectId manifest hmanifest
    have hids := objectIds_leaving before dropped objectId
    obtain hthread | ⟨index, hthread, -⟩ := before.leaving_cases dropped objectId
    · rw [hmanifest] at hthread
      cases objectId with
      | none => cases hthread
      | some objectId => cases hthread
    · cases hmanifest.symm.trans hthread
  cases step_taken hstep with
  | checkFailed _ hother => cases hkind.symm.trans hother
  | manifest _ hother => cases hkind.symm.trans hother
  | noManifest _ hother => cases hkind.symm.trans hother
  | updateFailed hthread => exact absurd hthread (hinv.2 _)
  | updated _ hthread => exact absurd hthread (hinv.2 _)
  | rejected hthread => exact absurd hthread (hinv.2 _)
  | unset hthread => exact absurd hthread (hinv.2 _)
  | popped => exact ⟨hinv.1, fun _ hmanifest => StoreThread.noConfusion hmanifest⟩
  | dispatched => exact ⟨hinv.1, fun _ hmanifest => StoreThread.noConfusion hmanifest⟩
  | unheard => exact ⟨hinv.1, fun _ hmanifest => StoreThread.noConfusion hmanifest⟩
  | deletion =>
      refine ⟨hinv.1, fun objectId hmanifest => ?_⟩
      change (if system.subscribed then _ else _) = _ at hmanifest
      split at hmanifest
      · cases hmanifest
      · cases hmanifest
  | passed => exact ⟨hinv.1, fun _ hmanifest => StoreThread.noConfusion hmanifest⟩
  | drop => exact ⟨hinv.1, fun _ hmanifest => StoreThread.noConfusion hmanifest⟩
  | handlePackager => exact ⟨hinv.1, fun _ hmanifest => StoreThread.noConfusion hmanifest⟩
  | checkPackager =>
      refine ⟨hinv.1, fun objectId hmanifest => ?_⟩
      change (if system.current.isNone then _ else _) = _ at hmanifest
      split at hmanifest
      · cases hmanifest
      · cases hmanifest
  | setObjectListPackager => exact ⟨hinv.1, hleaving _ _ _⟩
  | getObjectListPackager => exact ⟨hinv.1, fun _ hmanifest => StoreThread.noConfusion hmanifest⟩
  | addItem => exact ⟨hinv.1, hleaving _ _ _⟩
  | @resume _ objectId =>
      refine ⟨hinv.1, fun manifest hmanifest => ?_⟩
      cases objectId with
      | none => cases hmanifest
      | some objectId => cases hmanifest
  | _ => exact ⟨hinv.1, hinv.2⟩

theorem manifestless_of_run (hkind : setup.kind = .objectList) {labels : List Label}
    {final : System} (hrun : run (System.step setup) (start setup) labels = some final) :
    final.Manifestless := by
  have hstart : (start setup).Manifestless :=
    ⟨rfl, fun _ hmanifest => StoreThread.noConfusion hmanifest⟩
  exact run_invariant (fun _ _ _ hinv hstep => hinv.step hkind hstep) hstart hrun

/-! ## Settled systems -/

/-- When nothing is on its way, what was not passed on was dropped. -/
theorem Settled.added_eq (hsettled : system.Settled)
    (haccount : (system.books.added : Multiset String) = system.account) :
    (system.books.added : Multiset String) =
      (system.books.passed : Multiset String) + (system.books.invalid : Multiset String) +
        (system.books.lost : Multiset String) := by
  obtain ⟨_, _, hevents, hthread⟩ := hsettled
  have hpending : pendingAdded system.objects = [] := by
    rw [pendingAdded, hevents]
    rfl
  rw [haccount, account, hpending, hthread, Multiset.coe_nil, zero_add, zero_add]

theorem passedOnce_iff_lost {labels : List Label} {final : System}
    (hrun : run (step setup) (start setup) labels = some final) (hsettled : final.Settled) :
    final.PassedOnce setup ↔ final.books.lost = [] := by
  have hexcused : final.excused setup = final.books.invalid := by
    unfold excused
    cases hkind : setup.kind with
    | objectList =>
        rw [(manifestless_of_run hkind hrun).1]
        rfl
    | objectStreaming => rfl
  rw [PassedOnce, hsettled.added_eq (account_of_run hrun), hexcused, add_eq_left,
    Multiset.coe_eq_zero]

/-- When a controller has started and no event is left, each added object was passed
to a packager once if and only if every step of the run delivered; and none was passed to
the packager that the constructor replaced if and only if that one was unused. -/
theorem settled_passedOnce_iff {labels : List Label} {final : System}
    (hrun : run (step setup) (start setup) labels = some final)
    (hsettled : final.Settled) :
    (final.PassedOnce setup ↔ Guarded (step setup) (Delivers setup) (start setup) labels) ∧
      (final.books.orphaned = [] ↔ Guarded (step setup) Lasts (start setup) labels) := by
  constructor
  · rw [passedOnce_iff_lost hrun hsettled]
    exact lost_eq_nil_iff hrun
  · obtain ⟨_, _, _, hthread⟩ := hsettled
    rw [orphaned_eq_nil_iff_clean hthread]
    exact clean_iff hrun

def listSetup : Setup := ⟨.objectList, "", some "239.0.0.1"⟩

def streamingSetup : Setup := ⟨.objectStreaming, "http://example.com/a.mpd", some "239.0.0.1"⟩

def objectOne : Label :=
  .addObject "1" [7] (.new 100 "1" "text/plain" "http://example.com/object1"
    "http://example.com/object1" "acq1" 90 none none none)

/-- An object that is added as soon as the list controller takes objects, but
dispatched only when the controller has a packager. -/
def lateDispatch : List Label :=
  [.construct, .construct, objectOne, .construct, .popEvent, .dispatch, .handle, .addItem]

theorem lateDispatch_passedOnce :
    ∃ final, run (step listSetup) (start listSetup) lateDispatch = some final ∧
      final.books.passed = ["1"] ∧ final.PassedOnce listSetup ∧
      Guarded (step listSetup) (Delivers listSetup) (start listSetup) lateDispatch ∧
      Guarded (step listSetup) Lasts (start listSetup) lateDispatch := by
  have hends : (run (step listSetup) (start listSetup) lateDispatch).any (fun final =>
      final.Settled ∧ final.books.passed = ["1"] ∧ final.PassedOnce listSetup ∧
        final.books.orphaned = []) = true := by
    decide +kernel
  obtain ⟨final, hrun, hfinal⟩ := (Option.any_eq_true _ _).mp hends
  obtain ⟨hsettled, hhanded, hpassed, horphaned⟩ := of_decide_eq_true hfinal
  have hiff := settled_passedOnce_iff hrun hsettled
  exact ⟨final, hrun, hhanded, hpassed, hiff.1.mp hpassed, hiff.2.mp horphaned⟩

/-- The list controller drops an object that is handled before it has a packager, and
in the streaming controller an object dispatched before it subscribes reaches
nobody. -/
theorem earlyDispatch_not_passedOnce :
    (∃ final, run (step listSetup) (start listSetup)
        [.construct, .construct, objectOne, .popEvent, .dispatch, .handle, .construct] =
          some final ∧
      final.Settled ∧ final.books.added = ["1"] ∧ final.books.passed = [] ∧
      ¬ final.PassedOnce listSetup) ∧
    ∃ final, run (step streamingSetup) (start streamingSetup)
        ([.construct, objectOne, .popEvent, .dispatch] ++ List.replicate 5 .construct) =
          some final ∧
      final.Settled ∧ final.books.added = ["1"] ∧ final.books.passed = [] ∧
      ¬ final.PassedOnce streamingSetup := by
  constructor
  · refine ⟨_, rfl, ?_, rfl, rfl, ?_⟩
    · decide +kernel
    · decide +kernel
  · refine ⟨_, rfl, ?_, rfl, rfl, ?_⟩
    · decide +kernel
    · decide +kernel

end System

end Mbstf.Controller
