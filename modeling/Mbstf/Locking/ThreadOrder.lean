import Mbstf.Locking.Threads

/-!
# The order of the mutexes and threads of a controller

Every mutex and every thread has a rank, and nearly all code acquires and joins upwards: an
ingest, a packaging or an event of the packager ends at the store, the mutex of the store is
below that of its events, and no thread joins one that could join it.  The one exception is
`PushObjectIngester::stop()`, which joins the thread of the daemon with a mutex in hand that
the daemon takes for every request.

So a controller without a push ingester is always destroyed in the end, and one that has a
push ingester unless the daemon has still to take that mutex when it is joined.
-/

namespace Mbstf.Threads

open Mbstf.Runs
open Mbstf.LockOrder

variable {pulls packagers : ℕ}

/-- The ranks of the mutexes.  That of the push ingester is left open. -/
def mutexRank (push : ℕ) : Mutex → ℕ
  | .push => push
  | .request _ => 10
  | .pushAsync => 12
  | .manifestHandler => 13
  | .ingestItems _ => 14
  | .packageItems _ => 15
  | .packagerAsync _ => 16
  | .store => 17
  | .storeAsync => 18

/-- The ranks of the threads. -/
def threadRank : Thread pulls packagers → ℕ
  | .caller => 0
  | .pushWorker => 1
  | .scheduledPull => 3
  | .storeEvents => 4
  | .pull _ => 5
  | .worker _ => 6
  | .packagerEvents _ => 7
  | .daemon => 8
  | .pushEvents => 9

/-- A rank of the push ingester's mutex that is below that of the daemon's thread. -/
abbrev lowRank : Mutex → ℕ := mutexRank 2

/-- A rank of the push ingester's mutex that is above what the daemon holds when it takes it. -/
abbrev highRank : Mutex → ℕ := mutexRank 11

/-- Steps that a thread of some rank can take with some mutexes in hand. -/
abbrev Fits (push floor : ℕ) (held : List Mutex) (steps : Steps pulls packagers) : Prop :=
  Nested (mutexRank push) threadRank floor held steps

variable {push floor : ℕ} {held : List Mutex} {mutex : Mutex} {steps : Steps pulls packagers}

theorem fits_guarded (hfloor : floor < mutexRank push mutex)
    (hsteps : Fits push floor [mutex] steps) : Fits push floor [] (guarded mutex steps) :=
  nested_guarded hfloor (fun _ hother => by cases hother) hsteps

theorem fits_use (hfloor : floor < mutexRank push mutex) :
    Fits push floor [] (guarded mutex [] : Steps pulls packagers) :=
  fits_guarded hfloor nested_nil

theorem fits_window (hfloor : floor < mutexRank push mutex) (hsteps : Fits push floor [] steps) :
    Fits push floor [mutex] (window mutex steps) :=
  nested_window hfloor (fun _ hother => by cases hother) hsteps

theorem fits_join {thread : Thread pulls packagers} {left : ℕ}
    (hfloor : floor < threadRank thread) : Fits push floor [] [.wait thread left] :=
  nested_wait hfloor fun _ hother => by cases hother

/-- Steps that may be left out. -/
theorem fits_elim {Item : Type} {part : Item → Steps pulls packagers}
    (hpart : ∀ item, Fits push floor held (part item)) (item : Option Item) :
    Fits push floor held (item.elim [] part) := by
  cases item with
  | none => exact nested_nil
  | some item => exact hpart item

/-! ## The event services -/

/-- A delivery ends without the mutex of the service, whether or not a handler throws. -/
theorem ordered_deliver (hfloor : floor < mutexRank push mutex)
    {calls : List (Handled pulls packagers)}
    (hcalls : ∀ call ∈ calls, Fits push floor [] call.script) {rest : Steps pulls packagers}
    (hrest : Ordered (mutexRank push) threadRank floor [] rest) :
    Ordered (mutexRank push) threadRank floor [mutex]
      (deliver mutex calls ++ .release mutex :: rest) := by
  induction calls with
  | nil =>
      change Ordered _ _ floor ([mutex].erase mutex) rest
      rwa [List.erase_cons_head]
  | cons call calls ih =>
      have hcall := hcalls call List.mem_cons_self
      rw [deliver]
      split
      · rw [List.append_assoc]
        exact fits_window hfloor hcall _
          (ih fun other hother => hcalls other (List.mem_cons_of_mem call hother))
      · -- The guard unlocks a mutex that is not held.
        change Ordered _ _ floor ([mutex].erase mutex) (call.script ++ .release mutex :: rest)
        rw [List.erase_cons_head]
        refine hcall _ ?_
        change Ordered _ _ floor (([] : List Mutex).erase mutex) rest
        exact hrest

theorem fits_sendEventSynchronous (hfloor : floor < mutexRank push mutex)
    {calls : List (Handled pulls packagers)}
    (hcalls : ∀ call ∈ calls, Fits push floor [] call.script) :
    Fits push floor [] (sendEventSynchronous mutex calls) := by
  intro rest hrest
  refine ⟨Or.inr ⟨hfloor, fun _ hother => by cases hother⟩, ?_⟩
  change Ordered _ _ floor [mutex] (deliver mutex calls ++ [.release mutex] ++ rest)
  rw [List.append_assoc]
  exact ordered_deliver hfloor hcalls hrest

theorem fits_sendEventAsynchronous (hfloor : floor < mutexRank push mutex)
    (hheld : ∀ other ∈ held, mutexRank push other < mutexRank push mutex)
    {events : Thread pulls packagers} :
    Fits push floor held (sendEventAsynchronous mutex events) :=
  nested_guarded hfloor hheld nested_start

theorem fits_asyncEventsLoop {Handling : Type} {handle : Handling → Handled pulls packagers}
    (hfloor : floor < mutexRank push mutex)
    (hhandle : ∀ handling, Fits push floor [] (handle handling).script)
    (turns : List (Turn Handling)) :
    Fits push floor [] (asyncEventsLoop mutex handle turns) := by
  refine nested_flatMap (fun turn => fits_guarded hfloor (Nested.append ?_ ?_)) turns
  · exact nested_flatMap (fun _ => fits_window hfloor nested_nil) _
  · refine nested_flatMap (fun calls => fits_window hfloor ?_) _
    refine fits_sendEventSynchronous hfloor ?_
    intro call hcall
    obtain ⟨handling, -, rfl⟩ := List.mem_map.mp hcall
    exact hhandle handling

theorem fits_destroyService {events : Thread pulls packagers}
    (hevents : floor < threadRank events) (hfloor : floor < mutexRank push mutex) :
    Fits push floor [] (destroyService mutex events) :=
  (fits_join hevents).append (fits_use hfloor)

/-! ## The functions -/

theorem fits_lookUp (hfloor : floor < 17) : Fits push floor [] (lookUp : Steps pulls packagers) :=
  fits_use hfloor

/-- The store is changed with no mutex in hand, or with one of lower rank. -/
theorem fits_changeObject (hfloor : floor < 17)
    (hheld : ∀ other ∈ held, mutexRank push other < 17) :
    Fits push floor held (changeObject : Steps pulls packagers) := by
  have hbelow : ∀ other ∈ .store :: held, mutexRank push other < mutexRank push .storeAsync := by
    intro other hother
    cases List.mem_cons.mp hother with
    | inl hstore =>
        subst hstore
        exact (by decide : 17 < 18)
    | inr hrest => exact (hheld other hrest).trans (by decide : 17 < 18)
  exact nested_guarded hfloor hheld
    (fits_sendEventAsynchronous (hfloor.trans (hbelow .store List.mem_cons_self)) hbelow)

theorem fits_addItem (hfloor : floor < 15) (packager : Fin packagers) :
    Fits push floor [] (addItem packager : Steps pulls packagers) :=
  fits_use hfloor

theorem fits_objectSendCompletion (hfloor : floor < 16) (packager : Fin packagers)
    (completions : ℕ) :
    Fits push floor [] (objectSendCompletion packager completions : Steps pulls packagers) :=
  nested_flatMap
    (fun _ => fits_sendEventAsynchronous hfloor fun _ hother => by cases hother) _

theorem fits_doObjectPackage (hfloor : floor < 15) (packager : Fin packagers)
    (round : PackageRound) :
    Fits push floor [] (doObjectPackage packager round : Steps pulls packagers) := by
  have hlookUp : Fits push floor [] (lookUp : Steps pulls packagers) :=
    fits_lookUp (hfloor.trans (by decide))
  have hcompletion : ∀ completions, Fits push floor []
      (objectSendCompletion packager completions : Steps pulls packagers) :=
    fits_objectSendCompletion (hfloor.trans (by decide)) packager
  cases round with
  | skipped => exact nested_nil
  | idle completions => exact (fits_use hfloor).append (hcompletion completions)
  | sent completions =>
      exact (fits_guarded hfloor (fits_window hfloor (hlookUp.append hlookUp))).append
        (hcompletion completions)
  | failed lookups =>
      -- The lookups are like a handler that throws.
      let call : Handled pulls packagers :=
        ⟨(List.range lookups).flatMap fun _ => lookUp, false⟩
      have hcall : ∀ other ∈ [call], Fits push floor [] other.script := by
        intro other hother
        rw [List.mem_singleton.mp hother]
        exact nested_flatMap (fun _ => hlookUp) _
      exact fits_sendEventSynchronous hfloor hcall

theorem fits_destroyPackager (hfloor : floor < 6) (packager : Fin packagers) :
    Fits push floor [] (destroyPackager packager : Steps pulls packagers) :=
  (fits_join hfloor).append
    (fits_destroyService (hfloor.trans (by decide : 6 < 7)) (hfloor.trans (by decide : 6 < 16)))

theorem fits_handOn (hfloor : floor < 15) (made : Option (Fin packagers))
    (packager : Fin packagers) :
    Fits push floor [] (handOn made packager : Steps pulls packagers) :=
  (fits_elim (fun _ => nested_start) made).append (fits_addItem hfloor packager)

theorem fits_handleStoreEvent (hfloor : floor < 6) (handling : StoreHandling packagers) :
    Fits push floor [] (handleStoreEvent handling : Handled pulls packagers).script := by
  have hlookUp : Fits push floor [] (lookUp : Steps pulls packagers) :=
    fits_lookUp (hfloor.trans (by decide))
  have hhandler : Fits push floor [] (manifestHandler : Steps pulls packagers) :=
    fits_use (hfloor.trans (by decide : 6 < 13))
  have hhandOn : ∀ made packager,
      Fits push floor [] (handOn made packager : Steps pulls packagers) :=
    fits_handOn (hfloor.trans (by decide))
  have hmanifest := ((hlookUp.append hlookUp).append hhandler).append hhandler
  cases handling with
  | ignored => exact nested_nil
  | listed packager => exact fits_elim (fits_addItem (hfloor.trans (by decide))) packager
  | missing => exact hlookUp
  | segment made packager => exact hlookUp.append (hhandOn made packager)
  | updated made packager =>
      exact (hmanifest.append nested_start).append (hhandOn made packager)
  | refused dropped =>
      exact hmanifest.append (fits_elim (fits_destroyPackager hfloor) dropped)
  | created made packager => exact hmanifest.append (hhandOn made packager)
  | unreadable => exact (hlookUp.append hlookUp).append hhandler

theorem fits_handleSent (hfloor : floor < 17) (handling : SentHandling) :
    Fits push floor [] (handleSent handling : Handled pulls packagers).script := by
  cases handling with
  | missing => exact fits_lookUp hfloor
  | kept => exact fits_lookUp hfloor
  | deleted =>
      exact (fits_lookUp hfloor).append
        (fits_changeObject hfloor fun _ hother => by cases hother)

theorem fits_doObjectIngest (hfloor : floor < 14) (ingester : Fin pulls) (round : PullRound) :
    Fits push floor [] (doObjectIngest ingester round : Steps pulls packagers) := by
  refine fits_guarded hfloor (Nested.append ?_ (fits_elim (fun stores => ?_) round.fetched))
  · split
    · exact fits_window hfloor nested_nil
    · exact nested_nil
  · refine fits_window hfloor ?_
    split
    · exact fits_changeObject (hfloor.trans (by decide)) fun _ hother => by cases hother
    · exact nested_nil

theorem fits_scheduledPulls (hfloor : floor < 13) (looks : ℕ)
    (rounds : List (ScheduledRound pulls)) :
    Fits push floor [] (scheduledPulls looks rounds : Steps pulls packagers) := by
  have hhandler : Fits push floor [] (manifestHandler : Steps pulls packagers) :=
    fits_use hfloor
  have hfetch : ∀ ingester : Fin pulls,
      Fits push floor [] (guarded (.ingestItems ingester) [] : Steps pulls packagers) :=
    fun ingester => fits_use (hfloor.trans (by decide : 13 < 14))
  refine (nested_flatMap (fun _ => hhandler) _).append (nested_flatMap (fun round => ?_) rounds)
  exact (hhandler.append (nested_flatMap (fun _ => nested_start) round.made)).append
    (nested_flatMap (fun ingester => hhandler.append (hfetch ingester)) round.handed)

/-- The daemon takes the mutex of the ingester with that of a request in hand. -/
theorem fits_callback (hpush : 10 < push) (hfloor : floor < 10) (call : Callback) :
    Fits push floor [] (callback call : Steps pulls packagers) := by
  have hrequest : ∀ request,
      Fits push floor [] (guarded (.request request) [] : Steps pulls packagers) :=
    fun request => fits_use hfloor
  have hmutex : Fits push floor [] (guarded .push [] : Steps pulls packagers) :=
    fits_use (hfloor.trans hpush)
  have hasync : floor < mutexRank push .pushAsync := hfloor.trans (by decide : 10 < 12)
  cases call with
  | started request headers subscribers =>
      refine ((nested_flatMap (fun _ => hrequest request) _).append hmutex).append ?_
      refine fits_sendEventSynchronous hasync ?_
      intro call hcall
      rw [List.eq_of_mem_replicate hcall]
      exact nested_nil
  | received request =>
      exact (hrequest request).append
        (fits_sendEventAsynchronous hasync fun _ hother => by cases hother)
  | processed request prefixes stores =>
      have hheld : ∀ bound, 10 < bound →
          ∀ other ∈ [Mutex.request request], mutexRank push other < bound := by
        intro bound hbound other hother
        rw [List.mem_singleton.mp hother]
        exact hbound
      refine fits_guarded hfloor (Nested.append ?_ ?_)
      · exact nested_flatMap
          (fun _ => nested_guarded (hfloor.trans hpush) (hheld push hpush) nested_nil) _
      · split
        · exact fits_changeObject (hfloor.trans (by decide)) (hheld 17 (by decide))
        · exact nested_nil
  | completed request => exact (hrequest request).append hmutex

theorem fits_startDaemon (hpush : floor < push) (server : PushServer) :
    Fits push floor [] (server.startDaemon : Steps pulls packagers) :=
  (nested_flatMap (fun _ => fits_use hpush) _).append (fits_guarded hpush nested_start)

theorem fits_init (hpush : 0 < push) (server : PushServer) :
    Fits push 0 [] (server.init : Steps pulls packagers) := by
  refine nested_start.append (Nested.append ?_ (fits_use (by decide : 0 < 12)))
  exact (nested_flatMap (fun _ => fits_use hpush) _).append
    ((fits_join (by decide : 0 < 1)).append (fits_use hpush))

/-! ## The threads -/

namespace Pipeline

variable (pipeline : Pipeline pulls packagers)

theorem fits_construct (hpush : 0 < push) : Fits push 0 [] pipeline.construct := by
  have hingester : Fits push 0 [] pipeline.initObjectIngester :=
    (fits_elim (fun _ => nested_start) _).append (fits_elim (fits_init hpush) _)
  have hstore : Fits push 0 [] (subscribe .storeAsync : Steps pulls packagers) :=
    fits_use (by decide : 0 < 18)
  have hpackager : Fits push 0 []
      (subscribe (.packagerAsync pipeline.firstPackager) : Steps pulls packagers) :=
    fits_use (by decide : 0 < 16)
  unfold construct
  split
  · exact (((hingester.append hstore).append nested_start).append hpackager).append nested_start
  · exact (hstore.append hingester).append nested_start

theorem fits_destroyFirst : Fits push 0 [] pipeline.destroyFirst := by
  refine Nested.append ?_ (fits_elim (fits_destroyPackager (by decide)) _)
  split
  · exact fits_join (by decide : 0 < 3)
  · exact nested_nil

theorem fits_destroyLast : Fits push 0 [] (destroyLast : Steps pulls packagers) :=
  (nested_flatMap (fun _ => fits_join (by decide : 0 < 5)) _).append
    (fits_destroyService (by decide : 0 < 4) (by decide : 0 < 18))

theorem fits_beforeStop (hpush : 0 < push) : Fits push 0 [] pipeline.beforeStop :=
  ((pipeline.fits_construct hpush).append pipeline.fits_destroyFirst).append
    (fits_join (by decide : 0 < 1))

/-- The caller keeps to the order when the mutex of the push ingester ranks low. -/
theorem fits_callerScript : Fits 2 0 [] pipeline.callerScript := by
  unfold callerScript
  split
  · exact ((pipeline.fits_construct (by decide)).append pipeline.fits_destroyFirst).append
      fits_destroyLast
  · refine (pipeline.fits_beforeStop (by decide)).append ?_
    have hstop : Fits 2 0 [] (guarded .push [.join .daemon] : Steps pulls packagers) := by
      refine fits_guarded (by decide) (nested_wait (by decide : 0 < 8) ?_)
      intro other hother
      rw [List.mem_singleton.mp hother]
      exact (by decide : 2 < 8)
    have hevents : Fits 2 0 []
        (destroyService .pushAsync .pushEvents : Steps pulls packagers) :=
      fits_destroyService (by decide : 0 < 9) (by decide)
    exact hstop.append (hevents.append fits_destroyLast)

/-- Every thread but the caller and the daemon keeps to the order, wherever the mutex of the
push ingester ranks above its worker. -/
theorem fits_script (hpush : 1 < push) {thread : Thread pulls packagers}
    (hcaller : thread ≠ .caller) (hdaemon : thread ≠ .daemon) :
    Fits push (threadRank thread) [] (pipeline.script thread) := by
  cases thread with
  | caller => exact absurd rfl hcaller
  | scheduledPull => exact fits_scheduledPulls (by decide : 3 < 13) _ _
  | storeEvents =>
      exact fits_asyncEventsLoop (by decide : 4 < 18) (fits_handleStoreEvent (by decide : 4 < 6)) _
  | pull ingester => exact nested_flatMap (fits_doObjectIngest (by decide : 5 < 14) ingester) _
  | worker packager =>
      exact nested_flatMap (fits_doObjectPackage (by decide : 6 < 15) packager) _
  | packagerEvents packager =>
      exact fits_asyncEventsLoop (by decide : 7 < 16) (fits_handleSent (by decide : 7 < 17)) _
  | pushWorker => exact fits_elim (fits_startDaemon hpush) _
  | daemon => exact absurd rfl hdaemon
  | pushEvents =>
      refine fits_elim (fun server => ?_) pipeline.push
      exact fits_asyncEventsLoop (by decide : 9 < 12) (fun _ => nested_nil) server.turns

theorem fits_daemon (hpush : 10 < push) : Fits push 8 [] (pipeline.script .daemon) := by
  refine fits_elim (fun server => ?_) pipeline.push
  exact nested_flatMap (fits_callback hpush (by decide : 8 < 10)) server.callbacks

end Pipeline

end Mbstf.Threads
