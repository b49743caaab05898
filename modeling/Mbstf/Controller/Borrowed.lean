import Mbstf.Controller.Deliveries

/-!
# References into the store

`doObjectPackage` takes references to the data and to the metadata of an object, without the
mutex of the store, and the transmitter gets a pointer to the data.  Both are good for as
long as the object is in the store and is not overwritten.
-/

namespace Mbstf.Controller

open Std Mbstf.Objects Mbstf.Session Mbstf.Runs

/-- The objects to which the worker has references, or to whose data the transmitter has a
pointer. -/
def RunningPackager.borrowed (running : RunningPackager) : List String :=
  (match running.packager.worker with
    | .picked item => [item.objectId]
    | .sent item => [item.objectId]
    | _ => []) ++
  (if running.outstanding = [] then [] else [running.packager.queuedObjectId])

namespace System

variable {setup : Setup} {system : System}

/-- What is borrowed is in transit. -/
theorem mem_store_of_borrowed (hfresh : system.Fresh) (hsound : system.PackagersSound)
    {running : RunningPackager} (hrunning : running ∈ system.packagers) {objectId : String}
    (hborrowed : objectId ∈ running.borrowed) : objectId ∈ system.objects.store := by
  have hnoDangling := hfresh.noDangling hsound
  have hold := hsound running hrunning
  have hfront : ∀ item, running.packager.packageItems.head? = some item →
      item.objectId ∈ system.objects.store := by
    intro item hitem
    exact hnoDangling.waiting running hrunning item (List.mem_of_head? hitem)
  cases List.mem_append.mp hborrowed with
  | inl hworker =>
      split at hworker
      case h_1 item hpicked =>
          rw [List.mem_singleton.mp hworker]
          exact hfront item (hold.picked item hpicked).1
      case h_2 item hsent =>
          rw [List.mem_singleton.mp hworker]
          exact hfront item (hold.sent item hsent).1
      case h_3 => cases hworker
  | inr htransmitter =>
      split at htransmitter
      case isTrue => cases htransmitter
      case isFalse houtstanding =>
          rw [List.mem_singleton.mp htransmitter]
          exact hnoDangling.transmitted running hrunning houtstanding

theorem exists_addObject_of_lastAdded {objectId : String} {labels : List Label} {object : Object}
    (hlast : lastAdded objectId labels = some object) :
    .addObject objectId object.1 object.2 ∈ labels := by
  obtain ⟨label, hlabel, hadded⟩ := List.mem_filterMap.mp (List.mem_of_getLast? hlast)
  unfold addedUnder at hadded
  split at hadded
  case h_1 added data metadata =>
      obtain ⟨rfl, hobject⟩ := Option.ite_none_right_eq_some.mp hadded
      rw [← Option.some.inj hobject]
      exact hlabel
  case h_2 => cases hadded

/-- When the ids of the added objects are all different, no object is deleted or overwritten
from the time that a worker picks it until the transmitter has completed it or is deleted:
it is in the store with the bytes that were added, and with all that its transmission is
made of. -/
theorem borrowed_intact {labels : List Label} {final : System}
    (hfresh : (addedIds labels).Nodup)
    (hrun : run (step setup) (start setup) labels = some final) {running : RunningPackager}
    (hrunning : running ∈ final.packagers) {objectId : String}
    (hborrowed : objectId ∈ running.borrowed) :
    ∃ object data metadata, final.objects.store[objectId]? = some object ∧
      .addObject objectId data metadata ∈ labels ∧ object.1 = data ∧
      ∀ secondsSinceEpoch, sendRequest object secondsSinceEpoch =
        sendRequest (data, metadata) secondsSinceEpoch := by
  obtain ⟨hsound, hinv⟩ := fresh_of_run hfresh hrun
  have hstored := mem_store_of_borrowed hinv hsound hrunning hborrowed
  rw [ExtTreeMap.mem_iff_isSome_getElem?] at hstored
  obtain ⟨object, hobject⟩ := Option.isSome_iff_exists.mp hstored
  obtain ⟨passed, hpassed, hsame⟩ := holdsLast_of_run hrun objectId object hobject
  exact ⟨object, passed.1, passed.2, hobject, exists_addObject_of_lastAdded hpassed,
    congrArg SendRequest.data (hsame 0), hsame⟩

/-- The transmitter has the first object while the second is added. -/
theorem borrowed_first :
    ∃ final running, run (step streamingSetup) (start streamingSetup) (sendFirst.take 23) =
        some final ∧
      running ∈ final.packagers ∧ running.borrowed = ["1"] ∧
      ∃ object data metadata, final.objects.store["1"]? = some object ∧
        .addObject "1" data metadata ∈ sendFirst.take 23 ∧ object.1 = data ∧
        ∀ secondsSinceEpoch, sendRequest object secondsSinceEpoch =
          sendRequest (data, metadata) secondsSinceEpoch := by
  have hends : (run (step streamingSetup) (start streamingSetup) (sendFirst.take 23)).any
      (fun final => final.packagers.any fun running => running.borrowed = ["1"]) = true := by
    decide +kernel
  obtain ⟨final, hrun, hany⟩ := (Option.any_eq_true _ _).mp hends
  obtain ⟨running, hrunning, hsame⟩ := List.any_eq_true.mp hany
  have hborrowed : running.borrowed = ["1"] := of_decide_eq_true hsame
  exact ⟨final, running, hrun, hrunning, hborrowed,
    borrowed_intact (by decide) hrun hrunning (hborrowed ▸ List.mem_singleton_self "1")⟩

end System

end Mbstf.Controller
