import Mbstf.Controller.AddedOrder
import Mbstf.Controller.Borrowed

/-!
# What is transmitted is what was added

Each transmission is of an object that was added under its id.  When the ids of the objects
are all different there is one such object, and no object is transmitted twice, by whatever
packagers.
-/

namespace Mbstf.Controller

open Mbstf.Objects Mbstf.Session Mbstf.Runs

/-- The object that an `addObject` step passes, under its id. -/
def addedObject : Label → Option (String × Object)
  | .addObject objectId data metadata => some (objectId, data, metadata)
  | _ => none

theorem map_fst_addedObject (labels : List Label) :
    (labels.filterMap addedObject).map Prod.fst = System.addedIds labels := by
  rw [System.addedIds, List.map_filterMap]
  apply List.filterMap_congr
  intro label _
  cases label with
  | _ => rfl

/-- All that was transmitted, by whichever packager. -/
def allSent (deliveries : List Delivery) : List (String × SendRequest) :=
  deliveries.filterMap fun
    | .handed _ _ => none
    | .transmitted _ objectId request => some (objectId, request)

theorem map_fst_allSent (deliveries : List Delivery) :
    (allSent deliveries).map Prod.fst = allTransmitted deliveries := by
  rw [allSent, List.map_filterMap]
  apply List.filterMap_congr
  intro delivery _
  cases delivery with
  | _ => rfl

theorem mem_allSent {deliveries : List Delivery} {sent : String × SendRequest}
    (hmem : sent ∈ allSent deliveries) :
    ∃ index, .transmitted index sent.1 sent.2 ∈ deliveries := by
  obtain ⟨delivery, hdelivery, hsent⟩ := List.mem_filterMap.mp hmem
  cases delivery with
  | handed index objectId => cases hsent
  | transmitted index objectId request =>
      obtain rfl := Option.some.inj hsent
      exact ⟨index, hdelivery⟩

theorem mem_allSent_of_mem_transmittedBy {index : ℕ} {deliveries : List Delivery}
    {sent : String × SendRequest} (hmem : sent ∈ transmittedBy index deliveries) :
    sent ∈ allSent deliveries := by
  obtain ⟨delivery, hdelivery, hsent⟩ := List.mem_filterMap.mp hmem
  refine List.mem_filterMap.mpr ⟨delivery, hdelivery, ?_⟩
  cases delivery with
  | handed other objectId => cases hsent
  | transmitted other objectId request =>
      exact (Option.ite_none_right_eq_some.mp hsent).2

/-- A transmission of the object. -/
def SentOf (sent : String × SendRequest) (object : String × Object) : Prop :=
  sent.1 = object.1 ∧ ∃ secondsSinceEpoch, sent.2 = sendRequest object.2 secondsSinceEpoch

namespace System

variable {setup : Setup} {final : System} {labels : List Label}

/-- Every transmission is of an added object. -/
theorem exists_added_of_mem {sent : String × SendRequest}
    (hmem : sent ∈ allSent (deliveries setup labels)) :
    ∃ object ∈ labels.filterMap addedObject, SentOf sent object := by
  obtain ⟨index, hdelivery⟩ := mem_allSent hmem
  obtain ⟨past, secondsSinceEpoch, toi, rest, system, object, hlabels, hrun, hstored,
    hrequest⟩ := exists_send_of_mem hdelivery
  obtain ⟨passed, hpassed, hsame⟩ := holdsLast_of_run hrun sent.1 object hstored
  refine ⟨(sent.1, passed), ?_, rfl, secondsSinceEpoch, hrequest.trans (hsame _)⟩
  have hadded : .addObject sent.1 passed.1 passed.2 ∈ labels := by
    rw [hlabels]
    exact List.mem_append_left _ (exists_addObject_of_lastAdded hpassed)
  exact List.mem_filterMap.mpr ⟨_, hadded, rfl⟩

/-- With fresh ids it is of the object with its id. -/
theorem sentOf_of_mem (hfresh : (addedIds labels).Nodup) {sent : String × SendRequest}
    (hmem : sent ∈ allSent (deliveries setup labels)) {object : String × Object}
    (hobject : object ∈ labels.filterMap addedObject) (hid : sent.1 = object.1) :
    SentOf sent object := by
  obtain ⟨other, hother, hsent⟩ := exists_added_of_mem hmem
  have hids : ((labels.filterMap addedObject).map Prod.fst).Nodup := by
    rw [map_fst_addedObject]
    exact hfresh
  obtain rfl : other = object :=
    List.inj_on_of_nodup_map hids hother hobject (hsent.1.symm.trans hid)
  exact hsent

/-- No object is transmitted twice. -/
theorem nodup_allTransmitted (hfresh : (addedIds labels).Nodup)
    (hrun : run (step setup) (start setup) labels = some final) :
    (allTransmitted (deliveries setup labels)).Nodup := by
  have hbalanced := balanced_of_run hrun
  have hhanded : final.books.passed.Nodup := (handed_sublist_addedIds hrun).nodup hfresh
  have hle : (allTransmitted (deliveries setup labels) : Multiset String) ≤
      (final.books.passed : Multiset String) := by
    rw [← hbalanced.handed]
    exact (Multiset.le_add_right _ _).trans hbalanced.waiting
  exact Multiset.coe_nodup.mp (Multiset.nodup_of_le hle (Multiset.coe_nodup.mpr hhanded))

end System

end Mbstf.Controller
