import Mbstf.Core.Rounds
import Mbstf.Objects.Packager

/-!
# The progress of a packager

`workerLoop` calls `doObjectPackage` again and again.  A round looks the object at the
front of the list up, sends it and then removes it from the list; a lookup that throws
ends the round before the removal, and the next round begins with the same object.
-/

namespace Mbstf.Objects

open Rounds

/-- What the transmitter does in one round: whether its constructor throws, its clock, the
TOI it gives and the completions it reports from `run_one`. -/
structure Service where
  transmitterThrows : Bool
  secondsSinceEpoch : ℕ
  toi : ℕ
  completions : List ℕ

/-- `getObjectData` and `getMetadata`, one after the other. -/
def ObjectStore.lookUp (objects : ObjectStore) (objectId : String) :
    Except OutOfRange Object := do
  let objData ← objects.getObjectData objectId
  let metadata ← objects.getMetadata objectId
  pure (objData, metadata)

theorem ObjectStore.lookUp_of_mem {objects : ObjectStore} {objectId : String}
    (hmem : objectId ∈ objects.store) : ∃ object, objects.lookUp objectId = .ok object := by
  have hsome : objects.store[objectId]? = some objects.store[objectId] :=
    Std.ExtTreeMap.getElem?_eq_some_getElem hmem
  rw [lookUp, getObjectData, getMetadata, at?, hsome]
  exact ⟨objects.store[objectId], rfl⟩

theorem ObjectStore.lookUp_of_notMem {objects : ObjectStore} {objectId : String}
    (hmem : objectId ∉ objects.store) : objects.lookUp objectId = .error .outOfRange := by
  have hnone : objects.store[objectId]? = none := Std.ExtTreeMap.getElem?_eq_none hmem
  rw [lookUp, getObjectData, getMetadata, at?, hnone]
  rfl

namespace Packager

/-- The lookups for the front item and its sending. -/
def sendFront (objects : ObjectStore) (packager : Packager) (service : Service)
    (item : PackageItem) : Packager :=
  packager.send item (objects.lookUp item.objectId) service.secondsSinceEpoch
    (.accepted service.toi)

/-- `doObjectPackage()` with nobody else at the list. -/
def doObjectPackage (objects : ObjectStore) (packager : Packager) (service : Service) :
    Packager :=
  let begun := packager.beginRound service.transmitterThrows
  match begun.worker with
  | .picked item =>
      let sent := begun.sendFront objects service item
      if sent.worker = .roundStart then sent
      else sent.popFront.runOne service.completions
  | .completing => begun.runOne service.completions
  | .roundStart => begun
  | .sent _ => begun

/-- The items whose objects are handed to the transmitter in the round. -/
def handedOver (objects : ObjectStore) (packager : Packager) (service : Service) :
    List PackageItem :=
  let begun := packager.beginRound service.transmitterThrows
  match begun.worker with
  | .picked item => (begun.sendFront objects service item).inHand
  | .completing => []
  | .roundStart => []
  | .sent _ => []

/-- There is a transmitter, or the round makes one. -/
def Equipped (packager : Packager) (service : Service) : Prop :=
  packager.hasTransmitter = true ∨ service.transmitterThrows = false

theorem Equipped.not_throws {packager : Packager} {service : Service}
    (hequipped : packager.Equipped service) :
    (!packager.hasTransmitter && service.transmitterThrows) = false := by
  rcases hequipped with htransmitter | hthrows
  · simp [htransmitter]
  · simp [hthrows]

/-- The round is one of the interleavings of the worker with the threads that add. -/
theorem doObjectPackage_reachable (objects : ObjectStore) {packager : Packager}
    (service : Service) (hworker : packager.worker = .roundStart) :
    Runs.Reachable step packager (packager.doObjectPackage objects service) := by
  have hbegin : packager.step (.beginRound service.transmitterThrows) =
      some (packager.beginRound service.transmitterThrows) := if_pos hworker
  rw [doObjectPackage]
  simp only
  split
  · rename_i item hpicked
    have hsend : (packager.beginRound service.transmitterThrows).step
        (.send (objects.lookUp item.objectId) service.secondsSinceEpoch
          (.accepted service.toi)) =
        some ((packager.beginRound service.transmitterThrows).sendFront objects service
          item) := by
      simp only [step, hpicked, sendFront]
    split
    · refine ⟨[.beginRound service.transmitterThrows, .send (objects.lookUp item.objectId)
        service.secondsSinceEpoch (.accepted service.toi)], ?_⟩
      simp only [Runs.run_cons, hbegin, Option.bind_some, hsend, Runs.run_nil]
    · rename_i hsent
      have hpoint := (send_spec (packager.beginRound service.transmitterThrows) item
        (objects.lookUp item.objectId) service.secondsSinceEpoch
        (.accepted service.toi)).2.resolve_left hsent
      refine ⟨[.beginRound service.transmitterThrows, .send (objects.lookUp item.objectId)
        service.secondsSinceEpoch (.accepted service.toi), .popFront,
        .runOne service.completions], ?_⟩
      simp only [Runs.run_cons, hbegin, Option.bind_some, hsend, Runs.run_nil]
      simp [step, sendFront, hpoint, popFront]
  · rename_i hcompleting
    refine ⟨[.beginRound service.transmitterThrows, .runOne service.completions], ?_⟩
    simp [Runs.run_cons, step, hworker, hcompleting]
  · exact ⟨[.beginRound service.transmitterThrows], by simp [Runs.run_cons, hbegin]⟩
  · exact ⟨[.beginRound service.transmitterThrows], by simp [Runs.run_cons, hbegin]⟩

/-- The completions of a round clear the flag, and tell the controller, when the TOI it is
set for is among them. -/
theorem foldl_onCompletion (tois : List ℕ) (packager : Packager) :
    tois.foldl onCompletion packager =
      { packager with
        queued := packager.queued && decide (packager.queuedToi ∉ tois)
        completed := packager.completed ++
          List.replicate (tois.count packager.queuedToi) packager.queuedObjectId } := by
  induction tois generalizing packager with
  | nil => simp
  | cons toi tois ih =>
      rw [List.foldl_cons, ih, onCompletion]
      by_cases htoi : packager.queuedToi = toi
      · simp [htoi, List.replicate_succ]
      · simp [htoi, Ne.symm htoi]

/-! ## One round -/

section Round

variable (objects : ObjectStore) {packager : Packager} (service : Service)

/-- Without a transmitter the round ends at once. -/
theorem round_unequipped (hworker : packager.worker = .roundStart)
    (hequipped : ¬ packager.Equipped service) :
    packager.doObjectPackage objects service = packager ∧
      packager.handedOver objects service = [] := by
  rw [Equipped, not_or, Bool.not_eq_true, Bool.not_eq_false] at hequipped
  have hbegin : packager.beginRound service.transmitterThrows = packager := by
    simp [beginRound, hequipped]
  simp [doObjectPackage, handedOver, hbegin, hworker]

/-- With an object in flight, or nothing in the list, the round only runs completions. -/
theorem round_waiting (haddress : packager.destIpAddr.isSome)
    (hequipped : packager.Equipped service)
    (hwaiting : packager.queued = true ∨ packager.packageItems = []) :
    packager.doObjectPackage objects service =
        { packager with hasTransmitter := true, worker := .completing }.runOne
          service.completions ∧
      packager.handedOver objects service = [] := by
  have hbegin : packager.beginRound service.transmitterThrows =
      { packager with hasTransmitter := true, worker := .completing } := by
    rw [beginRound, if_neg (by simpa [Option.isSome_iff_ne_none] using haddress),
      hequipped.not_throws]
    rcases hwaiting with hqueued | hempty
    · cases packager.packageItems with
      | nil => simp
      | cons item rest => simp [hqueued]
    · simp [hempty]
  simp [doObjectPackage, handedOver, hbegin]

/-- With nothing in flight the round begins with the front of the list. -/
theorem beginRound_of_front (haddress : packager.destIpAddr.isSome)
    (hequipped : packager.Equipped service) (hqueued : packager.queued = false)
    {item : PackageItem} {rest : List PackageItem}
    (hitems : packager.packageItems = item :: rest) :
    packager.beginRound service.transmitterThrows =
      { packager with hasTransmitter := true, worker := .picked item } := by
  rw [beginRound, if_neg (by simpa [Option.isSome_iff_ne_none] using haddress),
    hequipped.not_throws]
  simp [hitems, hqueued]

/-- An object that is not in the store stays at the front. -/
theorem round_absent (haddress : packager.destIpAddr.isSome)
    (hequipped : packager.Equipped service) (hqueued : packager.queued = false)
    {item : PackageItem} {rest : List PackageItem}
    (hitems : packager.packageItems = item :: rest)
    (habsent : item.objectId ∉ objects.store) :
    packager.doObjectPackage objects service =
        { packager with
          hasTransmitter := true, queuedObjectId := item.objectId, worker := .roundStart } ∧
      packager.handedOver objects service = [] := by
  have hbegin := beginRound_of_front service haddress hequipped hqueued hitems
  have hlookUp := ObjectStore.lookUp_of_notMem habsent
  simp [doObjectPackage, handedOver, hbegin, sendFront, hlookUp, send, inHand]

/-- An object that is in the store is sent and removed. -/
theorem round_present (haddress : packager.destIpAddr.isSome)
    (hequipped : packager.Equipped service) (hqueued : packager.queued = false)
    {item : PackageItem} {rest : List PackageItem}
    (hitems : packager.packageItems = item :: rest)
    (hpresent : item.objectId ∈ objects.store) :
    (∃ object, objects.lookUp item.objectId = .ok object ∧
      packager.doObjectPackage objects service =
        { packager with
          hasTransmitter := true, packageItems := rest, worker := .completing
          queued := true, queuedToi := service.toi, queuedObjectId := item.objectId
          requests := packager.requests ++
            [sendRequest object service.secondsSinceEpoch] }.runOne service.completions) ∧
      packager.handedOver objects service = [item] := by
  have hbegin := beginRound_of_front service haddress hequipped hqueued hitems
  obtain ⟨object, hlookUp⟩ := ObjectStore.lookUp_of_mem hpresent
  refine ⟨⟨object, hlookUp, ?_⟩, ?_⟩
  · simp [doObjectPackage, hbegin, sendFront, hlookUp, send, popFront, hitems]
  · simp [handedOver, hbegin, sendFront, hlookUp, send, inHand]

/-- The worker is between two rounds and there is an address to send to. -/
structure Ready (packager : Packager) : Prop where
  worker : packager.worker = .roundStart
  address : packager.destIpAddr.isSome

/-- A call of `Transmitter::send` with the object of the item. -/
def Requests (item : PackageItem) (request : SendRequest) : Prop :=
  ∃ object secondsSinceEpoch, objects.lookUp item.objectId = .ok object ∧
    request = sendRequest object secondsSinceEpoch

/-- What a round can do: leave the list and the requests, or remove the front of the list
and make the request for it. -/
def Served (packager next : Packager) (handed : List PackageItem) : Prop :=
  (next.packageItems = packager.packageItems ∧ next.requests = packager.requests ∧
      handed = []) ∨
    ∃ item request, item.objectId ∈ objects.store ∧ Requests objects item request ∧
      packager.packageItems = item :: next.packageItems ∧
      next.requests = packager.requests ++ [request] ∧ handed = [item]

theorem runOne_eq (packager : Packager) (tois : List ℕ) :
    packager.runOne tois =
      { packager with
        worker := .roundStart, queued := packager.queued && decide (packager.queuedToi ∉ tois)
        completed := packager.completed ++
          List.replicate (tois.count packager.queuedToi) packager.queuedObjectId } := by
  rw [runOne, foldl_onCompletion]

/-- The four ways a round can go. -/
theorem round_outcomes (hready : packager.Ready) :
    (¬ packager.Equipped service ∧ packager.doObjectPackage objects service = packager ∧
      packager.handedOver objects service = []) ∨
    (packager.Equipped service ∧ (packager.queued = true ∨ packager.packageItems = []) ∧
      packager.doObjectPackage objects service =
        { packager with hasTransmitter := true, worker := .completing }.runOne
          service.completions ∧
      packager.handedOver objects service = []) ∨
    (packager.Equipped service ∧ packager.queued = false ∧
      packager.doObjectPackage objects service =
        { packager with
          hasTransmitter := true, queuedObjectId := (packager.packageItems.head?.elim ""
            PackageItem.objectId), worker := .roundStart } ∧
      packager.handedOver objects service = []) ∨
    ∃ item rest object, packager.Equipped service ∧ packager.packageItems = item :: rest ∧
      item.objectId ∈ objects.store ∧ objects.lookUp item.objectId = .ok object ∧
      packager.doObjectPackage objects service =
        { packager with
          hasTransmitter := true, packageItems := rest, worker := .completing
          queued := true, queuedToi := service.toi, queuedObjectId := item.objectId
          requests := packager.requests ++
            [sendRequest object service.secondsSinceEpoch] }.runOne service.completions ∧
      packager.handedOver objects service = [item] := by
  by_cases hequipped : packager.Equipped service
  · by_cases hwaiting : packager.queued = true ∨ packager.packageItems = []
    · obtain ⟨hround, hhanded⟩ :=
        round_waiting objects service hready.address hequipped hwaiting
      exact Or.inr (Or.inl ⟨hequipped, hwaiting, hround, hhanded⟩)
    · rw [not_or, Bool.not_eq_true] at hwaiting
      obtain ⟨hqueued, hne⟩ := hwaiting
      obtain ⟨item, rest, hitems⟩ := List.exists_cons_of_ne_nil hne
      by_cases hpresent : item.objectId ∈ objects.store
      · obtain ⟨⟨object, hlookUp, hround⟩, hhanded⟩ :=
          round_present objects service hready.address hequipped hqueued hitems hpresent
        exact Or.inr (Or.inr (Or.inr
          ⟨item, rest, object, hequipped, hitems, hpresent, hlookUp, hround, hhanded⟩))
      · obtain ⟨hround, hhanded⟩ :=
          round_absent objects service hready.address hequipped hqueued hitems hpresent
        refine Or.inr (Or.inr (Or.inl ⟨hequipped, hqueued, ?_, hhanded⟩))
        rw [hround, hitems]
        rfl
  · obtain ⟨hround, hhanded⟩ := round_unequipped objects service hready.worker hequipped
    exact Or.inl ⟨hequipped, hround, hhanded⟩

/-- Every round leads to the next, keeps the transmitter and serves the list. -/
theorem round_cases (hready : packager.Ready) :
    (packager.doObjectPackage objects service).Ready ∧
      ((packager.doObjectPackage objects service).hasTransmitter = true ↔
        packager.Equipped service) ∧
      Served objects packager (packager.doObjectPackage objects service)
        (packager.handedOver objects service) := by
  rcases round_outcomes objects service hready with ⟨hequipped, hround, hhanded⟩ |
    ⟨hequipped, -, hround, hhanded⟩ | ⟨hequipped, -, hround, hhanded⟩ |
    ⟨item, rest, object, hequipped, hitems, hpresent, hlookUp, hround, hhanded⟩
  · rw [hround, hhanded]
    exact ⟨hready, iff_of_false (fun hmade => hequipped (Or.inl hmade)) hequipped,
      Or.inl ⟨rfl, rfl, rfl⟩⟩
  · rw [hround, hhanded, runOne_eq]
    exact ⟨⟨rfl, hready.address⟩, iff_of_true rfl hequipped, Or.inl ⟨rfl, rfl, rfl⟩⟩
  · rw [hround, hhanded]
    exact ⟨⟨rfl, hready.address⟩, iff_of_true rfl hequipped, Or.inl ⟨rfl, rfl, rfl⟩⟩
  · rw [hround, hhanded, runOne_eq]
    exact ⟨⟨rfl, hready.address⟩, iff_of_true rfl hequipped, Or.inr ⟨item, _, hpresent,
      ⟨object, service.secondsSinceEpoch, hlookUp, rfl⟩, hitems, rfl, rfl⟩⟩

/-- A round whose completions report what it sends leaves nothing in flight. -/
theorem round_prompt (hready : packager.Ready) (hqueued : packager.queued = false)
    (hprompt : service.toi ∈ service.completions) :
    (packager.doObjectPackage objects service).queued = false := by
  rcases round_outcomes objects service hready with ⟨-, hround, -⟩ | ⟨-, -, hround, -⟩ |
    ⟨-, -, hround, -⟩ | ⟨item, rest, object, -, -, -, -, hround, -⟩
  · rw [hround]
    exact hqueued
  · rw [hround, runOne_eq]
    simp [hqueued]
  · rw [hround]
    exact hqueued
  · rw [hround, runOne_eq]
    simp [hprompt]

/-- The object at the front of the list is in the store. -/
def FrontInStore (packager : Packager) : Prop :=
  ∃ item ∈ packager.packageItems.head?, item.objectId ∈ objects.store

/-- A round makes the list shorter if and only if there is a transmitter and the object at
the front is in the store. -/
theorem round_shorter_iff (hready : packager.Ready) (hqueued : packager.queued = false) :
    (packager.doObjectPackage objects service).packageItems.length <
        packager.packageItems.length ↔
      packager.Equipped service ∧ FrontInStore objects packager := by
  constructor
  · intro hshorter
    have hequipped : packager.Equipped service := by
      by_contra hnot
      rw [(round_unequipped objects service hready.worker hnot).1] at hshorter
      exact lt_irrefl _ hshorter
    refine ⟨hequipped, ?_⟩
    obtain ⟨-, -, ⟨hitems, -⟩ | ⟨item, request, hpresent, -, hitems, -⟩⟩ :=
      round_cases objects service hready
    · rw [hitems] at hshorter
      exact absurd hshorter (lt_irrefl _)
    · exact ⟨item, by rw [hitems]; rfl, hpresent⟩
  · rintro ⟨hequipped, item, hhead, hpresent⟩
    obtain ⟨rest, hitems⟩ := List.head?_eq_some_iff.mp hhead
    obtain ⟨⟨object, -, hround⟩, -⟩ :=
      round_present objects service hready.address hequipped hqueued hitems hpresent
    rw [hround, runOne_eq, hitems]
    exact Nat.lt_succ_self _

end Round

end Packager

/-! ## The worker loop -/

/-- A packager, and the items whose objects its worker has handed to the transmitter. -/
structure Sending where
  packager : Packager
  handed : List PackageItem

/-- One round of a worker. -/
def Sending.round (objects : ObjectStore) (sending : Sending) (service : Service) : Sending where
  packager := sending.packager.doObjectPackage objects service
  handed := sending.handed ++ sending.packager.handedOver objects service

/-- `workerLoop(ObjectPackager*)`, after some rounds, when nobody cancels it. -/
def workerLoop (objects : ObjectStore) (packager : Packager) (services : ℕ → Service) :
    ℕ → Sending :=
  after (Sending.round objects) ⟨packager, []⟩ services

/-- The completion of an object in flight is reported sometime. -/
def Completes (objects : ObjectStore) (packager : Packager) (services : ℕ → Service) : Prop :=
  ∀ early, (workerLoop objects packager services early).packager.queued = true →
    ∃ late, early ≤ late ∧
      (workerLoop objects packager services late).packager.queuedToi ∈
        (services late).completions

/-- Every listed object that is in the store is among the items. -/
def Covers (objects : ObjectStore) (items handed : List PackageItem) : Prop :=
  ∀ item ∈ items, item.objectId ∈ objects.store →
    ∃ sent ∈ handed, sent.objectId = item.objectId

/-- No object of the store is listed only behind one that is absent. -/
def Unblocked (objects : ObjectStore) (items : List PackageItem) : Prop :=
  Covers objects items (items.takeWhile fun item => item.objectId ∈ objects.store)

/-- There is a transmitter, or one is made sometime. -/
def EquippedSometime (packager : Packager) (services : ℕ → Service) : Prop :=
  packager.hasTransmitter = true ∨ ∃ count, (services count).transmitterThrows = false

section Loop

variable {objects : ObjectStore} {packager : Packager} {services : ℕ → Service}

theorem workerLoop_succ (count : ℕ) :
    workerLoop objects packager services (count + 1) =
      (workerLoop objects packager services count).round objects (services count) :=
  after_succ count

/-- Each of the items had one request made for it, in order, since the packager had made
the earlier requests. -/
def RequestedSince (objects : ObjectStore) (earlier requests : List SendRequest)
    (items : List PackageItem) : Prop :=
  ∃ made, requests = earlier ++ made ∧ List.Forall₂ (Packager.Requests objects) items made

/-- What was handed over is in the store, is the list without what is left of it, and is
what the requests since the start were made for. -/
structure Sending.Accounts (objects : ObjectStore) (start : Packager) (sending : Sending) :
    Prop where
  ready : sending.packager.Ready
  split : sending.handed ++ sending.packager.packageItems = start.packageItems
  present : ∀ item ∈ sending.handed, item.objectId ∈ objects.store
  requested : RequestedSince objects start.requests sending.packager.requests sending.handed

theorem Sending.Accounts.round {start : Packager} {sending : Sending}
    (haccounts : sending.Accounts objects start) (service : Service) :
    (sending.round objects service).Accounts objects start := by
  obtain ⟨hready, -, hserved⟩ :=
    sending.packager.round_cases objects service haccounts.ready
  rcases hserved with ⟨hitems, hrequests, hhanded⟩ |
    ⟨item, request, hpresent, hrequest, hitems, hrequests, hhanded⟩
  · refine ⟨hready, ?_, ?_, ?_⟩
    · rw [Sending.round, hhanded, List.append_nil, hitems]
      exact haccounts.split
    · rw [Sending.round, hhanded, List.append_nil]
      exact haccounts.present
    · rw [Sending.round, hhanded, List.append_nil, hrequests]
      exact haccounts.requested
  · refine ⟨hready, ?_, ?_, ?_⟩
    · rw [Sending.round, hhanded, List.append_assoc, List.singleton_append, ← hitems]
      exact haccounts.split
    · rw [Sending.round, hhanded]
      intro sent hsent
      rcases List.mem_append.mp hsent with hold | hnew
      · exact haccounts.present sent hold
      · rw [List.mem_singleton.mp hnew]
        exact hpresent
    · obtain ⟨made, hmade, hall⟩ := haccounts.requested
      rw [Sending.round, hhanded, hrequests, hmade]
      exact ⟨made ++ [request], List.append_assoc _ _ _,
        List.rel_append hall (.cons hrequest .nil)⟩

theorem workerLoop_accounts (objects : ObjectStore) (services : ℕ → Service)
    (hready : packager.Ready) (count : ℕ) :
    (workerLoop objects packager services count).Accounts objects packager :=
  after_invariant (fun _ service haccounts => haccounts.round service)
    ⟨hready, rfl, by simp, [], (List.append_nil _).symm, .nil⟩ count

/-- What was handed over is a part of the objects in front of the first absent one, and
all of them once the front of the list is absent. -/
theorem Sending.Accounts.takeWhile {start : Packager} {sending : Sending}
    (haccounts : sending.Accounts objects start) :
    start.packageItems.takeWhile (fun item => item.objectId ∈ objects.store) =
      sending.handed ++
        sending.packager.packageItems.takeWhile fun item => item.objectId ∈ objects.store := by
  rw [← haccounts.split]
  exact List.takeWhile_append_of_pos fun item hitem => by
    simpa using haccounts.present item hitem

theorem takeWhile_eq_nil_iff_front :
    packager.packageItems.takeWhile (fun item => item.objectId ∈ objects.store) = [] ↔
      ¬ packager.FrontInStore objects := by
  rw [Packager.FrontInStore]
  cases packager.packageItems with
  | nil => simp
  | cons item rest => simp [List.takeWhile_cons]

/-- Once there is a transmitter it stays. -/
theorem workerLoop_transmitter (objects : ObjectStore) (hready : packager.Ready)
    (hequipped : EquippedSometime packager services) :
    ∃ early, ∀ late, early ≤ late →
      (workerLoop objects packager services late).packager.hasTransmitter = true := by
  have hkept : ∀ (sending : Sending) (service : Service),
      (sending.packager.Ready ∧ sending.packager.hasTransmitter = true) →
        ((sending.round objects service).packager.Ready ∧
          (sending.round objects service).packager.hasTransmitter = true) := by
    rintro sending service ⟨hbefore, htransmitter⟩
    obtain ⟨hafter, hmade, -⟩ := sending.packager.round_cases objects service hbefore
    exact ⟨hafter, hmade.mpr (Or.inl htransmitter)⟩
  have hfrom : ∃ early, (workerLoop objects packager services early).packager.Ready ∧
      (workerLoop objects packager services early).packager.hasTransmitter = true := by
    rcases hequipped with htransmitter | ⟨count, hmakes⟩
    · exact ⟨0, hready, htransmitter⟩
    · have hbefore := (workerLoop_accounts objects services hready count).ready
      obtain ⟨hafter, hmade, -⟩ :=
        Packager.round_cases objects (services count) hbefore
      exact ⟨count + 1, hafter, hmade.mpr (Or.inr hmakes)⟩
  obtain ⟨early, hearly⟩ := hfrom
  exact ⟨early, fun late hle => (after_kept hkept hle hearly).2⟩

/-- Without a transmitter nothing is ever handed over. -/
theorem workerLoop_unequipped (hready : packager.Ready)
    (hequipped : ¬ EquippedSometime packager services) (count : ℕ) :
    workerLoop objects packager services count = ⟨packager, []⟩ := by
  induction count with
  | zero => rfl
  | succ count ih =>
      have hnot : ¬ packager.Equipped (services count) := fun hmade =>
        hequipped (hmade.imp id fun hmakes => ⟨count, hmakes⟩)
      obtain ⟨hround, hhanded⟩ :=
        Packager.round_unequipped objects (services count) hready.worker hnot
      rw [workerLoop_succ, ih, Sending.round, hround, hhanded, List.nil_append]

/-- An object in flight leaves the way free sometime. -/
theorem eventually_idle (hready : packager.Ready)
    (hcompletes : Completes objects packager services) (early : ℕ)
    (htransmitter : ∀ late, early ≤ late →
      (workerLoop objects packager services late).packager.hasTransmitter = true) :
    ∃ late, early ≤ late ∧
      (workerLoop objects packager services late).packager.queued = false := by
  by_cases hqueued : (workerLoop objects packager services early).packager.queued = true
  · obtain ⟨late, hle, hreported⟩ := hcompletes early hqueued
    by_cases hstill : (workerLoop objects packager services late).packager.queued = true
    · have hbefore := (workerLoop_accounts objects services hready late).ready
      obtain ⟨hround, -⟩ := Packager.round_waiting objects (services late) hbefore.address
        (Or.inl (htransmitter late hle)) (Or.inl hstill)
      refine ⟨late + 1, by omega, ?_⟩
      rw [workerLoop_succ, Sending.round, hround, Packager.runOne_eq]
      simp [hreported]
    · exact ⟨late, hle, by simpa using hstill⟩
  · exact ⟨early, le_rfl, by simpa using hqueued⟩

/-- With a transmitter and its completions the front of the list becomes absent, or the
list empty, after finitely many rounds. -/
theorem eventually_drained (hready : packager.Ready)
    (hcompletes : Completes objects packager services)
    (hequipped : EquippedSometime packager services) :
    ∃ late, ¬ (workerLoop objects packager services late).packager.FrontInStore objects := by
  obtain ⟨made, htransmitter⟩ := workerLoop_transmitter objects hready hequipped
  have hmono : ∀ (sending : Sending) (service : Service),
      sending.Accounts objects packager →
        (sending.round objects service).packager.packageItems.length ≤
          sending.packager.packageItems.length := by
    intro sending service haccounts
    obtain ⟨-, -, hserved⟩ := sending.packager.round_cases objects service haccounts.ready
    rcases hserved with ⟨hitems, -⟩ | ⟨item, request, -, -, hitems, -⟩
    · exact (congrArg List.length hitems).le
    · rw [hitems, List.length_cons]
      exact Nat.le_succ _
  have hdescent : ∀ early, ∃ late, early ≤ late ∧
      (¬ (workerLoop objects packager services late).packager.FrontInStore objects ∨
        (workerLoop objects packager services (late + 1)).packager.packageItems.length <
          (workerLoop objects packager services late).packager.packageItems.length) := by
    intro early
    obtain ⟨late, hle, hqueued⟩ := eventually_idle hready hcompletes (max early made)
      fun late hle => htransmitter late (le_trans (le_max_right early made) hle)
    refine ⟨late, le_trans (le_max_left early made) hle, ?_⟩
    by_cases hfront : (workerLoop objects packager services late).packager.FrontInStore objects
    · right
      have hbefore := (workerLoop_accounts objects services hready late).ready
      exact (Packager.round_shorter_iff objects (services late) hbefore hqueued).mpr
        ⟨Or.inl (htransmitter late (le_trans (le_max_right early made) hle)), hfront⟩
    · exact Or.inl hfront
  obtain ⟨late, -, hdone⟩ := eventually_of_descent
    (fun sending : Sending => sending.packager.packageItems.length)
    (fun sending => ¬ sending.packager.FrontInStore objects)
    (workerLoop_accounts objects services hready) hmono hdescent 0
  exact ⟨late, hdone⟩

/-- The loop hands every listed object that is in the store to the transmitter after
finitely many rounds if and only if none of them is listed only behind an absent one, and
there is a transmitter for them. -/
theorem workerLoop_covers_iff (hready : packager.Ready)
    (hcompletes : Completes objects packager services) :
    (∃ count, Covers objects packager.packageItems
        (workerLoop objects packager services count).handed) ↔
      Unblocked objects packager.packageItems ∧
        (EquippedSometime packager services ∨ Covers objects packager.packageItems []) := by
  constructor
  · rintro ⟨count, hcovers⟩
    constructor
    · intro item hitem hpresent
      obtain ⟨sent, hsent, hsame⟩ := hcovers item hitem hpresent
      rw [(workerLoop_accounts objects services hready count).takeWhile]
      exact ⟨sent, List.mem_append_left _ hsent, hsame⟩
    · by_cases hequipped : EquippedSometime packager services
      · exact Or.inl hequipped
      · rw [workerLoop_unequipped hready hequipped] at hcovers
        exact Or.inr hcovers
  · rintro ⟨hunblocked, hequipped | hnone⟩
    · obtain ⟨late, hfront⟩ := eventually_drained hready hcompletes hequipped
      refine ⟨late, ?_⟩
      have htakeWhile := (workerLoop_accounts objects services hready late).takeWhile
      rw [takeWhile_eq_nil_iff_front.mpr hfront, List.append_nil] at htakeWhile
      rw [← htakeWhile]
      exact hunblocked
    · exact ⟨0, hnone⟩

/-- Completions that are reported in the round of their object are all reported. -/
theorem completes_of_prompt (hready : packager.Ready) (hqueued : packager.queued = false)
    (hprompt : ∀ count, (services count).toi ∈ (services count).completions) :
    Completes objects packager services := by
  have hidle : ∀ count,
      (workerLoop objects packager services count).packager.queued = false := by
    intro count
    induction count with
    | zero => exact hqueued
    | succ count ih =>
        have hbefore := (workerLoop_accounts objects services hready count).ready
        exact Packager.round_prompt objects (services count) hbefore ih (hprompt count)
  intro early hearly
  rw [hidle early] at hearly
  cases hearly

/-- A packager with an address to send to: a round that begins with nothing in flight and
something in the list makes the list shorter if and only if there is a transmitter and the
front object is in the store; when completions are reported, every listed object
of the store is handed over after finitely many rounds if and only if none of them is
listed only behind an absent one, and there is a transmitter for them; and what is handed
over is what the rounds made requests for, one each. -/
theorem progress_iff (objects : ObjectStore) (packager : Packager) (hready : packager.Ready) :
    (∀ service : Service, packager.queued = false → packager.packageItems ≠ [] →
      ((packager.doObjectPackage objects service).packageItems.length <
          packager.packageItems.length ↔
        packager.Equipped service ∧ packager.FrontInStore objects)) ∧
    (∀ services : ℕ → Service, Completes objects packager services →
      ((∃ count, Covers objects packager.packageItems
          (workerLoop objects packager services count).handed) ↔
        Unblocked objects packager.packageItems ∧
          (EquippedSometime packager services ∨ Covers objects packager.packageItems []))) ∧
    ∀ services count, RequestedSince objects packager.requests
      (workerLoop objects packager services count).packager.requests
      (workerLoop objects packager services count).handed :=
  ⟨fun service hqueued _ => Packager.round_shorter_iff objects service hready hqueued,
    fun _ hcompletes => workerLoop_covers_iff hready hcompletes,
    fun services count => (workerLoop_accounts objects services hready count).requested⟩

end Loop

/-- The store with one object, `2`. -/
def oneObject : ObjectStore :=
  .history [.addObject "2" [7] (.new 100 "2" "text/plain" "http://example.com/object2"
    "http://example.com/object2" "acq1" 90 none none none)]

/-- A transmitter that gives every object the TOI 1 and completes it at once. -/
def promptService : Service where
  transmitterThrows := false
  secondsSinceEpoch := 0
  toi := 1
  completions := [1]

theorem ready_new (address : String) (packageItems : List PackageItem) :
    (Packager.new (some address) packageItems).Ready := ⟨rfl, rfl⟩

/-- The object in front of one that is not in the store is sent. -/
theorem progress_of_one :
    let packager := Packager.new (some "239.0.0.1") [⟨"2", none⟩, ⟨"1", none⟩]
    (packager.doObjectPackage oneObject promptService).packageItems.length <
        packager.packageItems.length ∧
      ∃ count, Covers oneObject packager.packageItems
          (workerLoop oneObject packager (fun _ => promptService) count).handed ∧
        RequestedSince oneObject packager.requests
          (workerLoop oneObject packager (fun _ => promptService) count).packager.requests
          (workerLoop oneObject packager (fun _ => promptService) count).handed := by
  intro packager
  have hready : packager.Ready := ready_new "239.0.0.1" _
  obtain ⟨hround, hloop, hrequested⟩ := progress_iff oneObject packager hready
  have hitems : packager.packageItems = [⟨"2", none⟩, ⟨"1", none⟩] := rfl
  have hmem : "2" ∈ oneObject.store := by decide
  have habsent : "1" ∉ oneObject.store := by decide
  constructor
  · exact (hround promptService rfl (by decide)).mpr ⟨Or.inr rfl, ⟨"2", none⟩, rfl, hmem⟩
  · have hcompletes : Completes oneObject packager fun _ => promptService :=
      completes_of_prompt hready rfl fun _ => List.mem_singleton.mpr rfl
    obtain ⟨count, hcovers⟩ : ∃ count, Covers oneObject packager.packageItems
        (workerLoop oneObject packager (fun _ => promptService) count).handed := by
      refine (hloop _ hcompletes).mpr ⟨?_, Or.inl (Or.inr ⟨0, rfl⟩)⟩
      intro item hitem hpresent
      rw [hitems] at hitem ⊢
      rcases List.mem_pair.mp hitem with rfl | rfl
      · exact ⟨_, by simp [hmem], rfl⟩
      · exact absurd hpresent habsent
    exact ⟨count, hcovers, hrequested _ count⟩

/-- An object that was listed and is not in the store stays at the front for ever, and the
object behind it is never sent. -/
theorem absent_object_blocks :
    ¬ ((Packager.new (some "239.0.0.1") [⟨"1", none⟩, ⟨"2", none⟩]).doObjectPackage oneObject
          promptService).packageItems.length <
        (Packager.new (some "239.0.0.1") [⟨"1", none⟩, ⟨"2", none⟩]).packageItems.length ∧
      Completes oneObject (.new (some "239.0.0.1") [⟨"1", none⟩, ⟨"2", none⟩])
        (fun _ => promptService) ∧
      ¬ ∃ count, Covers oneObject
        (Packager.new (some "239.0.0.1") [⟨"1", none⟩, ⟨"2", none⟩]).packageItems
        (workerLoop oneObject (.new (some "239.0.0.1") [⟨"1", none⟩, ⟨"2", none⟩])
          (fun _ => promptService) count).handed := by
  have hready := ready_new "239.0.0.1" [⟨"1", none⟩, ⟨"2", none⟩]
  have hcompletes : Completes oneObject (.new (some "239.0.0.1") [⟨"1", none⟩, ⟨"2", none⟩])
      fun _ => promptService :=
    completes_of_prompt hready rfl fun _ => List.mem_singleton.mpr rfl
  refine ⟨by decide, hcompletes, ?_⟩
  intro hcovers
  have hunblocked := ((workerLoop_covers_iff hready hcompletes).mp hcovers).1
  obtain ⟨sent, hsent, -⟩ := hunblocked ⟨"2", none⟩ (by decide) (by decide)
  have habsent : "1" ∉ oneObject.store := by decide
  have hitems : (Packager.new (some "239.0.0.1") [⟨"1", none⟩, ⟨"2", none⟩]).packageItems =
      [⟨"1", none⟩, ⟨"2", none⟩] := rfl
  rw [hitems, List.takeWhile_cons_of_neg (by simpa using habsent)] at hsent
  cases hsent

end Mbstf.Objects
