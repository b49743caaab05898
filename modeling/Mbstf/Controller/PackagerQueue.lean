import Mbstf.Controller.PackagerThreads

/-!
# What a packager transmits

A packager is a queue: what is added goes to the back of the list, and what is handed to the
transmitter comes from its front.  What it reports as sent, or is about to, it has handed to
the transmitter before.
-/

namespace Mbstf.Controller

open Std Mbstf.Objects

namespace RunningPackager

/-- The object ids that wait for their transmission. -/
def waiting (running : RunningPackager) : List String :=
  match running.packager.worker with
  | .sent _ => running.packager.packageItems.tail.map PackageItem.objectId
  | _ => running.packager.packageItems.map PackageItem.objectId

/-- What a step hands to the transmitter: the id of the object and the arguments of `send`. -/
def transmitted (running : RunningPackager) (objects : ObjectStore) :
    PackagerLabel → List (String × SendRequest)
  | .send secondsSinceEpoch (.accepted _) =>
      match running.packager.worker with
      | .picked item =>
          match objects.at? item.objectId with
          | .error _ => []
          | .ok object => [(item.objectId, sendRequest object secondsSinceEpoch)]
      | _ => []
  | _ => []

/-- The object that the transmitter has, those it has completed, and the one whose completion
the thread of the events is handling. -/
def reported (running : RunningPackager) : List String :=
  (if running.outstanding = [] then [] else [running.packager.queuedObjectId]) ++
    running.packager.completed ++ running.eventThread.objectIds

/-- What a step does to the queue of a packager: something is added at the back and
transmitted from the front, or the packager ends. -/
inductive Queued (running next : RunningPackager) (added : List String)
    (sent : List (String × SendRequest)) : Prop
  | moved (hlife : next.life = running.life) (hsent : sent = [] ∨ running.life = .working)
      (hwaiting : running.waiting ++ added = sent.map Prod.fst ++ next.waiting)
      (hrequests : next.packager.requests = running.packager.requests ++ sent.map Prod.snd)
      (hreported : ∀ objectId ∈ next.reported,
        objectId ∈ running.reported ∨ objectId ∈ sent.map Prod.fst)
  | ended (hlife : next.life ≠ .working) (hadded : added = []) (hsent : sent = [])
      (hwaiting : next.waiting.Sublist running.waiting)
      (hrequests : next.packager.requests = running.packager.requests)
      (hreported : ∀ objectId ∈ next.reported, objectId ∈ running.reported)

variable {running next : RunningPackager} {objects : ObjectStore}

/-- A step that neither adds nor transmits. -/
theorem Queued.idle (hlife : next.life = running.life) (hwaiting : next.waiting = running.waiting)
    (hrequests : next.packager.requests = running.packager.requests)
    (hreported : ∀ objectId ∈ next.reported, objectId ∈ running.reported) :
    Queued running next [] [] := by
  refine .moved hlife (.inl rfl) ?_ ?_ (fun objectId hmem => .inl (hreported objectId hmem))
  · rw [hwaiting]
    exact List.append_nil _
  · rw [hrequests]
    exact (List.append_nil _).symm

theorem Queued.add (hsound : running.Sound) (objectId : String) :
    Queued running (running.add objectId) [objectId] [] := by
  refine .moved rfl (.inl rfl) ?_ (List.append_nil _).symm (fun _ hmem => .inl hmem)
  have hitems := hsound.packageItems_add objectId
  have hworker : (running.add objectId).packager.worker = running.packager.worker := rfl
  rw [waiting, waiting, hworker, hitems]
  cases hsame : running.packager.worker with
  | sent item =>
      obtain ⟨rest, hrest⟩ := List.head?_eq_some_iff.mp (hsound.sent item hsame).1
      simp [hrest]
  | _ => simp

theorem Queued.beginRound (hworker : running.packager.worker = .roundStart)
    (transmitterThrows : Bool) :
    Queued running { running with
      packager := running.packager.beginRound transmitterThrows } [] [] := by
  obtain ⟨hasTransmitter, worker, hbegin, hcases⟩ :=
    beginRound_eq running.packager transmitterThrows
  rw [hbegin]
  refine .idle rfl ?_ rfl (fun _ hmem => hmem)
  obtain hsame | hcompleting | ⟨item, -, -, hpicked⟩ := hcases
  · simp [waiting, hsame, hworker]
  · simp [waiting, hcompleting, hworker]
  · simp [waiting, hpicked, hworker]

/-- A round that ends with an exception transmits nothing. -/
theorem Queued.sendThrows {item : PackageItem} (hsound : running.Sound)
    (hworker : running.packager.worker = .picked item) (queuedObjectId : String) (queued : Bool) :
    Queued running { running with packager := { running.packager with
      queuedObjectId := queuedObjectId
      queued := queued
      worker := .roundStart } } [] [] := by
  refine .idle rfl ?_ rfl ?_
  · simp [waiting, hworker]
  · simp [reported, (hsound.picked item hworker).2]

theorem Queued.accepted (hsound : running.Sound) {item : PackageItem}
    (hlife : running.life = .working) (hworker : running.packager.worker = .picked item)
    (request : SendRequest) (toi : ℕ) :
    Queued running { running with
      packager := { running.packager with
        queuedObjectId := item.objectId
        queued := true
        queuedToi := toi
        requests := running.packager.requests ++ [request]
        worker := .sent item }
      outstanding := running.outstanding ++ [toi] } [] [(item.objectId, request)] := by
  obtain ⟨hfront, hempty⟩ := hsound.picked item hworker
  obtain ⟨rest, hitems⟩ := List.head?_eq_some_iff.mp hfront
  refine .moved rfl (.inr hlife) ?_ rfl ?_
  · simp [waiting, hworker, hitems]
  · intro objectId hmem
    simp only [reported, hempty, List.nil_append, List.cons_ne_self, if_true, if_false,
      List.mem_append, List.map_cons, List.map_nil, List.mem_singleton] at hmem ⊢
    tauto

theorem Queued.popFront {item : PackageItem} (hworker : running.packager.worker = .sent item) :
    Queued running { running with packager := running.packager.popFront } [] [] := by
  refine .idle rfl ?_ rfl (fun _ hmem => hmem)
  simp [waiting, Packager.popFront, hworker]

/-- Completions change the flag and the queue of the events only. -/
theorem foldl_onCompletion_eq (tois : List ℕ) (packager : Packager) :
    ∃ queued reports, tois.foldl Packager.onCompletion packager =
        { packager with queued := queued, completed := packager.completed ++ reports } ∧
      ∀ objectId ∈ reports, objectId = packager.queuedObjectId ∧ packager.queuedToi ∈ tois := by
  induction tois generalizing packager with
  | nil => exact ⟨packager.queued, [], by simp, by simp⟩
  | cons toi tois ih =>
      obtain ⟨queued, reports, hrest, hreports⟩ := ih (packager.onCompletion toi)
      rw [List.foldl_cons, hrest]
      unfold Packager.onCompletion at hreports ⊢
      by_cases hsame : packager.queuedToi = toi
      · rw [if_pos hsame] at hreports ⊢
        refine ⟨queued, packager.queuedObjectId :: reports, by simp, ?_⟩
        intro objectId hmem
        refine ⟨?_, by simp [hsame]⟩
        cases List.mem_cons.mp hmem with
        | inl hfirst => exact hfirst
        | inr hlater => exact (hreports objectId hlater).1
      · rw [if_neg hsame] at hreports ⊢
        refine ⟨queued, reports, rfl, ?_⟩
        intro objectId hmem
        obtain ⟨hid, htoi⟩ := hreports objectId hmem
        exact ⟨hid, List.mem_cons_of_mem toi htoi⟩

theorem Queued.runOne (hworker : running.packager.worker = .completing) {tois : List ℕ}
    (htois : ∀ toi ∈ tois, toi ∈ running.outstanding) :
    Queued running { running with
      packager := running.packager.runOne tois
      outstanding := running.outstanding.filter (· ∉ tois) } [] [] := by
  obtain ⟨queued, reports, hfold, hreports⟩ := foldl_onCompletion_eq tois running.packager
  rw [Packager.runOne, hfold]
  refine .idle rfl (by simp [waiting, hworker]) rfl ?_
  intro objectId hmem
  have hqueued : running.outstanding ≠ [] →
      running.packager.queuedObjectId ∈ running.reported := by
    intro hsome
    simp [reported, hsome]
  simp only [reported, List.mem_append] at hmem
  obtain ((houtstanding | hcompleted | hreport) | hthread) := hmem
  · split at houtstanding
    case isTrue => cases houtstanding
    case isFalse hsome =>
        rw [List.mem_singleton.mp houtstanding]
        refine hqueued fun hnil => hsome ?_
        rw [hnil]
        rfl
  · simp [reported, hcompleted]
  · obtain ⟨rfl, htoi⟩ := hreports objectId hreport
    exact hqueued (List.ne_nil_of_mem (htois _ htoi))
  · simp [reported, hthread]

theorem Queued.popSendCompleted {objectId : String} {rest : List String}
    (hcompleted : running.packager.completed = objectId :: rest) :
    Queued running { running with
      packager := { running.packager with completed := rest }
      eventThread := .popped objectId } [] [] := by
  refine .idle rfl (by simp [waiting]) rfl ?_
  intro other hmem
  simp only [reported, hcompleted, List.mem_append, List.mem_cons] at hmem ⊢
  obtain ((hfirst | hrest) | hhandled) := hmem
  · exact .inl (.inl hfirst)
  · exact .inl (.inr (.inr hrest))
  · exact .inl (.inr (.inl (List.mem_singleton.mp hhandled)))

/-- The thread of the events goes on with an object it has, or with none. -/
theorem Queued.withEventThread {eventThread : EventThread}
    (hids : ∀ objectId ∈ eventThread.objectIds, objectId ∈ running.eventThread.objectIds) :
    Queued running { running with eventThread := eventThread } [] [] := by
  refine .idle rfl (by simp [waiting]) rfl ?_
  intro objectId hmem
  rw [reported, List.mem_append] at hmem ⊢
  exact hmem.imp_right (hids objectId)

/-- The worker is joined: what waited does not wait any more. -/
theorem Queued.joinWorker (hworker : running.packager.worker = .roundStart) :
    Queued running running.joinWorker [] [] := by
  have hnone : running.joinWorker.waiting = [] := by
    simp [waiting, RunningPackager.joinWorker, hworker]
  refine .ended (by simp [RunningPackager.joinWorker]) rfl rfl (hnone ▸ List.nil_sublist _) rfl ?_
  intro objectId hmem
  simp only [reported, RunningPackager.joinWorker, if_true, List.nil_append,
    List.mem_append] at hmem ⊢
  tauto

theorem Queued.joinEvents : Queued running running.joinEvents [] [] := by
  refine .ended (by simp [RunningPackager.joinEvents]) rfl rfl (List.Sublist.refl _) rfl ?_
  intro objectId hmem
  simp only [reported, RunningPackager.joinEvents, List.append_nil, List.mem_append] at hmem ⊢
  tauto

/-- What any step does to the queue. -/
theorem Sound.turn_queued (hsound : running.Sound) {abandoned : Bool} {label : PackagerLabel}
    {after : Turn} (hturn : running.turn abandoned objects label = some after) :
    Queued running after.running [] (running.transmitted objects label) := by
  cases turn_taken hturn with
  | begun transmitterThrows _ hworker => exact .beginRound hworker transmitterThrows
  | unfound secondsSinceEpoch outcome _ hworker hobject =>
      have hnone : running.transmitted objects (.send secondsSinceEpoch outcome) = [] := by
        cases outcome with
        | throws => rfl
        | accepted toi => simp [transmitted, hworker, hobject]
      rw [hnone]
      exact .sendThrows hsound hworker _ _
  | thrown _ _ hworker => exact .sendThrows hsound hworker _ _
  | @accepted item object secondsSinceEpoch toi hlife hworker hobject _ =>
      have hone : running.transmitted objects (.send secondsSinceEpoch (.accepted toi)) =
          [(item.objectId, sendRequest object secondsSinceEpoch)] := by
        simp [transmitted, hworker, hobject]
      rw [hone]
      exact .accepted hsound hlife hworker _ _
  | popped _ hworker => exact .popFront hworker
  | ran _ hworker _ htois => exact .runOne hworker htois
  | eventPopped _ _ hcompleted => exact .popSendCompleted hcompleted
  | @dispatched objectId hpopped =>
      refine .withEventThread ?_
      intro other hmem
      rw [hpopped]
      split at hmem
      · exact hmem
      · cases hmem
  | @looked objectId hhandling =>
      obtain ⟨-, eventThread, hrunning, hcases⟩ := lookAtSent_eq running objects objectId
      rw [hrunning]
      refine .withEventThread ?_
      intro other hmem
      obtain rfl | ⟨rfl, -⟩ := hcases
      · cases hmem
      · rw [hhandling]
        exact hmem
  | deleted => exact .withEventThread fun _ hmem => by cases hmem
  | workerJoined _ _ hworker => exact .joinWorker hworker
  | eventsJoined => exact .joinEvents

/-- How a packager stands to the objects it was given and to those it has transmitted. -/
structure InOrder (running : RunningPackager) (handed : List String)
    (sent : List (String × SendRequest)) : Prop where
  queue : ∃ left, handed = sent.map Prod.fst ++ left ∧
    (running.life = .working → left = running.waiting)
  requests : sent.map Prod.snd = running.packager.requests
  reported : ∀ objectId ∈ running.reported, objectId ∈ sent.map Prod.fst

theorem inOrder_new (destIpAddr : Option String) : (new destIpAddr).InOrder [] [] where
  queue := ⟨[], rfl, fun _ => rfl⟩
  requests := rfl
  reported := by
    intro objectId hmem
    cases hmem

theorem InOrder.queued {handed added : List String} {sent more : List (String × SendRequest)}
    (horder : running.InOrder handed sent) (hqueued : Queued running next added more) :
    next.InOrder (handed ++ added) (sent ++ more) := by
  obtain ⟨⟨left, hleft, hwaiting⟩, hrequests, hreported⟩ := horder
  cases hqueued with
  | moved hlife hsent hmoved hnext hreports =>
      refine ⟨?_, ?_, ?_⟩
      · by_cases hworking : running.life = .working
        · refine ⟨next.waiting, ?_, fun _ => rfl⟩
          rw [hleft, hwaiting hworking, List.append_assoc, hmoved, List.map_append,
            List.append_assoc]
        · obtain rfl := hsent.resolve_right hworking
          refine ⟨left ++ added, ?_, fun hnow => absurd (hlife ▸ hnow) hworking⟩
          rw [hleft, List.append_nil, List.append_assoc]
      · rw [List.map_append, hrequests, hnext]
      · intro objectId hmem
        rw [List.map_append, List.mem_append]
        exact (hreports objectId hmem).imp_left (hreported objectId)
  | ended hlife hadded hsent _ hnext hreports =>
      subst hadded hsent
      rw [List.append_nil, List.append_nil]
      exact ⟨⟨left, hleft, fun hnow => absurd hnow hlife⟩, hrequests.trans hnext.symm,
        fun objectId hmem => hreported objectId (hreports objectId hmem)⟩

/-- What waits after a step, or is transmitted in it, has waited before or was added. -/
theorem Queued.conserved {added : List String} {sent : List (String × SendRequest)}
    (hqueued : Queued running next added sent) :
    ∃ dropped : Multiset String, (running.waiting : Multiset String) + added =
      (sent.map Prod.fst : Multiset String) + next.waiting + dropped := by
  cases hqueued with
  | moved _ _ hwaiting =>
      refine ⟨0, ?_⟩
      rw [add_zero, Multiset.coe_add, Multiset.coe_add, hwaiting]
  | ended _ hadded hsent hwaiting =>
      subst hadded hsent
      obtain ⟨dropped, hdropped⟩ := Multiset.le_iff_exists_add.mp
        (Multiset.coe_le.mpr hwaiting.subperm)
      refine ⟨dropped, ?_⟩
      rw [hdropped, List.map_nil, Multiset.coe_nil, zero_add, add_zero]

/-- A step deletes only what was reported. -/
theorem turn_deletes {abandoned : Bool} {label : PackagerLabel} {after : Turn}
    (hturn : running.turn abandoned objects label = some after) :
    after.objects = objects ∨
      ∃ objectId ∈ running.reported, after.objects = objects.deleteObject objectId := by
  cases turn_events hturn with
  | same _ _ hobjects => exact .inl hobjects
  | popped => exact .inl rfl
  | dispatched => exact .inl rfl
  | looked => exact .inl (lookAtSent_eq running objects _).1
  | @deleted objectId hdeleting =>
      exact .inr ⟨objectId, by simp [reported, hdeleting, EventThread.objectIds], rfl⟩
  | joined => exact .inl rfl

end RunningPackager

end Mbstf.Controller
