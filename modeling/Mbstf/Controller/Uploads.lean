import Mbstf.Controller.SentObjects
import Mbstf.Core.Feeding
import Mbstf.Ingest.PushBodies

/-!
# From upload to transmission

A controller with a push ingester: the callbacks of the daemon come between the steps of the
controller's threads, and the objects of the answered requests are added to the
controller's store.  Whatever the controller transmits was uploaded, whole, in one request
that was answered, and no upload is transmitted twice.
-/

namespace Mbstf.Controller

open Mbstf.Feeding Mbstf.Ingest Mbstf.Ingest.PushObjectIngester Mbstf.Matched Mbstf.Objects
open Mbstf.Observed Mbstf.Runs Mbstf.Session Mbstf.Subscription

/-- What is passed to `addObject`. -/
def passedObject (object : PushedObject) : String × Object :=
  (object.objectId, object.data, object.metadata)

/-- The step of the controller in which an object is added. -/
def addLabel (object : String × Object) : Label := .addObject object.1 object.2.1 object.2.2

/-- Objects are added by the ingester only. -/
def addsNothing : Label → Bool
  | .addObject _ _ _ => false
  | _ => true

/-- The objects that a callback adds. -/
def addedByCallback (served : Daemon × PushObjectIngester) (callback : Callback) : List Label :=
  match served.2.callback callback with
  | none => []
  | some after =>
      (after.pushed.drop served.2.pushed.length).map fun object => addLabel (passedObject object)

theorem addedByCallback_eq {served : Daemon × PushObjectIngester} {callback : Callback}
    {after : PushObjectIngester} {added : List PushedObject}
    (hcallback : served.2.callback callback = some after)
    (hadded : served.2.pushed ++ added = after.pushed) :
    addedByCallback served callback = (added.map passedObject).map addLabel := by
  rw [addedByCallback, hcallback]
  simp only [← hadded, List.drop_left, List.map_map, Function.comp_def]

theorem filterMap_addLabel (objects : List (String × Object)) :
    (objects.map addLabel).filterMap addedObject = objects := by
  rw [List.filterMap_map]
  exact List.filterMap_some

/-- The transmission has what was uploaded in an exchange: the blocks of its body, and the type
that came with them. -/
def CarriesUpload (daemon : Daemon) (sent : String × SendRequest) (pointer : RequestPtr) : Prop :=
  ∃ exchange, daemon.exchanges[pointer]? = some exchange ∧ exchange.answered = true ∧
    Request.Allowed exchange.start.method ∧ sent.2.data = exchange.blocks.flatten ∧
    sent.2.contentType =
      (exchange.start.getHeader "Content-Type").getD "application/octet-stream"

namespace Uploading

/-- The daemon with the ingester, and the controller. -/
def start (setup : Setup) (service : SubscriptionService) :
    (Daemon × PushObjectIngester) × System :=
  ((.new, .new service .new), .start setup)

/-- A callback of the daemon, or a step of the controller's threads. -/
def step (setup : Setup) :
    (Daemon × PushObjectIngester) × System → Callback ⊕ Label →
      Option ((Daemon × PushObjectIngester) × System) :=
  Feeding.step serveStep addedByCallback (System.step setup) addsNothing

/-- The steps of the controller, with the objects that were added. -/
def controllerLabels (service : SubscriptionService) (labels : List (Callback ⊕ Label)) :
    List Label :=
  sinkLabels serveStep addedByCallback (.new, .new service .new) labels

variable {setup : Setup} {service : SubscriptionService} {labels : List (Callback ⊕ Label)}
variable {daemon : Daemon} {ingester : PushObjectIngester} {system : System}

/-- The controller gets the objects that the ingester adds, in that order. -/
theorem added_of_run
    (hrun : run (step setup) (start setup service) labels = some ((daemon, ingester), system)) :
    (controllerLabels service labels).filterMap addedObject =
      ingester.pushed.map passedObject := by
  have hown : ∀ label, addsNothing label = true → addedObject label = none := by
    intro label hlabel
    cases label with
    | addObject objectId data metadata => cases hlabel
    | _ => rfl
  have hstep : ∀ (seen : List (String × Object)) served callback next,
      (Follows served.1 served.2 ∧ seen = served.2.pushed.map passedObject) →
      serveStep served callback = some next →
        Follows next.1 next.2 ∧
          seen ++ (addedByCallback served callback).filterMap addedObject =
            next.2.pushed.map passedObject := by
    rintro seen served callback next ⟨hfollows, rfl⟩ hstep
    obtain ⟨hdaemon, hcallback⟩ := serveStep_eq_some.mp hstep
    obtain ⟨hnext, added, hadded⟩ := hfollows.step hdaemon hcallback
    refine ⟨hnext, ?_⟩
    rw [addedByCallback_eq hcallback hadded, filterMap_addLabel, ← hadded, List.map_append]
  rw [controllerLabels, filterMap_sinkLabels hown hrun]
  exact (observed_invariant hstep ⟨follows_new service .new, rfl⟩ (run_source hrun)).2

/-- A transmission of an object that the ingester added has what was uploaded. -/
theorem carriesUpload_of_sentOf (hfollows : Follows daemon ingester) {object : PushedObject}
    (hpushed : object ∈ ingester.pushed) {sent : String × SendRequest}
    (hsent : SentOf sent (passedObject object)) : CarriesUpload daemon sent object.request := by
  obtain ⟨exchange, hexchange, hcarried⟩ := hfollows.pushed object hpushed
  obtain ⟨-, secondsSinceEpoch, hrequest⟩ := hsent
  refine ⟨exchange, hexchange, hcarried.answered, hcarried.allowed, ?_, ?_⟩
  · rw [hrequest]
    exact hcarried.data
  · rw [hrequest]
    exact hcarried.mediaType

theorem addedIds_of_run
    (hrun : run (step setup) (start setup service) labels = some ((daemon, ingester), system)) :
    System.addedIds (controllerLabels service labels) =
      ingester.pushed.map PushedObject.objectId := by
  rw [← map_fst_addedObject, added_of_run hrun, List.map_map]
  rfl

/-- No upload is transmitted twice. -/
theorem exists_uploads_nodup
    (hrun : run (step setup) (start setup service) labels = some ((daemon, ingester), system))
    (hfresh : (ingester.pushed.map PushedObject.objectId).Nodup) :
    ∃ uploads : List RequestPtr, uploads.Nodup ∧
      List.Forall₂ (CarriesUpload daemon)
        (allSent (System.deliveries setup (controllerLabels service labels))) uploads := by
  have hfollows := follows_of_run (run_source hrun)
  have hadded := added_of_run hrun
  rw [← addedIds_of_run hrun] at hfresh
  have hnodup := System.nodup_allTransmitted hfresh (run_sink hrun)
  rw [← map_fst_allSent] at hnodup
  have hmatches : ∀ sent ∈ allSent (System.deliveries setup (controllerLabels service labels)),
      ∃ object ∈ ingester.pushed, sent.1 = object.objectId ∧
        CarriesUpload daemon sent object.request := by
    intro sent hmem
    obtain ⟨added, hmemAdded, hsent⟩ := System.exists_added_of_mem hmem
    rw [hadded] at hmemAdded
    obtain ⟨object, hobject, rfl⟩ := List.mem_map.mp hmemAdded
    exact ⟨object, hobject, hsent.1, carriesUpload_of_sentOf hfollows hobject hsent⟩
  obtain ⟨objects, hobjects, hpushed, hall⟩ := exists_matched_nodup hnodup hmatches
  refine ⟨objects.map PushedObject.request, hobjects.map_on ?_,
    List.forall₂_map_right_iff.mpr hall⟩
  intro first hfirst second hsecond hsame
  exact List.inj_on_of_nodup_map hfollows.once (hpushed first hfirst) (hpushed second hsecond)
    hsame

/-- A packager transmits uploads in the order in which they were answered. -/
theorem uploads_in_order
    (hrun : run (step setup) (start setup service) labels = some ((daemon, ingester), system))
    (hfresh : (ingester.pushed.map PushedObject.objectId).Nodup) (index : ℕ) :
    List.SublistForall₂ (CarriesUpload daemon)
      (transmittedBy index (System.deliveries setup (controllerLabels service labels)))
      (ingester.pushed.map PushedObject.request) := by
  have hfollows := follows_of_run (run_source hrun)
  have hadded := added_of_run hrun
  have hids := addedIds_of_run hrun
  have hsystem := run_sink hrun
  have hkeys : ((transmittedBy index
      (System.deliveries setup (controllerLabels service labels))).map Prod.fst).Sublist
        (ingester.pushed.map PushedObject.objectId) := by
    rw [← hids]
    exact (System.inOrderAt_of_run hsystem index).sublist.trans
      (System.handedTo_sublist_addedIds hsystem index)
  rw [← hids] at hfresh
  rw [List.sublistForall₂_map_right_iff]
  refine sublistForall₂_of_map_sublist hkeys fun sent hmem object hobject hid => ?_
  have hobjectAdded : passedObject object ∈
      (controllerLabels service labels).filterMap addedObject :=
    hadded ▸ List.mem_map_of_mem hobject
  exact carriesUpload_of_sentOf hfollows hobject
    (System.sentOf_of_mem hfresh (mem_allSent_of_mem_transmittedBy hmem) hobjectAdded hid)

/-- In whatever way requests, answers and the threads of a controller interleave: all that
is transmitted, by all packagers together, was uploaded in different requests that were
answered, and each packager transmits uploads in the order in which they were answered. -/
theorem transmitted_uploaded
    (hrun : run (step setup) (start setup service) labels = some ((daemon, ingester), system))
    (hfresh : (ingester.pushed.map PushedObject.objectId).Nodup) :
    (∃ uploads : List RequestPtr, uploads.Nodup ∧
      List.Forall₂ (CarriesUpload daemon)
        (allSent (System.deliveries setup (controllerLabels service labels))) uploads) ∧
    ∀ index, List.SublistForall₂ (CarriesUpload daemon)
      (transmittedBy index (System.deliveries setup (controllerLabels service labels)))
      (ingester.pushed.map PushedObject.request) :=
  ⟨exists_uploads_nodup hrun hfresh, uploads_in_order hrun hfresh⟩

/-- A call for a request on a connection, whose object gets an id. -/
def uploadCall (connection : Connection) (objectId : String) (uploadData : ObjectData) :
    Callback :=
  .handleRequest {
    connection := connection
    url := "/" ++ objectId
    method := "PUT"
    version := "HTTP/1.1"
    uploadData := uploadData
    getHeader := fun field => if field = "Content-Type" then some "video/mp4" else none
    chronoParse := fun _ _ => none
    now := 0
    decisions := fun _ => ⟨[], []⟩
    surroundings := ⟨0, 0, 0, "http://127.0.0.1:80/", "http://127.0.0.1:80/", none, objectId⟩ }

/-- Two uploads at a time; the second is answered first, and is transmitted. -/
def twoUploads : List (Callback ⊕ Label) :=
  List.replicate 3 (.inr .construct) ++
    [.inl (uploadCall 1 "first" []), .inl (uploadCall 2 "second" []),
      .inl (uploadCall 1 "first" [7]), .inl (uploadCall 2 "second" [9]),
      .inl (uploadCall 1 "first" [8]), .inl (uploadCall 2 "second" []),
      .inr .popEvent, .inr .dispatch, .inr .handle, .inr .addItem,
      .inl (uploadCall 1 "first" []), .inr .popEvent, .inr .dispatch, .inr .handle, .inr .addItem,
      .inr (.packager 0 (.beginRound false)), .inr (.packager 0 (.send 0 (.accepted 1)))]

theorem second_transmitted_uploaded :
    ∃ daemon ingester system,
      run (step System.listSetup) (start System.listSetup .new) twoUploads =
        some ((daemon, ingester), system) ∧
      (allSent (System.deliveries System.listSetup (controllerLabels .new twoUploads))).map
        (fun sent => sent.2.data) = [[9]] ∧
      (∃ uploads : List RequestPtr, uploads.Nodup ∧
        List.Forall₂ (CarriesUpload daemon)
          (allSent (System.deliveries System.listSetup (controllerLabels .new twoUploads)))
          uploads) ∧
      ∀ index, List.SublistForall₂ (CarriesUpload daemon)
        (transmittedBy index
          (System.deliveries System.listSetup (controllerLabels .new twoUploads)))
        (ingester.pushed.map PushedObject.request) := by
  have hends : (run (step System.listSetup) (start System.listSetup .new) twoUploads).any
      (fun final => (final.1.2.pushed.map PushedObject.objectId).Nodup) = true := by
    decide +kernel
  obtain ⟨⟨⟨daemon, ingester⟩, system⟩, hrun, hnodup⟩ := (Option.any_eq_true _ _).mp hends
  have hfresh : (ingester.pushed.map PushedObject.objectId).Nodup := of_decide_eq_true hnodup
  exact ⟨daemon, ingester, system, hrun, by decide +kernel,
    transmitted_uploaded hrun hfresh⟩

end Uploading

end Mbstf.Controller
