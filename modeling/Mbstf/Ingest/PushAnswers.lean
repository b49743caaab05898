import Mbstf.Core.Folds
import Mbstf.Ingest.PushIngester

/-!
# Answered once

The calls of `handle_request` for one request end with one response unless a number in a
header field is malformed, and the exception leaves the callback, or a subscriber refuses
the push, and the daemon closes the connection with the status of `setError` unsent.
-/

namespace Mbstf.Ingest

open Mbstf.Folds Mbstf.Objects Mbstf.Session Mbstf.Subscription

/-! ## The decision of the controllers -/

def hasLeadingSlash (text : String) : Bool := "/".toList.isPrefixOf text.toList

/-- `validate_push_url(DistributionSession&, const std::string&)`, the same in both
controllers. -/
def validatePushUrl (objectAcquisitionPushId : Option String) (url : String) : Bool :=
  match objectAcquisitionPushId with
  | none => true
  | some pushId =>
      if hasLeadingSlash pushId && !hasLeadingSlash url then pushId = "/" ++ url
      else if hasLeadingSlash url && !hasLeadingSlash pushId then "/" ++ pushId = url
      else pushId = url

/-- The `ObjectPushStart` branch of `processEvent`, the same in both controllers. -/
def pushStartDecision (objectAcquisitionPushId : Option String) (url : String) :
    PushDecision :=
  if validatePushUrl objectAcquisitionPushId url then ⟨[], []⟩
  else ⟨[(400, "Bad Request")], [.preventDefault]⟩

/-! ## The calls for one request -/

/-- The calls for one request: the first one, uploads, and one with zero bytes. -/
structure RequestCalls where
  first : HandleRequest
  uploads : List HandleRequest
  last : HandleRequest
  huploads : ∀ call ∈ uploads,
    call.connection = first.connection ∧ call.uploadData ≠ []
  hlast : last.connection = first.connection ∧ last.uploadData = []

namespace PushObjectIngester

/-- A controller accepts a push exactly when it finds the URL valid. -/
theorem accepted_pushStartDecision_iff {service : SubscriptionService}
    (hheard : service.interested "ObjectPushStart" ≠ []) (pushId : Option String)
    (url : String) :
    Accepted service (fun _ => pushStartDecision pushId url) ↔
      validatePushUrl pushId url = true := by
  have hactions : (pushStartDecision pushId url).actions = [] ↔
      validatePushUrl pushId url = true := by
    rw [pushStartDecision]
    split
    case isTrue hvalid => exact iff_of_true rfl hvalid
    case isFalse hinvalid => exact iff_of_false (List.cons_ne_nil _ _) hinvalid
  obtain ⟨subscriber, hsubscriber⟩ := List.exists_mem_of_ne_nil _ hheard
  constructor
  · intro haccepted
    exact hactions.mp (haccepted subscriber hsubscriber)
  · intro hvalid _ _
    exact hactions.mpr hvalid

/-- The calls after the first one, in order. -/
def continueAll (ingester : PushObjectIngester) (calls : List HandleRequest) :
    Except StdException PushObjectIngester :=
  calls.foldlM (fun current call => (current.handleRequest call).map Prod.fst) ingester

/-- What the daemon does with a request: after `MHD_NO` there is no further call. -/
def serve (ingester : PushObjectIngester) (calls : RequestCalls) :
    Except StdException PushObjectIngester :=
  (ingester.handleRequest calls.first).bind fun started =>
    if started.2 then started.1.continueAll (calls.uploads ++ [calls.last])
    else .ok started.1

/-- The status of the last `setError` on a request: that of the subscribers when they
refuse the push, else 405. -/
def SetErrorStatus (service : SubscriptionService) (call : HandleRequest) (status : ℕ) :
    Prop :=
  (Accepted service call.decisions → status = 405) ∧
    (¬ Accepted service call.decisions →
      ((service.interested "ObjectPushStart").flatMap fun subscriber =>
        (call.decisions subscriber).errors).getLast?.map Prod.fst = some status)

/-- One object was added to the store by the request at `pointer`. -/
def Stored (before after : PushObjectIngester) (pointer : RequestPtr) : Prop :=
  ∃ object : PushedObject, object.request = pointer ∧
    after.pushed = before.pushed ++ [object] ∧
    after.objectStore =
      before.objectStore.addObject object.objectId object.data object.metadata

/-- No exception leaves the calls, which queue one response; its status is 200 exactly when
the object was stored, and else the one given to `setError`. -/
def AnsweredOnce (ingester : PushObjectIngester) (calls : RequestCalls) : Prop :=
  ∃ after status, ingester.serve calls = .ok after ∧
    after.responses = ingester.responses ++
      [⟨calls.first.connection, ingester.requests.length, status⟩] ∧
    (status = 200 ↔ ingester.Stored after ingester.requests.length) ∧
    (status ≠ 200 → after.pushed = ingester.pushed ∧
      SetErrorStatus ingester.service calls.first status)

/-- What stays the same while a request is received. -/
structure Receiving (start : PushObjectIngester) (connection : Connection)
    (pointer : RequestPtr) (method : String) (current : PushObjectIngester) : Prop where
  conCls : current.conCls connection = some pointer
  request : ∃ request, current.requests[pointer]? = some request ∧
    request.method = method ∧ request.noMoreBodyData = false
  responses : current.responses = start.responses
  pushed : current.pushed = start.pushed
  objectStore : current.objectStore = start.objectStore

/-- Uploads are received. -/
theorem continueAll_uploads {start : PushObjectIngester} {connection : Connection}
    {pointer : RequestPtr} {method : String} {uploads : List HandleRequest}
    (huploads : ∀ call ∈ uploads, call.connection = connection ∧ call.uploadData ≠ [])
    {current : PushObjectIngester}
    (hreceiving : Receiving start connection pointer method current) :
    ∃ next, current.continueAll uploads = .ok next ∧
      Receiving start connection pointer method next := by
  induction uploads generalizing current with
  | nil => exact ⟨current, rfl, hreceiving⟩
  | cons call uploads ih =>
      obtain ⟨hconnection, hupload⟩ := huploads call List.mem_cons_self
      obtain ⟨request, hrequest, hmethod, hmore⟩ := hreceiving.request
      have hhandle := handleRequest_upload (hconnection ▸ hreceiving.conCls) hupload
      have hnext : Receiving start connection pointer method
          (current.addBodyBlock pointer call.uploadData) := {
        conCls := hreceiving.conCls
        request := ⟨request.addBodyBlock call.uploadData, by simp [addBodyBlock, hrequest],
          hmethod, hmore⟩
        responses := hreceiving.responses
        pushed := hreceiving.pushed
        objectStore := hreceiving.objectStore }
      have hfirst : (current.handleRequest call).map Prod.fst =
          .ok (current.addBodyBlock pointer call.uploadData) := by
        rw [hhandle]
        rfl
      obtain ⟨next, hrest, hlast⟩ :=
        ih (fun other hother => huploads other (List.mem_cons_of_mem call hother)) hnext
      exact ⟨next, (foldlM_cons_ok hfirst).trans hrest, hlast⟩

/-- The call with zero bytes answers the request. -/
theorem Receiving.finish {start current : PushObjectIngester} {call : HandleRequest}
    {pointer : RequestPtr} {method : String}
    (hreceiving : Receiving start call.connection pointer method current)
    (hlast : call.uploadData = []) :
    ∃ after status, (current.handleRequest call).map Prod.fst = .ok after ∧
      after.responses = start.responses ++ [⟨call.connection, pointer, status⟩] ∧
      (status = 200 ↔ start.Stored after pointer) ∧
      (status ≠ 200 → after.pushed = start.pushed ∧ status = 405) := by
  obtain ⟨request, hrequest, hmethod, hmore⟩ := hreceiving.request
  by_cases hallowed : Request.Allowed request.method
  · obtain ⟨urlPrefix, object, hpointer, -, hhandle⟩ :=
      handleRequest_finish_allowed hreceiving.conCls hlast hrequest hallowed
    refine ⟨_, 200, congrArg (Except.map Prod.fst) hhandle, ?_,
      iff_of_true rfl ⟨object, hpointer, ?_, ?_⟩, fun hother => absurd rfl hother⟩
    · rw [← hreceiving.responses]
      rfl
    · rw [← hreceiving.pushed]
      rfl
    · rw [← hreceiving.objectStore]
      rfl
  · have hhandle :=
      handleRequest_finish_not_allowed hreceiving.conCls hlast hrequest hallowed hmore
    refine ⟨_, 405, congrArg (Except.map Prod.fst) hhandle, ?_,
      iff_of_false (by decide) ?_, fun _ => ⟨hreceiving.pushed, rfl⟩⟩
    · rw [← hreceiving.responses]
      rfl
    · rintro ⟨object, -, hpushed, -⟩
      have hnone : start.pushed = start.pushed ++ [object] :=
        hreceiving.pushed.symm.trans hpushed
      simp at hnone

/-- A request on a free connection is answered once if and only if the numbers in its
header fields are read and no subscriber refuses it. -/
theorem serve_answeredOnce_iff {ingester : PushObjectIngester} {calls : RequestCalls}
    (hfree : ingester.conCls calls.first.connection = none) :
    ingester.AnsweredOnce calls ↔ NumbersRead calls.first.getHeader ∧
      Accepted ingester.service calls.first.decisions := by
  constructor
  · rintro ⟨after, status, hserve, hresponses, -⟩
    have hread : NumbersRead calls.first.getHeader := by
      rw [← headerExpiry_ok_iff calls.first.getHeader calls.first.now]
      by_contra hnone
      cases hexpires : headerExpiry calls.first.getHeader calls.first.now with
      | ok expires => exact hnone ⟨expires, hexpires⟩
      | error exception =>
          rw [serve, handleRequest, hfree, hexpires] at hserve
          cases hserve
    obtain ⟨request, accepted, -, -, -, haccepted, hhandle⟩ := handleRequest_first hfree hread
    refine ⟨hread, haccepted.mp ?_⟩
    cases accepted with
    | true => rfl
    | false =>
        -- A refused request is given up, with nothing sent.
        rw [serve, hhandle] at hserve
        obtain rfl := Except.ok.inj hserve
        simp at hresponses
  · rintro ⟨hread, haccepted⟩
    obtain ⟨request, accepted, hmethod, -, hmore, hiff, hhandle⟩ :=
      handleRequest_first hfree hread
    obtain rfl : accepted = true := hiff.mpr haccepted
    let started : PushObjectIngester := { ingester with
      requests := ingester.requests ++ [request]
      activeRequests := ingester.activeRequests ++ [ingester.requests.length]
      conCls := Function.update ingester.conCls calls.first.connection
        (some ingester.requests.length) }
    have hstarted : Receiving ingester calls.first.connection ingester.requests.length
        calls.first.method started := {
      conCls := Function.update_self ..
      request := ⟨request, by simp [started], hmethod, hmore⟩
      responses := rfl
      pushed := rfl
      objectStore := rfl }
    obtain ⟨received, huploads, hreceived⟩ := continueAll_uploads calls.huploads hstarted
    obtain ⟨hconnection, hlast⟩ := calls.hlast
    rw [← hconnection] at hreceived
    obtain ⟨after, status, hfinish, hresponses, hstored, hother⟩ := hreceived.finish hlast
    have hserve : ingester.serve calls = .ok after := by
      rw [serve, hhandle]
      exact (foldlM_append_ok huploads).trans (foldlM_cons_ok hfinish)
    refine ⟨after, status, hserve, hconnection ▸ hresponses, hstored, fun hnot => ?_⟩
    obtain ⟨hpushed, rfl⟩ := hother hnot
    exact ⟨hpushed, fun _ => rfl, fun hrefused => absurd haccepted hrefused⟩

/-- A `POST` without a body, with a `Cache-Control` and the decision of one subscriber. -/
def postCalls (url cacheControl : String) (decision : PushDecision) : RequestCalls :=
  let call : HandleRequest := {
    connection := 1
    url := url
    method := "POST"
    version := "HTTP/1.1"
    uploadData := []
    getHeader := fun field => if field = "Cache-Control" then some cacheControl else none
    chronoParse := fun _ _ => none
    now := 0
    decisions := fun _ => decision
    surroundings := ⟨0, 0, 0, "http://127.0.0.1:80/", "", none, "1"⟩ }
  { first := call, uploads := [], last := call
    huploads := fun _ hcall => absurd hcall List.not_mem_nil
    hlast := ⟨rfl, rfl⟩ }

/-- An ingester with a controller subscribed to its pushes. -/
def listenedTo : PushObjectIngester :=
  new (SubscriptionService.new.subscribeEvents ["ObjectPushStart"] 3).1 .new

theorem serve_answeredOnce_iff_post :
    listenedTo.AnsweredOnce (postCalls "/manifest" "max-age=60"
        (pushStartDecision (some "manifest") "/manifest")) ↔
      NumbersRead (postCalls "/manifest" "max-age=60"
        (pushStartDecision (some "manifest") "/manifest")).first.getHeader ∧
      Accepted listenedTo.service (postCalls "/manifest" "max-age=60"
        (pushStartDecision (some "manifest") "/manifest")).first.decisions :=
  serve_answeredOnce_iff rfl

/-- A `max-age` that is no number ends the process with an exception, and a refused URL is
given up with its status 400 unsent. -/
theorem malformed_and_refused_unanswered :
    (listenedTo.serve (postCalls "/manifest" "max-age=abc" ⟨[], []⟩)).isOk = false ∧
      ¬ listenedTo.AnsweredOnce (postCalls "/manifest" "max-age=abc" ⟨[], []⟩) ∧
      ((listenedTo.serve (postCalls "/other" "max-age=60"
          (pushStartDecision (some "manifest") "/other"))).map fun after =>
        (after.requests.map Request.statusCode, after.responses)) = .ok ([400], []) ∧
      ¬ listenedTo.AnsweredOnce (postCalls "/other" "max-age=60"
          (pushStartDecision (some "manifest") "/other")) := by
  refine ⟨?_, ?_, ?_, ?_⟩
  · decide +kernel
  · rintro ⟨after, status, hserve, -⟩
    have hthrown : (listenedTo.serve
        (postCalls "/manifest" "max-age=abc" ⟨[], []⟩)).isOk = false := by decide +kernel
    rw [hserve] at hthrown
    cases hthrown
  · decide +kernel
  · rintro ⟨after, status, hserve, hresponses, -⟩
    have hsilent : ((listenedTo.serve (postCalls "/other" "max-age=60"
        (pushStartDecision (some "manifest") "/other"))).map fun after =>
          after.responses) = .ok [] := by decide +kernel
    rw [hserve] at hsilent
    have hnone : after.responses = [] := Except.ok.inj hsilent
    rw [hnone] at hresponses
    exact absurd hresponses.symm (List.append_ne_nil_of_right_ne_nil _ (List.cons_ne_nil _ _))

end PushObjectIngester

end Mbstf.Ingest
