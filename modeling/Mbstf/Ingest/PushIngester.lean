import Mbstf.Ingest.PushRequest
import Mbstf.Subscription.Delivery

/-!
# The push ingester

microhttpd calls `handle_request` for every step of an HTTP request and
`request_completion_callback` at its end, all from one thread.  One call is one step
here; what it reads from the connection, the clock, the sockets, the controller and the
subscribers is part of the call.
-/

namespace Mbstf.Ingest

open Mbstf.Objects Mbstf.Session Mbstf.Subscription

/-- A `struct MHD_Connection*`. -/
abbrev Connection := ℕ

/-- A `std::shared_ptr<Request>`: the place of the request among all there have been. -/
abbrev RequestPtr := ℕ

/-- What a subscriber does when a push starts: the calls of `setError` on the request, and
what it calls on the event. -/
structure PushDecision where
  errors : List (ℕ × String)
  actions : List Event.Action

/-- What `processRequest` is told by others; the server prefix is looked up twice. -/
structure Surroundings where
  now : TimePoint
  created : TimePoint
  expiresFrom : TimePoint
  urlPrefix : String
  baseUrlPrefix : String
  objectDistributionBaseUrl : Option String
  nextObjectId : String

/-- A call of `handle_request`. -/
structure HandleRequest where
  connection : Connection
  url : String
  method : String
  version : String
  uploadData : ObjectData
  getHeader : String → Option String
  chronoParse : ChronoParse
  now : TimePoint
  decisions : SubscriberPtr → PushDecision
  surroundings : Surroundings

/-- A call of `addObject` by the request at `request`. -/
structure PushedObject where
  request : RequestPtr
  objectId : String
  data : ObjectData
  metadata : Metadata

/-- A call of `MHD_queue_response` by the request at `request`. -/
structure QueuedResponse where
  connection : Connection
  request : RequestPtr
  statusCode : ℕ
  deriving DecidableEq

/-- `PushObjectIngester`: `requests` are all requests there have been, `conCls` is what the
connections hold, `asyncEvents` are the `ObjectPushBlockReceived` events, and `pushed` and
`responses` log what was added to the store and what was answered. -/
structure PushObjectIngester where
  service : SubscriptionService
  urlPrefix : String
  requests : List Request
  activeRequests : List RequestPtr
  conCls : Connection → Option RequestPtr
  asyncEvents : List RequestPtr
  objectStore : ObjectStore
  pushed : List PushedObject
  responses : List QueuedResponse

namespace PushedObject

/-- The call on the store. -/
def call (object : PushedObject) : ObjectStore.Call :=
  .addObject object.objectId object.data object.metadata

end PushedObject

/-- The `processEvent` of the subscribers to `ObjectPushStart`. -/
def pushHandler (decisions : SubscriberPtr → PushDecision) : Handler Request :=
  fun subscriber request _ =>
    ((decisions subscriber).errors.foldl
      (fun current error => (current.setError error.1 error.2).1) request,
      (decisions subscriber).actions)

namespace PushObjectIngester

/-- A new ingester, with the subscriptions it has by the time of its first request. -/
def new (service : SubscriptionService) (objectStore : ObjectStore) : PushObjectIngester where
  service := service
  urlPrefix := ""
  requests := []
  activeRequests := []
  conCls := fun _ => none
  asyncEvents := []
  objectStore := objectStore
  pushed := []
  responses := []

/-- `addRequest(const std::shared_ptr<Request>&)`. -/
def addRequest (ingester : PushObjectIngester) (pointer : RequestPtr) (request : Request)
    (decisions : SubscriberPtr → PushDecision) : PushObjectIngester × Bool :=
  let (delivery, result) := ingester.service.sendEventSynchronous (pushHandler decisions)
    request (Event.new "ObjectPushStart")
  ({ ingester with
     activeRequests := ingester.activeRequests ++ [pointer]
     requests := ingester.requests.set pointer delivery.world }, result)

/-- `removeRequest(const std::shared_ptr<Request>&)`. -/
def removeRequest (ingester : PushObjectIngester) (pointer : RequestPtr) :
    PushObjectIngester :=
  { ingester with activeRequests := ingester.activeRequests.erase pointer }

/-- `Request::addBodyBlock` and `addedBodyBlock`. -/
def addBodyBlock (ingester : PushObjectIngester) (pointer : RequestPtr)
    (bodyBlock : ObjectData) : PushObjectIngester :=
  { ingester with
    requests := ingester.requests.modify pointer fun request => request.addBodyBlock bodyBlock
    asyncEvents := ingester.asyncEvents ++ [pointer] }

/-- `getIngestServerPrefix()`: what the sockets tell is kept, once there is something. -/
def getIngestServerPrefix (ingester : PushObjectIngester) (found : String) :
    PushObjectIngester × String :=
  if ingester.urlPrefix = "" then ({ ingester with urlPrefix := found }, found)
  else (ingester, ingester.urlPrefix)

/-- `objectStore().addObject(…)`. -/
def addObject (ingester : PushObjectIngester) (object : PushedObject) : PushObjectIngester :=
  { ingester with
    objectStore :=
      ingester.objectStore.addObject object.objectId object.data object.metadata
    pushed := ingester.pushed ++ [object] }

/-- The URL of the object: a path is put behind the prefix of the server. -/
def objectUrl (ingester : PushObjectIngester) (urlPath found : String) :
    PushObjectIngester × String :=
  match urlPath.toList with
  | '/' :: path =>
      let (asked, ingestServerPrefix) := ingester.getIngestServerPrefix found
      (asked, ingestServerPrefix ++ String.ofList path)
  | _ => (ingester, urlPath)

/-- The metadata of the object, which is made before the request has an id. -/
def objectMetadata (request : Request) (url ingestBaseUrl : String)
    (surroundings : Surroundings) : Metadata :=
  { Metadata.new surroundings.created request.objectId
      (request.contentType.getD "application/octet-stream") url url request.urlPath
      (request.lastModified.getD surroundings.now) (some ingestBaseUrl)
      surroundings.objectDistributionBaseUrl none with
    cacheExpires :=
      some (request.expires.getD (addSeconds surroundings.expiresFrom (60 * cacheExpiry))) }

/-- `Request::processRequest()`. -/
def processRequest (ingester : PushObjectIngester) (pointer : RequestPtr) (request : Request)
    (surroundings : Surroundings) : PushObjectIngester × Request :=
  let (asked, url) := ingester.objectUrl request.urlPath surroundings.urlPrefix
  let (askedAgain, ingestBaseUrl) := asked.getIngestServerPrefix surroundings.baseUrlPrefix
  let metadata := objectMetadata request url ingestBaseUrl surroundings
  let body := request.bodyBlocks.flatten
  let objectId := if request.objectId = "" then surroundings.nextObjectId else request.objectId
  (askedAgain.addObject ⟨pointer, objectId, body, metadata⟩,
    { request with objectId := objectId, statusCode := 200 })

/-- `MHD_queue_response(connection, m_statusCode, m_mhdResponse)`. -/
def queueResponse (ingester : PushObjectIngester) (connection : Connection)
    (pointer : RequestPtr) (request : Request) : PushObjectIngester :=
  { ingester with
    requests := ingester.requests.set pointer request
    responses := ingester.responses ++ [⟨connection, pointer, request.statusCode⟩] }

/-- `Request::requestHandler(struct MHD_Connection*)`. -/
def requestHandler (ingester : PushObjectIngester) (connection : Connection)
    (pointer : RequestPtr) (request : Request) (surroundings : Surroundings) :
    PushObjectIngester :=
  if ¬ Request.Allowed request.method then
    ingester.queueResponse connection pointer
      (request.setError 405 "Method Not Allowed").1
  else
    let (ingester, processed) := ingester.processRequest pointer request surroundings
    ingester.queueResponse connection pointer processed

/-- The request that the first call makes. -/
def makeRequest (call : HandleRequest) (expires : Option TimePoint) : Request :=
  { Request.new with
    urlPath := call.url
    method := call.method
    protocolVersion := call.version
    etag := call.getHeader "ETag"
    contentType := call.getHeader "Content-Type"
    expires := expires
    lastModified := parseHttpDateTime call.chronoParse (call.getHeader "Last-Modified") }

/-- The first call for a request, when the headers have been read. -/
def startRequest (ingester : PushObjectIngester) (call : HandleRequest) (request : Request) :
    PushObjectIngester × Bool :=
  let pointer := ingester.requests.length
  { ingester with
    requests := ingester.requests ++ [request]
    conCls := Function.update ingester.conCls call.connection (some pointer)
    }.addRequest pointer request call.decisions

/-- A later call for a request. -/
def continueRequest (ingester : PushObjectIngester) (call : HandleRequest)
    (pointer : RequestPtr) : PushObjectIngester :=
  if call.uploadData ≠ [] then ingester.addBodyBlock pointer call.uploadData
  else
    match ingester.requests[pointer]? with
    | none => ingester
    | some request =>
        ingester.requestHandler call.connection pointer request call.surroundings

/-- `handle_request(…)`: `true` is `MHD_YES`. -/
def handleRequest (ingester : PushObjectIngester) (call : HandleRequest) :
    Except StdException (PushObjectIngester × Bool) :=
  match ingester.conCls call.connection with
  | none =>
      (headerExpiry call.getHeader call.now).map fun expires =>
        ingester.startRequest call (makeRequest call expires)
  | some pointer => .ok (ingester.continueRequest call pointer, true)

/-- `request_completion_callback(…)`; `none` is a null pointer that is followed. -/
def requestCompletion (ingester : PushObjectIngester) (connection : Connection) :
    Option PushObjectIngester :=
  (ingester.conCls connection).map fun pointer =>
    { ingester.removeRequest pointer with
      requests := ingester.requests.modify pointer Request.completed
      conCls := Function.update ingester.conCls connection none }

/-- The callbacks of the daemon. -/
inductive Callback where
  | handleRequest (call : HandleRequest)
  | requestCompletion (connection : Connection)

/-- One callback; `none` is an exception that leaves it, or a null pointer. -/
def callback (ingester : PushObjectIngester) : Callback → Option PushObjectIngester
  | .handleRequest call => (ingester.handleRequest call).toOption.map Prod.fst
  | .requestCompletion connection => ingester.requestCompletion connection

/-! ## What the parts leave alone -/

/-- What the subscribers to `ObjectPushStart` cannot change in a request. -/
def SameButError (first second : Request) : Prop :=
  second.method = first.method ∧ second.bodyBlocks = first.bodyBlocks ∧
    second.noMoreBodyData = first.noMoreBodyData

/-- What the delivery of a start event keeps: the request up to the error, and that the
calls made so far did what their subscribers decided. -/
def Deciding (decisions : SubscriberPtr → PushDecision) (start : Request)
    (delivery : Delivery Request) : Prop :=
  SameButError start delivery.world ∧
    ∀ call ∈ delivery.calls, call.actions = (decisions call.subscriber).actions

theorem SameButError.foldl_setError {start request : Request} (errors : List (ℕ × String))
    (hsame : SameButError start request) :
    SameButError start
      (errors.foldl (fun current error => (current.setError error.1 error.2).1) request) := by
  induction errors generalizing request with
  | nil => exact hsame
  | cons error errors ih =>
      apply ih
      simpa [SameButError] using hsame

theorem Deciding.processEvent (decisions : SubscriberPtr → PushDecision) (start : Request)
    (subscriber : SubscriberPtr) (delivery : Delivery Request)
    (hdeciding : Deciding decisions start delivery) :
    Deciding decisions start (delivery.processEvent (pushHandler decisions) subscriber) := by
  refine ⟨hdeciding.1.foldl_setError _, ?_⟩
  intro call hcall
  rcases List.mem_append.mp hcall with hearlier | hlast
  · exact hdeciding.2 call hearlier
  · rw [List.mem_singleton.mp hlast]
    rfl

/-- What `getIngestServerPrefix` leaves: all but the prefix. -/
theorem getIngestServerPrefix_eq (ingester : PushObjectIngester) (found : String) :
    ∃ urlPrefix, (ingester.getIngestServerPrefix found).1 =
      { ingester with urlPrefix := urlPrefix } := by
  rw [getIngestServerPrefix]
  split
  · exact ⟨found, rfl⟩
  · exact ⟨ingester.urlPrefix, rfl⟩

theorem objectUrl_eq (ingester : PushObjectIngester) (urlPath found : String) :
    ∃ urlPrefix, (ingester.objectUrl urlPath found).1 =
      { ingester with urlPrefix := urlPrefix } := by
  unfold objectUrl
  split
  · exact ingester.getIngestServerPrefix_eq found
  · exact ⟨ingester.urlPrefix, rfl⟩

/-- Processing a request adds one object, with the metadata made of the request. -/
theorem processRequest_metadata (ingester : PushObjectIngester) (pointer : RequestPtr)
    (request : Request) (surroundings : Surroundings) :
    ∃ urlPrefix url ingestBaseUrl object,
      object = PushedObject.mk pointer
        (if request.objectId = "" then surroundings.nextObjectId else request.objectId)
        request.bodyBlocks.flatten (objectMetadata request url ingestBaseUrl surroundings) ∧
      ingester.processRequest pointer request surroundings =
        ({ ingester.addObject object with urlPrefix := urlPrefix },
          { request with objectId := object.objectId, statusCode := 200 }) := by
  let asked := ingester.objectUrl request.urlPath surroundings.urlPrefix
  let askedAgain := asked.1.getIngestServerPrefix surroundings.baseUrlPrefix
  obtain ⟨first, hfirst⟩ : ∃ urlPrefix, asked.1 = { ingester with urlPrefix := urlPrefix } :=
    ingester.objectUrl_eq request.urlPath surroundings.urlPrefix
  obtain ⟨second, hsecond⟩ :
      ∃ urlPrefix, askedAgain.1 = { asked.1 with urlPrefix := urlPrefix } :=
    asked.1.getIngestServerPrefix_eq surroundings.baseUrlPrefix
  refine ⟨second, asked.2, askedAgain.2, _, rfl, ?_⟩
  let object : PushedObject := {
    request := pointer
    objectId := if request.objectId = "" then surroundings.nextObjectId else request.objectId
    data := request.bodyBlocks.flatten
    metadata := objectMetadata request asked.2 askedAgain.2 surroundings }
  have hadded : askedAgain.1.addObject object =
      { ingester.addObject object with urlPrefix := second } := by
    rw [hsecond, hfirst]
    rfl
  exact congrArg (fun added => (added,
    { request with objectId := object.objectId, statusCode := 200 })) hadded

/-- Processing a request adds one object with the whole body. -/
theorem processRequest_eq (ingester : PushObjectIngester) (pointer : RequestPtr)
    (request : Request) (surroundings : Surroundings) :
    ∃ urlPrefix object, object.request = pointer ∧ object.data = request.bodyBlocks.flatten ∧
      ingester.processRequest pointer request surroundings =
        ({ ingester.addObject object with urlPrefix := urlPrefix },
          { request with objectId := object.objectId, statusCode := 200 }) := by
  obtain ⟨urlPrefix, url, ingestBaseUrl, object, rfl, hprocessed⟩ :=
    ingester.processRequest_metadata pointer request surroundings
  exact ⟨urlPrefix, _, rfl, rfl, hprocessed⟩

/-! ## What a callback does -/

/-- The header fields that are read are numbers that `std::stoul` reads. -/
def NumbersRead (getHeader : String → Option String) : Prop :=
  ∀ cacheControl, getHeader "Cache-Control" = some cacheControl →
    "max-age=".toList.isPrefixOf cacheControl.toList →
      (stoul (cacheControl.toList.drop 8)).isOk ∧
        ∀ age, getHeader "Age" = some age → (stoul age.toList).isOk

/-- No subscriber prevents or stops the event of a new push. -/
def Accepted (service : SubscriptionService) (decisions : SubscriberPtr → PushDecision) : Prop :=
  ∀ subscriber ∈ service.interested "ObjectPushStart", (decisions subscriber).actions = []

theorem exists_map_eq_ok_iff {Failure Value Result : Type*} {result : Except Failure Value}
    {f : Value → Result} : (∃ mapped, result.map f = .ok mapped) ↔ result.isOk := by
  cases result with
  | error failure => simp [Except.map, Except.isOk, Except.toBool]
  | ok value => simp [Except.map, Except.isOk, Except.toBool]

theorem headerExpiry_ok_iff (getHeader : String → Option String) (now : TimePoint) :
    (∃ expires, headerExpiry getHeader now = .ok expires) ↔ NumbersRead getHeader := by
  unfold headerExpiry NumbersRead
  cases getHeader "Cache-Control" with
  | none =>
      exact ⟨fun _ cacheControl habsent => absurd habsent (Option.some_ne_none _).symm,
        fun _ => ⟨none, rfl⟩⟩
  | some cacheControl =>
      simp only [Option.some.injEq, forall_eq']
      generalize "max-age=".toList.isPrefixOf cacheControl.toList = isMaxAge
      cases isMaxAge with
      | false => simp
      | true =>
          cases stoul (cacheControl.toList.drop 8) with
          | error exception => simp [Except.bind, Except.isOk, Except.toBool]
          | ok maxAge =>
              cases getHeader "Age" with
              | none => simp [Except.bind, Except.isOk, Except.toBool]
              | some age =>
                  simp only [if_true, Except.bind, exists_map_eq_ok_iff, Option.some.injEq,
                    forall_eq', forall_const]
                  exact (and_iff_right rfl).symm

/-- The start event is accepted exactly when no subscriber prevents or stops it. -/
theorem sendEventSynchronous_accepted (service : SubscriptionService)
    (decisions : SubscriberPtr → PushDecision) (request : Request) :
    SameButError request
        (service.sendEventSynchronous (pushHandler decisions) request
          (Event.new "ObjectPushStart")).1.world ∧
      ((service.sendEventSynchronous (pushHandler decisions) request
          (Event.new "ObjectPushStart")).2 = true ↔ Accepted service decisions) := by
  obtain ⟨hwalk, hresult⟩ := service.sendEventSynchronous_walk (pushHandler decisions) request
    (show (Event.new "ObjectPushStart").stopProcessingFlag = false from rfl) rfl
  obtain ⟨hsame, hdecided⟩ := service.sendEventSynchronous_keeps
    (Deciding.processEvent decisions request)
    (show Deciding decisions request ⟨request, Event.new "ObjectPushStart", []⟩ from
      ⟨⟨rfl, rfl, rfl⟩, fun call hcall => absurd hcall List.not_mem_nil⟩)
  refine ⟨hsame, ?_⟩
  rw [hresult]
  constructor
  · intro hnone subscriber hsubscriber
    -- Nobody stopped the event, so every subscriber was called.
    have hcalled := hwalk.complete fun call hcall hstops =>
      List.ne_nil_of_mem hstops (hnone call hcall)
    obtain ⟨call, hcall, rfl⟩ := List.mem_map.mp (hcalled.symm ▸ hsubscriber)
    rw [← hdecided call hcall]
    exact hnone call hcall
  · intro haccepted call hcall
    rw [hdecided call hcall]
    exact haccepted call.subscriber (hwalk.isPrefix.subset (List.mem_map_of_mem hcall))

/-- The first call for a request whose headers are read. -/
theorem handleRequest_first {ingester : PushObjectIngester} {call : HandleRequest}
    (hfree : ingester.conCls call.connection = none) (hread : NumbersRead call.getHeader) :
    ∃ request accepted, request.method = call.method ∧ request.bodyBlocks = [] ∧
      request.noMoreBodyData = false ∧
      (accepted = true ↔ Accepted ingester.service call.decisions) ∧
      ingester.handleRequest call = .ok ({ ingester with
        requests := ingester.requests ++ [request]
        activeRequests := ingester.activeRequests ++ [ingester.requests.length]
        conCls := Function.update ingester.conCls call.connection
          (some ingester.requests.length) }, accepted) := by
  obtain ⟨expires, hexpires⟩ := (headerExpiry_ok_iff call.getHeader call.now).mpr hread
  obtain ⟨⟨hmethod, hblocks, hmore⟩, haccepted⟩ :=
    sendEventSynchronous_accepted ingester.service call.decisions (makeRequest call expires)
  refine ⟨_, _, hmethod, hblocks, hmore, haccepted, ?_⟩
  rw [handleRequest, hfree, hexpires]
  simp [Except.map, startRequest, addRequest]

/-- An upload call adds a block to the body. -/
theorem handleRequest_upload {ingester : PushObjectIngester} {call : HandleRequest}
    {pointer : RequestPtr} (hcon : ingester.conCls call.connection = some pointer)
    (hupload : call.uploadData ≠ []) :
    ingester.handleRequest call = .ok (ingester.addBodyBlock pointer call.uploadData, true) := by
  rw [handleRequest, hcon]
  exact congrArg (fun after => Except.ok (after, true)) (if_pos hupload)

/-- The call with zero bytes, for a method that is processed: the whole body is added to the
store, and the answer is 200. -/
theorem handleRequest_finish_allowed {ingester : PushObjectIngester} {call : HandleRequest}
    {pointer : RequestPtr} {request : Request}
    (hcon : ingester.conCls call.connection = some pointer) (hupload : call.uploadData = [])
    (hrequest : ingester.requests[pointer]? = some request)
    (hmethod : Request.Allowed request.method) :
    ∃ urlPrefix object, object.request = pointer ∧ object.data = request.bodyBlocks.flatten ∧
      ingester.handleRequest call = .ok (({ ingester.addObject object with
        urlPrefix := urlPrefix }).queueResponse call.connection pointer
          { request with objectId := object.objectId, statusCode := 200 }, true) := by
  obtain ⟨urlPrefix, object, hpointer, hdata, hprocessed⟩ :=
    ingester.processRequest_eq pointer request call.surroundings
  refine ⟨urlPrefix, object, hpointer, hdata, ?_⟩
  have hnotUpload : ¬ call.uploadData ≠ [] := not_not.mpr hupload
  simp only [handleRequest, hcon, continueRequest, if_neg hnotUpload, hrequest, requestHandler,
    if_neg (not_not.mpr hmethod), hprocessed]

/-- The call with zero bytes, for another method: the answer is 405. -/
theorem handleRequest_finish_not_allowed {ingester : PushObjectIngester} {call : HandleRequest}
    {pointer : RequestPtr} {request : Request}
    (hcon : ingester.conCls call.connection = some pointer) (hupload : call.uploadData = [])
    (hrequest : ingester.requests[pointer]? = some request)
    (hmethod : ¬ Request.Allowed request.method) (hmore : request.noMoreBodyData = false) :
    ingester.handleRequest call = .ok (ingester.queueResponse call.connection pointer
      { request with statusCode := 405, errorReason := "Method Not Allowed" }, true) := by
  have hnotUpload : ¬ call.uploadData ≠ [] := not_not.mpr hupload
  simp only [handleRequest, hcon, continueRequest, if_neg hnotUpload, hrequest, requestHandler,
    if_pos hmethod, Request.setError, hmore]
  rfl

end PushObjectIngester

end Mbstf.Ingest
