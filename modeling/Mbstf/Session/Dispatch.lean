import Mbstf.Session.Requests

/-!
# Dispatch of server events

`MBSTFEventHandler::dispatch` hands an event to `DistributionSession::processEvent`,
and handles it itself when that returns false.  Here every call of the JSON classes and
of the generated model may throw, and what is sent on the stream is written down as it
is sent.
-/

namespace Mbstf.Session

/-- What is sent on the stream of a request. -/
inductive Answer where
  | response (response : SBIResponse)
  /-- `Open5GSSBIServer::sendError`. -/
  | error (status : ℕ) (reason : String) (value : Option String)
  /-- What `ogs_nnrf_nfm_handle_nf_status_notify` sends. -/
  | nfStatusNotify

/-- The context and the stream; `nullStrings` counts the strings that were built from
null pointers. -/
structure Handler where
  context : Context
  answers : List Answer
  nullStrings : ℕ

/-- The calls of `serialise`. -/
inductive SerialiseCall where
  /-- For the log. -/
  | parsedJson
  | hash
  | body
  deriving DecidableEq

/-- What is used from outside the repository while an event is handled; each call may
throw.  A JSON text is not empty. -/
structure ThrowingEnvironment (Json : Type) where
  surroundings : Surroundings
  parse : Option String → Except StdException Json
  serialise : SerialiseCall → Json → Except StdException String
  serialise_ne_empty : ∀ call json text, serialise call json = .ok text → text ≠ ""
  createReqData : Json → Except StdException DistSession
  toJSON : DistSession → Except StdException Json
  calculateHash : String → String

/-- Code that handles an event and may throw. -/
abbrev Handling := ExceptT StdException (StateM Handler)

namespace Handling

/-- The result and the state it leaves. -/
def exec {Value : Type} (code : Handling Value) (handler : Handler) :
    Except StdException Value × Handler :=
  code.run.run handler

def answer (answer : Answer) : Handling Unit :=
  modify fun handler => { handler with answers := handler.answers ++ [answer] }

/-- Sends a response, and the event is handled. -/
def respond (response : SBIResponse) : Handling Bool := do
  answer (.response response)
  return true

/-- A call that may throw. -/
def call {Value : Type} : Except StdException Value → Handling Value
  | .ok value => pure value
  | .error exception => throw exception

/-- A call of the context. -/
def callContext (operation : Context → Except StdException Unit × Context) : Handling Unit := do
  let handler ← get
  let (result, context) := operation handler.context
  set { handler with context := context }
  call result

/-- `std::string(pointer)`. -/
def string : Option String → Handling String
  | some text => pure text
  | none => do
      modify fun handler => { handler with nullStrings := handler.nullStrings + 1 }
      throw ⟨.logicError, "basic_string: construction from null is not valid"⟩

section

variable {Json : Type} (env : ThrowingEnvironment Json)

/-- The text of a session. -/
def sessionBody (session : DistSession) : Except StdException String :=
  (env.toJSON session).bind (env.serialise .body)

/-- The answer made of a session. -/
def sessionResponse (context : Context) (status : ℕ) (location : String)
    (session : DistributionSession) : Except StdException SBIResponse :=
  (sessionBody env session.distSession).bind fun body =>
    if body = "" then
      .error ⟨.logicError, "basic_string: construction from null is not valid"⟩
    else
      .ok {
        status := status
        location := some location
        contentType := some "application/json"
        lastModified := some session.generated
        etag := some session.hash
        cacheControlMaxAge := context.distMaxAge
        allowMethods := none
        content := body
        problem := none
        about := some session }

/-- The constructor `DistributionSession(CJson&, bool)`. -/
def newDistributionSession (number : ℕ) (now : Objects.TimePoint) (json : Json) :
    Except StdException DistributionSession :=
  (env.createReqData json).bind fun distSession =>
    (env.serialise .hash json).map fun text => {
      createdBy := number
      distSession := distSession
      generated := now
      hash := env.calculateHash text
      distributionSessionId := distSession.distSessionId }

/-- The end of a `POST`. -/
def createSession (request : SBIRequest) (session : DistributionSession) : Handling Bool := do
  callContext fun context => context.addDistributionSession session
  let handler ← get
  let response ← call (sessionResponse env handler.context 201
    (request.uri ++ "/" ++ session.distributionSessionId) session)
  respond response

/-- A `POST` with what the JSON of its body was parsed to. -/
def postJson (number : ℕ) (request : SBIRequest) (json : Json) : Handling Bool :=
  match newDistributionSession env number request.now json with
  | .error exception =>
      respond (sendError 400 1 request "Bad Request"
        (some ("Bad request [" ++ exception.what ++ "]")) [])
  | .ok session =>
      match makeController env.surroundings session.distSession with
      | (.error exception, _) =>
          if exception.isRuntimeError then
            respond (sendError 400 1 request "Invalid ObjDistributionData parameters"
              (some ("Invalid ObjDistributionData parameters [" ++ exception.what ++ "]")) [])
          else throw exception
      | (.ok none, after) =>
          respond (sendError 501 1 request "Not Implemented"
            (some ("No handler found for objDistributionOperatingMode [" ++
              after.getObjectDistributionOperatingMode ++ "]")) [])
      | (.ok (some _), after) => createSession env request { session with distSession := after }

/-- A `POST` for `dist-sessions` itself. -/
def postSession (number : ℕ) (request : SBIRequest) : Handling Bool :=
  if request.headerValue "Content-Type" "" ≠ "application/json" then
    respond (sendError 415 1 request "Unsupported Media Type"
      (some "Expected content type: application/json") [])
  else
    match env.parse request.content with
    | .error _ =>
        respond (sendError 400 1 request "Bad MBSTF Distribution Session"
          (some "Unable to parse MBSTF Distribution Session as JSON.") [])
    | .ok json => do
        -- the text for the log, outside the handlers
        let _ ← call (env.serialise .parsedJson json)
        postJson env number request json

/-- `POST`. -/
def processPost (number : ℕ) (request : SBIRequest) : Handling Bool :=
  match request.resourceComponent 1, request.resourceComponent 2 with
  | some ref, some subresource =>
      if subresource = "subscriptions" then
        respond (sendError 501 3 request "Not Implemented"
          (some "Subscriptions not implemented yet") [])
      else
        respond (sendError 404 3 request "Not found"
          (some ("Distribution Session [" ++ ref ++ "] sub resource [" ++ subresource ++
            "] is not understood")) [])
  | some _, none =>
      respond (sendError 405 2 request "Method not allowed"
        (some "Cannot POST to individual Distribution Sessions") [])
  | none, _ => postSession env number request

/-- The handler of `std::out_of_range`. -/
def catchOutOfRange (request : SBIRequest) (id : String) (code : Handling Unit) :
    Handling Unit :=
  tryCatch code fun exception =>
    if exception.isOutOfRange then answer (.response (sessionNotFound request id))
    else throw exception

/-- The `try` block of a `GET`. -/
def answerSession (request : SBIRequest) (id : String) : Handling Unit := do
  let handler ← get
  let session ← call (handler.context.find id)
  let response ← call (sessionResponse env handler.context 200 request.uri session)
  answer (.response response)

/-- `GET`. -/
def processGet (request : SBIRequest) : Handling Bool :=
  match request.resourceComponent 1 with
  | none =>
      respond (sendError 400 1 request "Bad Request"
        (some ("Invalid resource [" ++ request.uri ++ "]")) [])
  | some id => do
      catchOutOfRange request id (answerSession env request id)
      return true

/-- `DELETE`. -/
def processDelete (request : SBIRequest) : Handling Bool :=
  match request.resourceComponent 1, request.resourceComponent 2 with
  | some id, none => do
      catchOutOfRange request id do
        callContext fun context => context.deleteDistributionSession id
        answer (.response (noContent none))
      return true
  | _, _ =>
      respond (sendError 404 2 request "Method not allowed"
        (some "The DELETE method is not allowed for this path") [])

/-- `OPTIONS`. -/
def processOptions (request : SBIRequest) : Handling Bool :=
  match request.resourceComponent 1, request.resourceComponent 2 with
  | some _, some resource2 =>
      if resource2 = "subscriptions" then respond (noContent (some "OPTIONS"))
      else respond (sendError 404 3 request "Not found" (some "Resource path not known") [])
  | some _, none => respond (noContent (some "GET, DELETE, OPTIONS"))
  | none, _ => respond (noContent (some "POST, OPTIONS"))

/-- A request for `dist-sessions`. -/
def processDistSessions (number : ℕ) (request : SBIRequest) : Handling Bool :=
  if request.method = "POST" then processPost env number request
  else if request.method = "GET" then processGet env request
  else if request.method = "DELETE" then processDelete request
  else if request.method = "OPTIONS" then processOptions request
  else
    respond (sendError 400 1 request "Bad request"
      (some ("Invalid method [" ++ request.method ++ "] for " ++ request.serviceName ++ "/" ++
        request.apiVersion ++ "/" ++ (request.resourceComponent 0).getD "")) [])

/-- `DistributionSession::processEvent(Open5GSEvent&)`. -/
def processEvent (number : ℕ) : Open5GSEvent → Handling Bool
  | .other => return false
  | .sbiServer none => return false
  | .sbiServer (some request) =>
      if request.serviceName ≠ "nmbstf-distsession" then return false
      else if request.apiVersion ≠ "v1" then
        respond (sendError 400 0 request "Unsupported API version" none [])
      else
        match request.resourceComponent 0 with
        | none =>
            respond (sendError 400 0 request "Missing resource name"
              (some "Missing resource name from URL path") [])
        | some resource0 =>
            if resource0 = "dist-sessions" then processDistSessions env number request
            else
              respond (sendError 400 1 request "Bad request"
                (some ("Unknown object type \"" ++ resource0 ++
                  "\" in MBSTF Distribution Session")) [])

/-- The `OGS_EVENT_SBI_SERVER` case of `dispatch`, when the header can be parsed. -/
def dispatchRequest (request : SBIRequest) : Handling Unit :=
  if request.serviceName = "nnrf-nfm" then
    if request.apiVersion ≠ "v1" then answer (.error 400 "Not supported version" none)
    else do
      let resource ← string (request.resourceComponent 0)
      if resource = "nf-status-notify" then
        if request.method = "POST" then answer .nfStatusNotify
        else answer (.error 403 "Invalid HTTP method" (some request.method))
      else answer (.error 400 "Invalid resource name" (some resource))
  else answer (.error 400 "Invalid API name." (some request.method))

/-- `MBSTFEventHandler::dispatch`, for the events that have a request. -/
def dispatch (number : ℕ) (event : Open5GSEvent) : Handling Unit := do
  let handled ← processEvent env number event
  if handled then return ()
  match event with
  | .other => return ()
  | .sbiServer none => answer (.error 400 "cannot parse HTTP message" none)
  | .sbiServer (some request) => dispatchRequest request

end

/-! ## How the code runs -/

variable {First Value : Type}

@[simp]
theorem exec_pure (value : Value) (handler : Handler) :
    (pure value : Handling Value).exec handler = (.ok value, handler) := rfl

@[simp]
theorem exec_throw (exception : StdException) (handler : Handler) :
    (throw exception : Handling Value).exec handler = (.error exception, handler) := rfl

@[simp]
theorem exec_get (handler : Handler) :
    (get : Handling Handler).exec handler = (.ok handler, handler) := rfl

theorem exec_bind (code : Handling First) (rest : First → Handling Value) (handler : Handler) :
    (code >>= rest).exec handler =
      match code.exec handler with
      | (.ok first, middle) => (rest first).exec middle
      | (.error exception, middle) => (.error exception, middle) := by
  rw [exec, exec, ExceptT.run_bind, StateT.run_bind]
  cases code.run.run handler with
  | mk result middle =>
      cases result with
      | ok first => rfl
      | error exception => rfl

theorem exec_tryCatch (code : Handling Value) (handle : StdException → Handling Value)
    (handler : Handler) :
    (tryCatch code handle).exec handler =
      match code.exec handler with
      | (.ok value, after) => (.ok value, after)
      | (.error exception, after) => (handle exception).exec after := by
  rw [exec, exec, ExceptT.run_tryCatch, StateT.run_bind]
  cases code.run.run handler with
  | mk result after =>
      cases result with
      | ok value => rfl
      | error exception => rfl

@[simp]
theorem exec_answer (sent : Answer) (handler : Handler) :
    (answer sent).exec handler =
      (.ok (), { handler with answers := handler.answers ++ [sent] }) := rfl

@[simp]
theorem exec_respond (response : SBIResponse) (handler : Handler) :
    (respond response).exec handler =
      (.ok true, { handler with answers := handler.answers ++ [.response response] }) := rfl

@[simp]
theorem exec_call (result : Except StdException Value) (handler : Handler) :
    (call result).exec handler = (result, handler) := by
  cases result with
  | ok value => rfl
  | error exception => rfl

@[simp]
theorem exec_callContext (operation : Context → Except StdException Unit × Context)
    (handler : Handler) :
    (callContext operation).exec handler =
      ((operation handler.context).1,
        { handler with context := (operation handler.context).2 }) := by
  rw [callContext, exec_bind, exec_get]
  dsimp only
  rw [exec_bind]
  exact exec_call _ _

variable {Json : Type} {handler : Handler}

/-- What comes of an exception. -/
theorem exec_catchOutOfRange_error {request : SBIRequest} {id : String} {code : Handling Unit}
    {exception : StdException} {after : Handler}
    (hcode : code.exec handler = (.error exception, after)) :
    (catchOutOfRange request id code).exec handler =
      if exception.isOutOfRange then
        (.ok (), { after with
          answers := after.answers ++ [.response (sessionNotFound request id)] })
      else (.error exception, after) := by
  rw [catchOutOfRange, exec_tryCatch, hcode]
  dsimp only
  split
  · rfl
  · rfl

theorem exec_catchOutOfRange_ok {request : SBIRequest} {id : String} {code : Handling Unit}
    {after : Handler} (hcode : code.exec handler = (.ok (), after)) :
    (catchOutOfRange request id code).exec handler = (.ok (), after) := by
  rw [catchOutOfRange, exec_tryCatch, hcode]

theorem exec_answerSession (env : ThrowingEnvironment Json) (handler : Handler)
    (request : SBIRequest) (id : String) :
    (answerSession env request id).exec handler =
      match (handler.context.find id).bind
          (sessionResponse env handler.context 200 request.uri) with
      | .ok response =>
          (.ok (), { handler with answers := handler.answers ++ [.response response] })
      | .error exception => (.error exception, handler) := by
  rw [answerSession, exec_bind, exec_get]
  dsimp only
  rw [exec_bind, exec_call]
  cases handler.context.find id with
  | error exception => rfl
  | ok session =>
      change (call (sessionResponse env handler.context 200 request.uri session) >>= _).exec
        handler = _
      rw [exec_bind, exec_call, Except.bind]
      cases sessionResponse env handler.context 200 request.uri session with
      | error exception => rfl
      | ok response => rfl

/-- The `try` block of a `DELETE`. -/
theorem exec_deleteSession (handler : Handler) (id : String) :
    (do
      callContext fun context => context.deleteDistributionSession id
      answer (.response (noContent none)) : Handling Unit).exec handler =
        match handler.context.deleteDistributionSession id with
        | (.ok _, after) => (.ok (), { handler with
            context := after, answers := handler.answers ++ [.response (noContent none)] })
        | (.error exception, after) => (.error exception, { handler with context := after }) := by
  rw [exec_bind, exec_callContext]
  cases handler.context.deleteDistributionSession id with
  | mk result after =>
      cases result with
      | ok value => rfl
      | error exception => rfl

end Handling

/-- What leaves the factory is a `std::runtime_error`. -/
theorem tryConstructors_error {constructors : List (Construct Controller)}
    {session after : DistSession} {exception : StdException}
    (hmade : tryConstructors constructors session = (.error exception, after)) :
    exception.isRuntimeError = true := by
  induction constructors generalizing session with
  | nil => cases hmade
  | cons constructor rest ih =>
      unfold tryConstructors at hmade
      split at hmade
      case h_1 => cases hmade
      case h_2 thrown middle _ =>
          split at hmade
          case isTrue hruntime =>
              obtain ⟨hsame, _⟩ := Prod.mk.inj hmade
              rw [← Except.error.inj hsame]
              exact hruntime
          case isFalse => exact ih hmade

/-! ## When making a text does not throw -/

/-- The environment in which JSON and texts can always be made of a session. -/
def Environment.throwing {Json : Type} (env : Environment Json) : ThrowingEnvironment Json where
  surroundings := env.surroundings
  parse := env.parse
  serialise _ json := .ok (env.serialise json)
  serialise_ne_empty := by
    intro _ json text htext
    rw [← Except.ok.inj htext]
    exact env.serialise_ne_empty json
  createReqData := env.createReqData
  toJSON session := .ok (env.toJSON session)
  calculateHash := env.calculateHash

/-- What an outcome leaves of the context and the stream. -/
def Outcome.leaves (outcome : Outcome) (handler : Handler) :
    Except StdException Bool × Handler :=
  (outcome.handled, { handler with
    context := outcome.context
    answers := handler.answers ++ (outcome.response.map Answer.response).toList })

namespace Handling

variable {Json : Type} (env : Environment Json) (handler : Handler)

theorem newDistributionSession_throwing (number : ℕ) (now : Objects.TimePoint) (json : Json) :
    newDistributionSession env.throwing number now json =
      Session.newDistributionSession env number now json := by
  have hdata : env.throwing.createReqData json = env.createReqData json := rfl
  rw [newDistributionSession, Session.newDistributionSession, hdata]
  cases env.createReqData json with
  | error exception => rfl
  | ok distSession => rfl

theorem sessionResponse_throwing (context : Context) (status : ℕ) (location : String)
    (session : DistributionSession) :
    sessionResponse env.throwing context status location session =
      Session.sessionResponse env context status location session := rfl

theorem exec_createSession_throwing (request : SBIRequest) (session : DistributionSession) :
    (createSession env.throwing request session).exec handler =
      (match handler.context.addDistributionSession session with
        | (.error exception, after) => (⟨.error exception, none, after⟩ : Outcome)
        | (.ok _, after) =>
            match Session.sessionResponse env after 201
                (request.uri ++ "/" ++ session.distributionSessionId) session with
            | .error exception => ⟨.error exception, none, after⟩
            | .ok response => Session.respond after response).leaves handler := by
  rw [createSession, exec_bind, exec_callContext]
  cases handler.context.addDistributionSession session with
  | mk result after =>
      cases result with
      | error exception => simp [Outcome.leaves]
      | ok value =>
          dsimp only
          rw [exec_bind, exec_get]
          dsimp only
          rw [exec_bind, exec_call]
          rw [sessionResponse_throwing]
          cases Session.sessionResponse env after 201
              (request.uri ++ "/" ++ session.distributionSessionId) session with
          | error exception => simp [Outcome.leaves]
          | ok response => rfl

/-- A `POST` for `dist-sessions` itself, as the other model has it. -/
theorem exec_postSession_throwing (number : ℕ) {request : SBIRequest}
    (hnone : request.resourceComponent 1 = none) :
    (postSession env.throwing number request).exec handler =
      (Session.processPost env number handler.context request).leaves handler := by
  unfold Session.processPost
  split
  case h_1 hsome _ => cases hnone.symm.trans hsome
  case h_2 hsome _ => cases hnone.symm.trans hsome
  case h_3 =>
      rw [postSession, postedSession]
      split
      case isTrue => rfl
      case isFalse =>
          have hparse : env.throwing.parse request.content = env.parse request.content := rfl
          rw [hparse]
          cases env.parse request.content with
          | error exception => rfl
          | ok json =>
              dsimp only
              change (postJson env.throwing number request json).exec handler = _
              have hsurroundings : env.throwing.surroundings = env.surroundings := rfl
              rw [postJson, newDistributionSession_throwing, hsurroundings]
              cases Session.newDistributionSession env number request.now json with
              | error exception => rfl
              | ok session =>
                  dsimp only
                  cases hmade : makeController env.surroundings session.distSession with
                  | mk result after =>
                      cases result with
                      | error exception =>
                          dsimp only
                          rw [if_pos (tryConstructors_error hmade)]
                          rfl
                      | ok made =>
                          cases made with
                          | none => rfl
                          | some controller =>
                              exact exec_createSession_throwing env handler request _

theorem exec_processGet_throwing (request : SBIRequest) :
    (processGet env.throwing request).exec handler =
      (Session.processGet env handler.context request).leaves handler := by
  rw [processGet, Session.processGet]
  cases request.resourceComponent 1 with
  | none => rfl
  | some id =>
      dsimp only
      have hexec := exec_answerSession env.throwing handler request id
      have hsame : sessionResponse env.throwing handler.context 200 request.uri =
          Session.sessionResponse env handler.context 200 request.uri := rfl
      rw [hsame] at hexec
      rw [exec_bind]
      cases hresponse : (handler.context.find id).bind
          (Session.sessionResponse env handler.context 200 request.uri) with
      | ok response =>
          rw [hresponse] at hexec
          rw [exec_catchOutOfRange_ok hexec]
          rfl
      | error exception =>
          rw [hresponse] at hexec
          rw [exec_catchOutOfRange_error hexec]
          dsimp only
          by_cases hrange : exception.isOutOfRange = true
          · rw [if_pos hrange, if_pos hrange]
            rfl
          · rw [if_neg hrange, if_neg hrange]
            simp [Outcome.leaves]

theorem exec_processDelete (request : SBIRequest) :
    (processDelete request).exec handler =
      (Session.processDelete handler.context request).leaves handler := by
  rw [processDelete, Session.processDelete]
  cases request.resourceComponent 1 with
  | none => rfl
  | some id =>
      cases request.resourceComponent 2 with
      | some subresource => rfl
      | none =>
          dsimp only
          have hexec := exec_deleteSession handler id
          rw [exec_bind]
          cases hdelete : handler.context.deleteDistributionSession id with
          | mk result after =>
              rw [hdelete] at hexec
              cases result with
              | ok value =>
                  rw [exec_catchOutOfRange_ok hexec]
                  rfl
              | error exception =>
                  rw [exec_catchOutOfRange_error hexec]
                  dsimp only
                  by_cases hrange : exception.isOutOfRange = true
                  · rw [if_pos hrange, if_pos hrange]
                    rfl
                  · rw [if_neg hrange, if_neg hrange]
                    simp [Outcome.leaves]

theorem exec_processPost_throwing (number : ℕ) (request : SBIRequest) :
    (processPost env.throwing number request).exec handler =
      (Session.processPost env number handler.context request).leaves handler := by
  cases href : request.resourceComponent 1 with
  | none =>
      rw [← exec_postSession_throwing env handler number href, processPost, href]
  | some ref =>
      rw [processPost, Session.processPost, href]
      cases request.resourceComponent 2 with
      | none => rfl
      | some subresource =>
          dsimp only
          split
          · rfl
          · rfl

theorem exec_processOptions (request : SBIRequest) :
    (processOptions request).exec handler =
      (Session.processOptions handler.context request).leaves handler := by
  rw [processOptions, Session.processOptions]
  cases request.resourceComponent 1 with
  | none => rfl
  | some id =>
      cases request.resourceComponent 2 with
      | none => rfl
      | some resource2 =>
          dsimp only
          split
          · rfl
          · rfl

theorem exec_processDistSessions_throwing (number : ℕ) (request : SBIRequest) :
    (processDistSessions env.throwing number request).exec handler =
      (Session.processDistSessions env number handler.context request).leaves handler := by
  unfold processDistSessions Session.processDistSessions
  split
  · exact exec_processPost_throwing env handler number request
  split
  · exact exec_processGet_throwing env handler request
  split
  · exact exec_processDelete handler request
  split
  · exact exec_processOptions handler request
  · rfl

/-- Where making a text does not throw, `processEvent` is that of the requests. -/
theorem exec_processEvent_throwing (number : ℕ) (event : Open5GSEvent) :
    (processEvent env.throwing number event).exec handler =
      (Session.processEvent env number handler.context event).leaves handler := by
  have hhandedOver : ((pure false : Handling Bool)).exec handler =
      (⟨.ok false, none, handler.context⟩ : Outcome).leaves handler := by
    simp [Outcome.leaves]
  cases event with
  | other => exact hhandedOver
  | sbiServer request =>
      cases request with
      | none => exact hhandedOver
      | some request =>
          rw [processEvent, Session.processEvent]
          split
          · exact hhandedOver
          split
          · rfl
          cases request.resourceComponent 0 with
          | none => rfl
          | some resource0 =>
              dsimp only
              split
              · exact exec_processDistSessions_throwing env handler number request
              · rfl

end Handling

end Mbstf.Session
