import Mbstf.Session.Context
import Mbstf.Session.Controllers

/-!
# Requests

`DistributionSession::processEvent` and all its answers.  The JSON classes and the
hash are not part of the repository; they are the functions of an `Environment`.
Left out of the answers are the `Server` header and the texts for the log.
-/

namespace Mbstf.Session

open Mbstf.Objects

/-- An `Open5GSSBIRequest` with the header that `parseHeader` found in it, and the
time at which it is handled. -/
structure SBIRequest where
  serviceName : String
  apiVersion : String
  resourceComponents : List String
  method : String
  uri : String
  headers : List (String × String)
  content : Option String
  now : TimePoint

/-- An `Open5GSEvent`: a server event with its request, when the header of that can
be parsed, or an event of another kind. -/
inductive Open5GSEvent where
  | sbiServer (request : Option SBIRequest)
  | other

/-- The details of a problem. -/
structure Problem where
  status : ℕ
  title : String
  detail : Option String
  instanceUri : String
  invalidParams : List (String × String)
  deriving DecidableEq

/-- An `Open5GSSBIResponse`.  The text of a problem is its JSON and is left as the
problem.  `about` is not in the source: it is the session the answer was made of. -/
structure SBIResponse where
  status : ℕ
  location : Option String
  contentType : Option String
  lastModified : Option TimePoint
  etag : Option String
  cacheControlMaxAge : ℤ
  allowMethods : Option String
  content : String
  problem : Option Problem
  about : Option DistributionSession

/-- What handling an event came to. -/
structure Outcome where
  handled : Except StdException Bool
  response : Option SBIResponse
  context : Context

/-- What `processEvent` uses from outside the repository.  A JSON text is not
empty. -/
structure Environment (Json : Type) where
  surroundings : Surroundings
  parse : Option String → Except StdException Json
  serialise : Json → String
  serialise_ne_empty : ∀ json, serialise json ≠ ""
  createReqData : Json → Except StdException DistSession
  toJSON : DistSession → Json
  calculateHash : String → String

namespace SBIRequest

variable (request : SBIRequest)

/-- `resourceComponent(idx)`. -/
def resourceComponent (idx : ℕ) : Option String := request.resourceComponents[idx]?

/-- Equality of header fields: `CaseInsensitiveTraits`. -/
def sameField (left right : String) : Bool :=
  left.toList.map Char.toLower = right.toList.map Char.toLower

/-- `headerValue(field, defval)`. -/
def headerValue (field defval : String) : String :=
  match request.headers.find? fun header => sameField field header.1 with
  | some header => header.2
  | none => defval

end SBIRequest

/-! ## Answers -/

/-- `NfServer::sendError`. -/
def sendError (status numberOfComponents : ℕ) (request : SBIRequest) (title : String)
    (detail : Option String) (invalidParams : List (String × String)) : SBIResponse where
  status := status
  location := none
  contentType := some "application/problem+json"
  lastModified := none
  etag := none
  cacheControlMaxAge := 0
  allowMethods := none
  content := ""
  problem := some {
    status := status
    title := title
    detail := detail
    instanceUri := (request.resourceComponents.take (numberOfComponents + 1)).foldl
      (fun path component => path ++ "/" ++ component)
      ("/" ++ request.serviceName ++ "/" ++ request.apiVersion)
    invalidParams := invalidParams }
  about := none

@[simp]
theorem sendError_status (status numberOfComponents : ℕ) (request : SBIRequest)
    (title : String) (detail : Option String) (invalidParams : List (String × String)) :
    (sendError status numberOfComponents request title detail invalidParams).status = status :=
  rfl

/-- The answer without a session: nothing, or the methods that are allowed. -/
def noContent (allowMethods : Option String) : SBIResponse where
  status := 204
  location := none
  contentType := none
  lastModified := none
  etag := none
  cacheControlMaxAge := 0
  allowMethods := allowMethods
  content := ""
  problem := none
  about := none

section

variable {Json : Type} (env : Environment Json)

/-- The answer made of a session.  The content type is made from a null pointer
when the body is empty. -/
def sessionResponse (context : Context) (status : ℕ) (location : String)
    (session : DistributionSession) : Except StdException SBIResponse :=
  let body := env.serialise (env.toJSON session.distSession)
  if body = "" then
    .error ⟨.logicError, "basic_string: construction from null is not valid"⟩
  else
    .ok {
      status := status
      location := some location
      contentType := some "application/json"
      lastModified := some session.generated
      etag := some session.hash
      cacheControlMaxAge := context.distMaxAge
      allowMethods := none
      content := body
      problem := none
      about := some session }

theorem sessionResponse_ok (context : Context) (status : ℕ) (location : String)
    (session : DistributionSession) :
    ∃ response, sessionResponse env context status location session = .ok response ∧
      response.status = status ∧ response.about = some session := by
  exact ⟨_, if_neg (env.serialise_ne_empty _), rfl, rfl⟩

/-- An answer was sent. -/
def respond (context : Context) (response : SBIResponse) : Outcome :=
  ⟨.ok true, some response, context⟩

/-- The answer for an id that no session has. -/
def sessionNotFound (request : SBIRequest) (id : String) : SBIResponse :=
  sendError 404 2 request "MBSTF Distribution Session not found"
    (some ("MBSTF Distribution Session [" ++ id ++ "] does not exist."))
    [("{sessionId}", "Invalid MBSTF Distribution Session identifier [" ++ id ++ "]")]

/-! ## The methods -/

/-- The constructor `DistributionSession(CJson&, bool)`. -/
def newDistributionSession (number : ℕ) (now : TimePoint) (json : Json) :
    Except StdException DistributionSession :=
  (env.createReqData json).map fun distSession => {
    createdBy := number
    distSession := distSession
    generated := now
    hash := env.calculateHash (env.serialise json)
    distributionSessionId := distSession.distSessionId }

/-- A `POST` of a session, up to the session with its controller or an answer. -/
def postedSession (number : ℕ) (request : SBIRequest) :
    Except SBIResponse DistributionSession :=
  if request.headerValue "Content-Type" "" ≠ "application/json" then
    .error (sendError 415 1 request "Unsupported Media Type"
      (some "Expected content type: application/json") [])
  else
    match env.parse request.content with
    | .error _ =>
        .error (sendError 400 1 request "Bad MBSTF Distribution Session"
          (some "Unable to parse MBSTF Distribution Session as JSON.") [])
    | .ok json =>
        match newDistributionSession env number request.now json with
        | .error exception =>
            .error (sendError 400 1 request "Bad Request"
              (some ("Bad request [" ++ exception.what ++ "]")) [])
        | .ok session =>
            match makeController env.surroundings session.distSession with
            | (.error exception, _) =>
                .error (sendError 400 1 request "Invalid ObjDistributionData parameters"
                  (some ("Invalid ObjDistributionData parameters [" ++ exception.what ++ "]")) [])
            | (.ok none, after) =>
                .error (sendError 501 1 request "Not Implemented"
                  (some ("No handler found for objDistributionOperatingMode [" ++
                    after.getObjectDistributionOperatingMode ++ "]")) [])
            | (.ok (some _), after) => .ok { session with distSession := after }

/-- `POST`. -/
def processPost (number : ℕ) (context : Context) (request : SBIRequest) : Outcome :=
  match request.resourceComponent 1, request.resourceComponent 2 with
  | some ref, some subresource =>
      if subresource = "subscriptions" then
        respond context (sendError 501 3 request "Not Implemented"
          (some "Subscriptions not implemented yet") [])
      else
        respond context (sendError 404 3 request "Not found"
          (some ("Distribution Session [" ++ ref ++ "] sub resource [" ++ subresource ++
            "] is not understood")) [])
  | some _, none =>
      respond context (sendError 405 2 request "Method not allowed"
        (some "Cannot POST to individual Distribution Sessions") [])
  | none, _ =>
      match postedSession env number request with
      | .error response => respond context response
      | .ok session =>
          match context.addDistributionSession session with
          | (.error exception, after) => ⟨.error exception, none, after⟩
          | (.ok _, after) =>
              match sessionResponse env after 201
                  (request.uri ++ "/" ++ session.distributionSessionId) session with
              | .error exception => ⟨.error exception, none, after⟩
              | .ok response => respond after response

/-- `GET`; the handler is around the lookup and the answer. -/
def processGet (context : Context) (request : SBIRequest) : Outcome :=
  match request.resourceComponent 1 with
  | none =>
      respond context (sendError 400 1 request "Bad Request"
        (some ("Invalid resource [" ++ request.uri ++ "]")) [])
  | some id =>
      match (context.find id).bind (sessionResponse env context 200 request.uri) with
      | .ok response => respond context response
      | .error exception =>
          if exception.isOutOfRange then respond context (sessionNotFound request id)
          else ⟨.error exception, none, context⟩

/-- `DELETE`. -/
def processDelete (context : Context) (request : SBIRequest) : Outcome :=
  match request.resourceComponent 1, request.resourceComponent 2 with
  | some id, none =>
      match context.deleteDistributionSession id with
      | (.ok _, after) => respond after (noContent none)
      | (.error exception, after) =>
          if exception.isOutOfRange then respond after (sessionNotFound request id)
          else ⟨.error exception, none, after⟩
  | _, _ =>
      respond context (sendError 404 2 request "Method not allowed"
        (some "The DELETE method is not allowed for this path") [])

/-- `OPTIONS`. -/
def processOptions (context : Context) (request : SBIRequest) : Outcome :=
  match request.resourceComponent 1, request.resourceComponent 2 with
  | some _, some resource2 =>
      if resource2 = "subscriptions" then respond context (noContent (some "OPTIONS"))
      else
        respond context (sendError 404 3 request "Not found" (some "Resource path not known") [])
  | some _, none => respond context (noContent (some "GET, DELETE, OPTIONS"))
  | none, _ => respond context (noContent (some "POST, OPTIONS"))

/-- A request for `dist-sessions`. -/
def processDistSessions (number : ℕ) (context : Context) (request : SBIRequest) : Outcome :=
  if request.method = "POST" then processPost env number context request
  else if request.method = "GET" then processGet env context request
  else if request.method = "DELETE" then processDelete context request
  else if request.method = "OPTIONS" then processOptions context request
  else
    respond context (sendError 400 1 request "Bad request"
      (some ("Invalid method [" ++ request.method ++ "] for " ++ request.serviceName ++ "/" ++
        request.apiVersion ++ "/" ++ (request.resourceComponent 0).getD "")) [])

/-- `DistributionSession::processEvent(Open5GSEvent&)`; `number` counts the events
before this one. -/
def processEvent (number : ℕ) (context : Context) (event : Open5GSEvent) : Outcome :=
  match event with
  | .other => ⟨.ok false, none, context⟩
  | .sbiServer none => ⟨.ok false, none, context⟩
  | .sbiServer (some request) =>
      if request.serviceName ≠ "nmbstf-distsession" then ⟨.ok false, none, context⟩
      else if request.apiVersion ≠ "v1" then
        respond context (sendError 400 0 request "Unsupported API version" none [])
      else
        match request.resourceComponent 0 with
        | none =>
            respond context (sendError 400 0 request "Missing resource name"
              (some "Missing resource name from URL path") [])
        | some resource0 =>
            if resource0 = "dist-sessions" then processDistSessions env number context request
            else
              respond context (sendError 400 1 request "Bad request"
                (some ("Unknown object type \"" ++ resource0 ++
                  "\" in MBSTF Distribution Session")) [])

/-! ## Posted sessions -/

variable {env}

theorem newDistributionSession_createdBy {number : ℕ} {now : TimePoint} {json : Json}
    {session : DistributionSession}
    (hnew : newDistributionSession env number now json = .ok session) :
    session.createdBy = number := by
  unfold newDistributionSession at hnew
  cases hdata : env.createReqData json with
  | error exception =>
      rw [hdata] at hnew
      cases hnew
  | ok distSession =>
      rw [hdata] at hnew
      obtain rfl := Except.ok.inj hnew
      rfl

theorem postedSession_ok {number : ℕ} {request : SBIRequest} {session : DistributionSession}
    (hposted : postedSession env number request = .ok session) :
    session.createdBy = number ∧ session.HasRate := by
  unfold postedSession at hposted
  split at hposted
  · cases hposted
  split at hposted
  · cases hposted
  split at hposted
  · cases hposted
  case h_2 made hnew =>
      split at hposted
      · cases hposted
      · cases hposted
      case h_3 controller after hmade =>
          obtain rfl := Except.ok.inj hposted
          have hcreated : made.createdBy = number := newDistributionSession_createdBy hnew
          exact ⟨hcreated, makeController_hasRate hmade⟩

/-- What turns a posted session down is an error. -/
theorem postedSession_error {number : ℕ} {request : SBIRequest} {response : SBIResponse}
    (hposted : postedSession env number request = .error response) : 400 ≤ response.status := by
  unfold postedSession at hposted
  repeat' split at hposted
  all_goals cases hposted
  all_goals norm_num

end

end Mbstf.Session
