import Mbstf.Core.Runs
import Mbstf.Session.Requests

/-!
# The session map behind the requests

A client sees a map from ids to sessions: what the last accepted `POST` for an id
created, until a `DELETE` of the id.  The server keeps a map of its own, and the two
agree as long as no accepted `POST` uses an id that is taken.
-/

namespace Mbstf.Session

open Std Mbstf.Runs

/-! ## What a client sees -/

/-- The request of a server event. -/
def Open5GSEvent.request : Open5GSEvent → Option SBIRequest
  | .sbiServer request => request
  | .other => none

namespace SBIRequest

variable (request : SBIRequest)

/-- A request for `dist-sessions` or below. -/
def IsDistSessions : Prop :=
  request.serviceName = "nmbstf-distsession" ∧ request.apiVersion = "v1" ∧
    request.resourceComponent 0 = some "dist-sessions"

/-- `POST .../dist-sessions`. -/
def IsPost : Prop :=
  request.IsDistSessions ∧ request.method = "POST" ∧ request.resourceComponent 1 = none

/-- `GET .../dist-sessions/{id}`. -/
def IsGet (id : String) : Prop :=
  request.IsDistSessions ∧ request.method = "GET" ∧ request.resourceComponent 1 = some id

/-- `DELETE .../dist-sessions/{id}`. -/
def IsDelete (id : String) : Prop :=
  request.IsDistSessions ∧ request.method = "DELETE" ∧
    request.resourceComponent 1 = some id ∧ request.resourceComponent 2 = none

instance : Decidable request.IsDistSessions := by unfold IsDistSessions; infer_instance

instance : Decidable request.IsPost := by unfold IsPost; infer_instance

instance (id : String) : Decidable (request.IsDelete id) := by unfold IsDelete; infer_instance

end SBIRequest

/-- An event with the answer to it. -/
structure Exchange where
  event : Open5GSEvent
  response : Option SBIResponse

/-- The session of a `POST` that was answered with 201. -/
def Exchange.created (exchange : Exchange) : Option DistributionSession :=
  match exchange.event.request, exchange.response with
  | some request, some response =>
      if request.IsPost ∧ response.status = 201 then response.about else none
  | _, _ => none

/-- A `DELETE` of the id that was answered with 204. -/
def Exchange.deletes (exchange : Exchange) (id : String) : Bool :=
  match exchange.event.request, exchange.response with
  | some request, some response => request.IsDelete id ∧ response.status = 204
  | _, _ => false

/-- The session of the last `POST` for an id that was answered with 201 and was not
followed by a `DELETE` of the id answered with 204; the exchanges come newest
first. -/
def lastPost : List Exchange → String → Option DistributionSession
  | [], _ => none
  | exchange :: earlier, id =>
      if exchange.deletes id then none
      else
        match exchange.created with
        | some session =>
            if session.distributionSessionId = id then some session else lastPost earlier id
        | none => lastPost earlier id

/-- The server, with the exchanges there have been. -/
structure Server where
  context : Context
  past : List Exchange

section

variable {Json : Type} (env : Environment Json)

namespace Server

/-- What the server makes of an event. -/
def outcome (server : Server) (event : Open5GSEvent) : Outcome :=
  processEvent env server.past.length server.context event

/-- The server after an event. -/
def next (server : Server) (event : Open5GSEvent) : Server :=
  ⟨(server.outcome env event).context,
    ⟨event, (server.outcome env event).response⟩ :: server.past⟩

/-- One event. -/
def serve (server : Server) (event : Open5GSEvent) : Option Server :=
  some (server.next env event)

/-- A server without sessions. -/
def start (distMaxAge : ℤ) (nfInstance : NfInstance) : Server :=
  ⟨⟨∅, distMaxAge, nfInstance⟩, []⟩

/-- The answers to all requests there could be are those of a map from ids to
sessions. -/
structure BehavesAsMap (server : Server) : Prop where
  get_found : ∀ request id, request.IsGet id → ∀ session,
    (∃ response, (server.outcome env (.sbiServer (some request))).response = some response ∧
      response.status = 200 ∧ response.about = some session) ↔
      lastPost server.past id = some session
  get_absent : ∀ request id, request.IsGet id → lastPost server.past id = none →
    ∃ response, (server.outcome env (.sbiServer (some request))).response = some response ∧
      response.status = 404
  delete : ∀ request id, request.IsDelete id →
    ((∃ response, (server.outcome env (.sbiServer (some request))).response = some response ∧
      response.status = 204) ↔ ∃ session, lastPost server.past id = some session)
  error : ∀ event response, (server.outcome env event).response = some response →
    400 ≤ response.status →
      (server.outcome env event).context.distributionSessions =
        server.context.distributionSessions

/-- A `POST` with a session that a controller takes does not use the id of a session
there is. -/
def IdsFree (server : Server) (event : Open5GSEvent) : Prop :=
  ∀ request session, event = .sbiServer (some request) → request.IsPost →
    postedSession env server.past.length request = .ok session →
      session.distributionSessionId ∉ server.context.distributionSessions

/-- The two maps agree. -/
def Agrees (server : Server) : Prop :=
  ∀ id : String, server.context.distributionSessions[id]? = lastPost server.past id

/-- What every event keeps: bit rates can be read, and no stored session is the one
of an event to come. -/
structure Sound (server : Server) : Prop where
  haveRates : HaveRates server.context.distributionSessions
  createdBy_lt : ∀ (id : String) (session : DistributionSession),
    server.context.distributionSessions[id]? = some session →
      session.createdBy < server.past.length

end Server

/-! ## One request -/

theorem processEvent_of_isDistSessions {request : SBIRequest} (hrequest : request.IsDistSessions)
    (number : ℕ) (context : Context) :
    processEvent env number context (.sbiServer (some request)) =
      processDistSessions env number context request := by
  obtain ⟨hservice, hversion, hresource⟩ := hrequest
  unfold processEvent
  simp [hservice, hversion, hresource]

/-- Elsewhere nothing happens to the context. -/
theorem processEvent_context_of_not_isDistSessions {event : Open5GSEvent}
    (hevent : ∀ request, event = .sbiServer (some request) → ¬ request.IsDistSessions)
    (number : ℕ) (context : Context) :
    (processEvent env number context event).context = context := by
  unfold processEvent
  split
  · rfl
  · rfl
  case h_3 request =>
      have hrequest := hevent request rfl
      split
      · rfl
      split
      · rfl
      split
      · rfl
      case h_2 hservice hversion _ resource0 hresource =>
          split
          case isTrue hdist =>
              subst hdist
              exact absurd ⟨not_not.mp hservice, not_not.mp hversion, hresource⟩ hrequest
          case isFalse => rfl

theorem processPost_of_isPost {request : SBIRequest} (hpost : request.IsPost) (number : ℕ)
    (context : Context) :
    processEvent env number context (.sbiServer (some request)) =
      processPost env number context request := by
  rw [processEvent_of_isDistSessions env hpost.1, processDistSessions, if_pos hpost.2.1]

theorem processGet_of_isGet {request : SBIRequest} {id : String} (hget : request.IsGet id)
    (number : ℕ) (context : Context) :
    processEvent env number context (.sbiServer (some request)) =
      processGet env context request := by
  rw [processEvent_of_isDistSessions env hget.1]
  simp [processDistSessions, hget.2.1]

theorem processDelete_of_isDelete {request : SBIRequest} {id : String}
    (hdelete : request.IsDelete id) (number : ℕ) (context : Context) :
    processEvent env number context (.sbiServer (some request)) =
      processDelete context request := by
  rw [processEvent_of_isDistSessions env hdelete.1]
  simp [processDistSessions, hdelete.2.1]

/-- A `GET` of an id. -/
theorem processEvent_get {request : SBIRequest} {id : String} (hget : request.IsGet id)
    (number : ℕ) (context : Context) :
    ∃ response, processEvent env number context (.sbiServer (some request)) =
        respond context response ∧
      ((∃ session, context.distributionSessions[id]? = some session ∧
          response.status = 200 ∧ response.about = some session) ∨
        (context.distributionSessions[id]? = none ∧ response.status = 404)) := by
  rw [processGet_of_isGet env hget]
  unfold processGet
  rw [hget.2.2]
  dsimp only
  cases hfound : context.distributionSessions[id]? with
  | some session =>
      obtain ⟨response, hresponse, hstatus, habout⟩ :=
        sessionResponse_ok env context 200 request.uri session
      have hfind : context.find id = .ok session := by rw [Context.find, hfound]
      rw [hfind, Except.bind, hresponse]
      exact ⟨response, rfl, .inl ⟨session, rfl, hstatus, habout⟩⟩
  | none =>
      have hfind : context.find id =
          .error ⟨.outOfRange, "MBST Distribution session not found"⟩ := by
        rw [Context.find, hfound]
      rw [hfind, Except.bind]
      exact ⟨sessionNotFound request id, rfl, .inr ⟨rfl, rfl⟩⟩

/-- A `DELETE` of an id. -/
theorem processEvent_delete {request : SBIRequest} {id : String} (hdelete : request.IsDelete id)
    (number : ℕ) {context : Context} (hrates : HaveRates context.distributionSessions) :
    ∃ after response, processEvent env number context (.sbiServer (some request)) =
        respond after response ∧
      ((id ∈ context.distributionSessions ∧ response.status = 204 ∧
          after.distributionSessions = context.distributionSessions.erase id) ∨
        (id ∉ context.distributionSessions ∧ response.status = 404 ∧ after = context)) := by
  rw [processDelete_of_isDelete env hdelete]
  unfold processDelete
  rw [hdelete.2.2.1, hdelete.2.2.2]
  dsimp only
  by_cases hmem : id ∈ context.distributionSessions
  · obtain ⟨after, herase, hafter⟩ := Context.deleteDistributionSession_ok hrates hmem
    rw [herase]
    exact ⟨after, noContent none, rfl, .inl ⟨hmem, rfl, hafter⟩⟩
  · rw [Context.deleteDistributionSession, if_neg hmem]
    exact ⟨context, sessionNotFound request id, rfl, .inr ⟨hmem, rfl, rfl⟩⟩

/-- A `POST` of a session. -/
theorem processEvent_post {request : SBIRequest} (hpost : request.IsPost) (number : ℕ)
    {context : Context} (hrates : HaveRates context.distributionSessions) :
    ∃ after response, processEvent env number context (.sbiServer (some request)) =
        respond after response ∧
      ((∃ session, postedSession env number request = .ok session ∧ response.status = 201 ∧
          response.about = some session ∧
          after.distributionSessions = context.distributionSessions.insertIfNew
            session.distributionSessionId session) ∨
        ((∃ error, postedSession env number request = .error error) ∧
          400 ≤ response.status ∧ after = context)) := by
  rw [processPost_of_isPost env hpost]
  unfold processPost
  rw [hpost.2.2]
  dsimp only
  cases hposted : postedSession env number request with
  | error response =>
      exact ⟨context, response, rfl, .inr ⟨⟨response, rfl⟩, postedSession_error hposted, rfl⟩⟩
  | ok session =>
      have hsession : session.HasRate := (postedSession_ok hposted).2
      obtain ⟨after, hadd, hafter⟩ := Context.addDistributionSession_ok hrates hsession
      obtain ⟨response, hresponse, hstatus, habout⟩ := sessionResponse_ok env
        after 201 (request.uri ++ "/" ++ session.distributionSessionId) session
      dsimp only
      rw [hadd]
      dsimp only
      rw [hresponse]
      exact ⟨after, response, rfl, .inl ⟨session, rfl, hstatus, habout, hafter⟩⟩

/-- Other requests leave the context alone. -/
theorem processEvent_context_of_other {event : Open5GSEvent}
    (hpost : ∀ request, event = .sbiServer (some request) → ¬ request.IsPost)
    (hdelete : ∀ request id, event = .sbiServer (some request) → ¬ request.IsDelete id)
    (number : ℕ) (context : Context) :
    (processEvent env number context event).context = context := by
  by_cases hevent : ∀ request, event = .sbiServer (some request) → ¬ request.IsDistSessions
  · exact processEvent_context_of_not_isDistSessions env hevent number context
  push Not at hevent
  obtain ⟨request, rfl, hrequest⟩ := hevent
  rw [processEvent_of_isDistSessions env hrequest]
  unfold processDistSessions
  split
  case isTrue hmethod =>
      have hcomponent : request.resourceComponent 1 ≠ none := fun hnone =>
        hpost request rfl ⟨hrequest, hmethod, hnone⟩
      unfold processPost
      split
      · split <;> rfl
      · rfl
      case h_3 hnone => exact absurd hnone hcomponent
  split
  · unfold processGet
    split
    · rfl
    split
    · rfl
    · split <;> rfl
  split
  case isTrue hmethod =>
      unfold processDelete
      split
      case h_1 id hfirst hsecond =>
          exact absurd ⟨hrequest, hmethod, hfirst, hsecond⟩ (hdelete request id rfl)
      · rfl
  split
  · unfold processOptions
    split
    · split <;> rfl
    · rfl
    · rfl
  · rfl

/-! ## One exchange -/

theorem SBIRequest.IsPost.not_isDelete {request : SBIRequest} (hpost : request.IsPost)
    (id : String) : ¬ request.IsDelete id := by
  intro hdelete
  have hmethod : "POST" = "DELETE" := hpost.2.1.symm.trans hdelete.2.1
  exact absurd hmethod (by decide)

theorem SBIRequest.IsDelete.eq {request : SBIRequest} {id other : String}
    (hdelete : request.IsDelete id) (hother : request.IsDelete other) : other = id :=
  Option.some.inj (hother.2.2.1.symm.trans hdelete.2.2.1)

theorem Exchange.created_eq_none {event : Open5GSEvent} {response : Option SBIResponse}
    (hpost : ∀ request, event = .sbiServer (some request) → request.IsPost →
      ∀ answer, response = some answer → answer.status ≠ 201) :
    Exchange.created ⟨event, response⟩ = none := by
  unfold created
  split
  case h_1 request answer hrequest hanswer =>
      apply if_neg
      rintro ⟨hisPost, hstatus⟩
      cases event with
      | sbiServer found =>
          obtain rfl : found = some request := hrequest
          exact hpost request rfl hisPost answer hanswer hstatus
      | other => cases hrequest
  case h_2 => rfl

theorem Exchange.deletes_eq_false {event : Open5GSEvent} {response : Option SBIResponse}
    {id : String}
    (hdelete : ∀ request, event = .sbiServer (some request) → request.IsDelete id →
      ∀ answer, response = some answer → answer.status ≠ 204) :
    Exchange.deletes ⟨event, response⟩ id = false := by
  unfold deletes
  split
  case h_1 request answer hrequest hanswer =>
      apply decide_eq_false
      rintro ⟨hisDelete, hstatus⟩
      cases event with
      | sbiServer found =>
          obtain rfl : found = some request := hrequest
          exact hdelete request rfl hisDelete answer hanswer hstatus
      | other => cases hrequest
  case h_2 => rfl

theorem lastPost_cons_of_kept {exchange : Exchange} {past : List Exchange}
    (hcreated : exchange.created = none) (hdeletes : ∀ id, exchange.deletes id = false) :
    lastPost (exchange :: past) = lastPost past := by
  funext id
  rw [lastPost, hdeletes, hcreated]
  rfl

namespace Server

/-- Neither map changed. -/
structure Kept (before after : Server) : Prop where
  sessions : after.context.distributionSessions = before.context.distributionSessions
  client : lastPost after.past = lastPost before.past

/-- A session was posted. -/
structure Created (before after : Server) (session : DistributionSession) : Prop where
  sessions : after.context.distributionSessions =
    before.context.distributionSessions.insertIfNew session.distributionSessionId session
  client : ∀ id, lastPost after.past id =
    if id = session.distributionSessionId then some session else lastPost before.past id

/-- A session was deleted. -/
structure Deleted (before after : Server) (id : String) : Prop where
  sessions : after.context.distributionSessions = before.context.distributionSessions.erase id
  client : ∀ other, lastPost after.past other =
    if other = id then none else lastPost before.past other

variable {server : Server}

theorem next_post (hsound : server.Sound) {request : SBIRequest} (hpost : request.IsPost) :
    (∃ session, postedSession env server.past.length request = .ok session ∧
        Created server (server.next env (.sbiServer (some request))) session) ∨
      ((∃ error, postedSession env server.past.length request = .error error) ∧
        Kept server (server.next env (.sbiServer (some request)))) := by
  obtain ⟨after, response, houtcome, hresult⟩ :=
    processEvent_post env hpost server.past.length hsound.haveRates
  have hnext : server.next env (.sbiServer (some request)) =
      ⟨after, ⟨.sbiServer (some request), some response⟩ :: server.past⟩ := by
    rw [next, outcome, houtcome]
    rfl
  have hdeletes : ∀ id,
      Exchange.deletes ⟨.sbiServer (some request), some response⟩ id = false := by
    intro id
    apply Exchange.deletes_eq_false
    intro other hother hdelete
    obtain rfl : request = other := by simpa using hother
    exact absurd hdelete (hpost.not_isDelete id)
  rw [hnext]
  cases hresult with
  | inl haccepted =>
      obtain ⟨session, hposted, hstatus, habout, hsessions⟩ := haccepted
      have hcreated :
          Exchange.created ⟨.sbiServer (some request), some response⟩ = some session := by
        rw [← habout]
        exact if_pos ⟨hpost, hstatus⟩
      refine .inl ⟨session, hposted, hsessions, ?_⟩
      intro id
      rw [lastPost, hdeletes, hcreated]
      simp [eq_comm]
  | inr hrefused =>
      obtain ⟨herror, hstatus, rfl⟩ := hrefused
      have hcreated :
          Exchange.created ⟨.sbiServer (some request), some response⟩ = none := by
        apply Exchange.created_eq_none
        intro other _ _ answer hanswer
        obtain rfl : response = answer := Option.some.inj hanswer
        omega
      exact .inr ⟨herror, rfl, lastPost_cons_of_kept hcreated hdeletes⟩

theorem next_delete (hsound : server.Sound) {request : SBIRequest} {id : String}
    (hdelete : request.IsDelete id) :
    Deleted server (server.next env (.sbiServer (some request))) id ∨
      Kept server (server.next env (.sbiServer (some request))) := by
  obtain ⟨after, response, houtcome, hresult⟩ :=
    processEvent_delete env hdelete server.past.length hsound.haveRates
  have hnext : server.next env (.sbiServer (some request)) =
      ⟨after, ⟨.sbiServer (some request), some response⟩ :: server.past⟩ := by
    rw [next, outcome, houtcome]
    rfl
  have hcreated : Exchange.created ⟨.sbiServer (some request), some response⟩ = none := by
    apply Exchange.created_eq_none
    intro other hother hpost
    obtain rfl : request = other := by simpa using hother
    exact absurd hdelete (hpost.not_isDelete id)
  rw [hnext]
  cases hresult with
  | inl hfound =>
      obtain ⟨hmem, hstatus, hsessions⟩ := hfound
      refine .inl ⟨hsessions, ?_⟩
      intro other
      rw [lastPost, hcreated]
      by_cases hother : other = id
      · subst hother
        have hdeletes : Exchange.deletes ⟨.sbiServer (some request), some response⟩ other =
            true := decide_eq_true ⟨hdelete, hstatus⟩
        rw [hdeletes]
        simp
      · have hdeletes : Exchange.deletes ⟨.sbiServer (some request), some response⟩ other =
            false := decide_eq_false fun hboth => hother (hdelete.eq hboth.1)
        rw [hdeletes, if_neg hother]
        rfl
  | inr habsent =>
      obtain ⟨hmem, hstatus, rfl⟩ := habsent
      have hdeletes : ∀ other,
          Exchange.deletes ⟨.sbiServer (some request), some response⟩ other = false := by
        intro other
        apply Exchange.deletes_eq_false
        intro _ _ _ answer hanswer
        obtain rfl : response = answer := Option.some.inj hanswer
        omega
      exact .inr ⟨rfl, lastPost_cons_of_kept hcreated hdeletes⟩

theorem next_other {event : Open5GSEvent}
    (hpost : ∀ request, event = .sbiServer (some request) → ¬ request.IsPost)
    (hdelete : ∀ request id, event = .sbiServer (some request) → ¬ request.IsDelete id) :
    Kept server (server.next env event) where
  sessions := by
    rw [next, outcome, processEvent_context_of_other env hpost hdelete]
  client := by
    apply lastPost_cons_of_kept
    · apply Exchange.created_eq_none
      intro request hrequest hisPost
      exact absurd hisPost (hpost request hrequest)
    · intro id
      apply Exchange.deletes_eq_false
      intro request hrequest hisDelete
      exact absurd hisDelete (hdelete request id hrequest)

/-- What an event does to both maps. -/
theorem next_cases (hsound : server.Sound) (event : Open5GSEvent) :
    (Kept server (server.next env event) ∧
      ∀ request session, event = .sbiServer (some request) → request.IsPost →
        postedSession env server.past.length request ≠ .ok session) ∨
    (∃ request session, event = .sbiServer (some request) ∧ request.IsPost ∧
      postedSession env server.past.length request = .ok session ∧
      Created server (server.next env event) session) ∨
    (∃ request id, event = .sbiServer (some request) ∧ request.IsDelete id ∧
      Deleted server (server.next env event) id) := by
  by_cases hpost : ∃ request, event = .sbiServer (some request) ∧ request.IsPost
  · obtain ⟨request, rfl, hisPost⟩ := hpost
    cases next_post env hsound hisPost with
    | inl hcreated =>
        obtain ⟨session, hposted, hmaps⟩ := hcreated
        exact .inr (.inl ⟨request, session, rfl, hisPost, hposted, hmaps⟩)
    | inr hrefused =>
        obtain ⟨⟨error, herror⟩, hkept⟩ := hrefused
        refine .inl ⟨hkept, ?_⟩
        intro other session hother _ hposted
        obtain rfl : request = other := by simpa using hother
        rw [herror] at hposted
        cases hposted
  have hnoPost : ∀ request, event = .sbiServer (some request) → ¬ request.IsPost :=
    fun request hrequest hisPost => hpost ⟨request, hrequest, hisPost⟩
  by_cases hdelete : ∃ request id, event = .sbiServer (some request) ∧ request.IsDelete id
  · obtain ⟨request, id, rfl, hisDelete⟩ := hdelete
    cases next_delete env hsound hisDelete with
    | inl hdeleted => exact .inr (.inr ⟨request, id, rfl, hisDelete, hdeleted⟩)
    | inr hkept =>
        exact .inl ⟨hkept, fun other _ hother hisPost => absurd hisPost (hnoPost other hother)⟩
  · have hnoDelete : ∀ request id, event = .sbiServer (some request) → ¬ request.IsDelete id :=
      fun request id hrequest hisDelete => hdelete ⟨request, id, hrequest, hisDelete⟩
    exact .inl ⟨next_other env hnoPost hnoDelete,
      fun other _ hother hisPost => absurd hisPost (hnoPost other hother)⟩

/-! ## The answers are those of a map when the maps agree -/

/-- A `GET` shows the session that the server has. -/
theorem get_found_iff {request : SBIRequest} {id : String} (hget : request.IsGet id)
    (session : DistributionSession) :
    (∃ response, (server.outcome env (.sbiServer (some request))).response = some response ∧
      response.status = 200 ∧ response.about = some session) ↔
      server.context.distributionSessions[id]? = some session := by
  obtain ⟨response, houtcome, hresult⟩ :=
    processEvent_get env hget server.past.length server.context
  have hresponse : (server.outcome env (.sbiServer (some request))).response =
      some response := by rw [outcome, houtcome]; rfl
  constructor
  · rintro ⟨answer, hanswer, hstatus, habout⟩
    obtain rfl : response = answer := Option.some.inj (hresponse.symm.trans hanswer)
    cases hresult with
    | inl hfound =>
        obtain ⟨found, hsession, _, hshown⟩ := hfound
        rw [hsession, ← hshown, habout]
    | inr habsent => omega
  · intro hsession
    cases hresult with
    | inl hfound =>
        obtain ⟨found, hother, hstatus, hshown⟩ := hfound
        refine ⟨response, hresponse, hstatus, ?_⟩
        rw [hshown, ← hother, hsession]
    | inr habsent =>
        rw [habsent.1] at hsession
        cases hsession

theorem get_absent {request : SBIRequest} {id : String} (hget : request.IsGet id)
    (habsent : server.context.distributionSessions[id]? = none) :
    ∃ response, (server.outcome env (.sbiServer (some request))).response = some response ∧
      response.status = 404 := by
  obtain ⟨response, houtcome, hresult⟩ :=
    processEvent_get env hget server.past.length server.context
  refine ⟨response, by rw [outcome, houtcome]; rfl, ?_⟩
  cases hresult with
  | inl hfound =>
      obtain ⟨session, hsession, _⟩ := hfound
      rw [habsent] at hsession
      cases hsession
  | inr hnone => exact hnone.2

theorem delete_iff (hsound : server.Sound) {request : SBIRequest} {id : String}
    (hdelete : request.IsDelete id) :
    (∃ response, (server.outcome env (.sbiServer (some request))).response = some response ∧
      response.status = 204) ↔
      ∃ session, server.context.distributionSessions[id]? = some session := by
  obtain ⟨after, response, houtcome, hresult⟩ :=
    processEvent_delete env hdelete server.past.length hsound.haveRates
  have hresponse : (server.outcome env (.sbiServer (some request))).response =
      some response := by rw [outcome, houtcome]; rfl
  have hmem : (∃ session, server.context.distributionSessions[id]? = some session) ↔
      id ∈ server.context.distributionSessions := by
    rw [← Option.isSome_iff_exists, ExtTreeMap.mem_iff_isSome_getElem?]
  rw [hmem]
  constructor
  · rintro ⟨answer, hanswer, hstatus⟩
    obtain rfl : response = answer := Option.some.inj (hresponse.symm.trans hanswer)
    cases hresult with
    | inl hfound => exact hfound.1
    | inr habsent => omega
  · intro hid
    cases hresult with
    | inl hfound => exact ⟨response, hresponse, hfound.2.1⟩
    | inr habsent => exact absurd hid habsent.1

/-- An error leaves the sessions as they were. -/
theorem error_keeps (hsound : server.Sound) {event : Open5GSEvent} {response : SBIResponse}
    (hresponse : (server.outcome env event).response = some response)
    (herror : 400 ≤ response.status) :
    (server.outcome env event).context.distributionSessions =
      server.context.distributionSessions := by
  by_cases hpost : ∃ request, event = .sbiServer (some request) ∧ request.IsPost
  · obtain ⟨request, rfl, hisPost⟩ := hpost
    obtain ⟨after, answer, houtcome, hresult⟩ :=
      processEvent_post env hisPost server.past.length hsound.haveRates
    rw [outcome, houtcome] at hresponse ⊢
    obtain rfl : answer = response := Option.some.inj hresponse
    cases hresult with
    | inl haccepted =>
        obtain ⟨session, _, hstatus, _⟩ := haccepted
        omega
    | inr hrefused => exact congrArg Context.distributionSessions hrefused.2.2
  by_cases hdelete : ∃ request id, event = .sbiServer (some request) ∧ request.IsDelete id
  · obtain ⟨request, id, rfl, hisDelete⟩ := hdelete
    obtain ⟨after, answer, houtcome, hresult⟩ :=
      processEvent_delete env hisDelete server.past.length hsound.haveRates
    rw [outcome, houtcome] at hresponse ⊢
    obtain rfl : answer = response := Option.some.inj hresponse
    cases hresult with
    | inl hfound =>
        obtain ⟨_, hstatus, _⟩ := hfound
        omega
    | inr habsent => exact congrArg Context.distributionSessions habsent.2.2
  · rw [outcome, processEvent_context_of_other env
      (fun request hrequest hisPost => hpost ⟨request, hrequest, hisPost⟩)
      (fun request id hrequest hisDelete => hdelete ⟨request, id, hrequest, hisDelete⟩)]

/-- A `GET` for an id. -/
def getRequest (id : String) : SBIRequest where
  serviceName := "nmbstf-distsession"
  apiVersion := "v1"
  resourceComponents := ["dist-sessions", id]
  method := "GET"
  uri := "/nmbstf-distsession/v1/dist-sessions/" ++ id
  headers := []
  content := none
  now := 0

theorem isGet_getRequest (id : String) : (getRequest id).IsGet id :=
  ⟨⟨rfl, rfl, rfl⟩, rfl, rfl⟩

/-- The answers tell whether the maps agree. -/
theorem behavesAsMap_iff (hsound : server.Sound) :
    server.BehavesAsMap env ↔ server.Agrees := by
  constructor
  · intro hbehaves id
    apply Option.ext
    intro session
    have hget := hbehaves.get_found (getRequest id) id (isGet_getRequest id) session
    rw [get_found_iff env (isGet_getRequest id)] at hget
    exact hget
  · intro hagrees
    refine ⟨?_, ?_, ?_, ?_⟩
    · intro request id hget session
      rw [get_found_iff env hget, hagrees id]
    · intro request id hget habsent
      rw [← hagrees id] at habsent
      exact get_absent env hget habsent
    · intro request id hdelete
      rw [delete_iff env hsound hdelete, hagrees id]
    · intro event response hresponse herror
      exact error_keeps env hsound hresponse herror

/-! ## Runs -/

theorem Sound.next (hsound : server.Sound) (event : Open5GSEvent) :
    (server.next env event).Sound := by
  have hlength : (server.next env event).past.length = server.past.length + 1 := rfl
  obtain ⟨hkept, _⟩ | ⟨request, posted, _, _, hposted, hcreated⟩ | ⟨request, erased, _, _,
    hdeleted⟩ := next_cases env hsound event
  · constructor
    · rw [hkept.sessions]
      exact hsound.haveRates
    · intro id session hsession
      rw [hkept.sessions] at hsession
      have hlt := hsound.createdBy_lt id session hsession
      omega
  · obtain ⟨hnumber, hrate⟩ := postedSession_ok hposted
    constructor
    · rw [hcreated.sessions]
      exact hsound.haveRates.insertIfNew hrate
    · intro id session hsession
      rw [hcreated.sessions, getElem?_insertIfNew_id] at hsession
      split at hsession
      · obtain rfl : posted = session := Option.some.inj hsession
        omega
      · have hlt := hsound.createdBy_lt id session hsession
        omega
  · constructor
    · rw [hdeleted.sessions]
      exact hsound.haveRates.erase erased
    · intro id session hsession
      rw [hdeleted.sessions, getElem?_erase_id] at hsession
      split at hsession
      · contradiction
      · have hlt := hsound.createdBy_lt id session hsession
        omega

/-- After a `POST` the maps agree if and only if the id was free: the server keeps
the session it has, which is an earlier one. -/
theorem Created.agrees_iff {after : Server} {session : DistributionSession}
    (hcreated : Created server after session) (hsound : server.Sound) (hagrees : server.Agrees)
    (hnumber : session.createdBy = server.past.length) :
    after.Agrees ↔
      session.distributionSessionId ∉ server.context.distributionSessions := by
  constructor
  · intro hafter hmem
    have hid := hafter session.distributionSessionId
    rw [hcreated.sessions, hcreated.client, getElem?_insertIfNew_id, if_pos rfl, if_neg] at hid
    · have hlt := hsound.createdBy_lt _ session hid
      omega
    · exact fun hboth => hboth.2 hmem
  · intro hfresh id
    rw [hcreated.sessions, hcreated.client, getElem?_insertIfNew_id]
    by_cases hid : id = session.distributionSessionId
    · subst hid
      rw [if_pos ⟨rfl, hfresh⟩, if_pos rfl]
    · rw [if_neg (fun hboth => hid hboth.1), if_neg hid, hagrees id]

theorem Agrees.next_iff (hagrees : server.Agrees) (hsound : server.Sound)
    (event : Open5GSEvent) :
    (server.next env event).Agrees ↔ server.IdsFree env event := by
  obtain ⟨hkept, hnone⟩ | ⟨request, posted, rfl, hpost, hposted, hcreated⟩ | ⟨request, erased,
    rfl, hdelete, hdeleted⟩ := next_cases env hsound event
  · constructor
    · intro _ request session hevent hpost hposted
      exact absurd hposted (hnone request session hevent hpost)
    · intro _ id
      rw [hkept.sessions, hkept.client]
      exact hagrees id
  · rw [hcreated.agrees_iff hsound hagrees (postedSession_ok hposted).1]
    constructor
    · intro hfree other session hother _ hsession
      obtain rfl : request = other := by simpa using hother
      obtain rfl : posted = session := Except.ok.inj (hposted.symm.trans hsession)
      exact hfree
    · intro hfree
      exact hfree request posted rfl hpost hposted
  · constructor
    · intro _ other session hother hpost
      obtain rfl : request = other := by simpa using hother
      exact absurd hdelete (hpost.not_isDelete erased)
    · intro _ id
      rw [hdeleted.sessions, hdeleted.client, getElem?_erase_id, hagrees id]

theorem sound_start (distMaxAge : ℤ) (nfInstance : NfInstance) :
    (start distMaxAge nfInstance).Sound where
  haveRates := by intro id session hsession; simp [start] at hsession
  createdBy_lt := by intro id session hsession; simp [start] at hsession

theorem agrees_start (distMaxAge : ℤ) (nfInstance : NfInstance) :
    (start distMaxAge nfInstance).Agrees := by
  intro id
  simp [start, lastPost]

/-- The API behaves as a map from ids to sessions throughout a history if and only
if no session is posted, and accepted, under an id that is taken. -/
theorem behavesAsMap_throughout_iff (distMaxAge : ℤ) (nfInstance : NfInstance)
    (events : List Open5GSEvent) :
    Throughout (serve env) (BehavesAsMap env) (start distMaxAge nfInstance) events ↔
      Guarded (serve env) (IdsFree env) (start distMaxAge nfInstance) events := by
  have hkeeps : ∀ before event after, Sound before → BehavesAsMap env before →
      serve env before event = some after → Sound after := by
    intro before event after hsound _ hserve
    obtain rfl := Option.some.inj hserve
    exact hsound.next env event
  have hexact : ∀ before event after, Sound before → BehavesAsMap env before →
      serve env before event = some after →
        (BehavesAsMap env after ↔ IdsFree env before event) := by
    intro before event after hsound hbehaves hserve
    obtain rfl := Option.some.inj hserve
    rw [behavesAsMap_iff env (hsound.next env event)]
    exact ((behavesAsMap_iff env hsound).mp hbehaves).next_iff env hsound event
  have hstart := sound_start distMaxAge nfInstance
  exact throughout_iff_guarded hkeeps hexact hstart
    ((behavesAsMap_iff env hstart).mpr (agrees_start distMaxAge nfInstance))

end Server

end

/-! ## An id that is used twice -/

/-- A session for objects that are pushed one by one; `text` is the text it was
posted with. -/
def postedText (text : String) : DistSession where
  distSessionId := "1"
  distSessionState := none
  mbr := none
  objDistributionData := some {
    objDistributionOperatingMode := "SINGLE"
    objAcquisitionMethod := "PUSH"
    objAcquisitionIdsPull := none
    objAcquisitionIdPush := none
    objIngestBaseUrl := none
    objDistributionBaseUrl := none }
  upTrafficFlowInfo := none
  mbUpfTunAddr := none
  others := text

/-- An environment in which every text is a session with the id `1`. -/
def textEnvironment : Environment DistSession where
  surroundings := ⟨"http://push.example/", fun _ => true⟩
  parse text := .ok (postedText (text.getD ""))
  serialise session := "\x7b" ++ session.others ++ "\x7d"
  serialise_ne_empty session := by
    intro hempty
    have hlength := congrArg String.length hempty
    simp at hlength
  createReqData session := .ok session
  toJSON session := session
  calculateHash text := text

/-- `POST` of a text. -/
def postText (text : String) : Open5GSEvent :=
  .sbiServer (some {
    serviceName := "nmbstf-distsession"
    apiVersion := "v1"
    resourceComponents := ["dist-sessions"]
    method := "POST"
    uri := "/nmbstf-distsession/v1/dist-sessions"
    headers := [("content-type", "application/json")]
    content := some text
    now := 0 })

namespace Server

/-- The second `POST` for an id is answered with 201 and its own session, a `GET`
with the session of the first. -/
theorem second_post_not_shown :
    ((run (serve textEnvironment) (start 0 ⟨0, []⟩) [postText "a", postText "b"]).map
      fun server =>
        (server.past.map fun exchange =>
            exchange.response.map fun response => (response.status, response.content),
          (server.outcome textEnvironment (.sbiServer (some (getRequest "1")))).response.map
            fun response => (response.status, response.content))) =
      some ([some (201, "{b}"), some (201, "{a}")], some (200, "{a}")) ∧
    ¬ Throughout (serve textEnvironment) (BehavesAsMap textEnvironment) (start 0 ⟨0, []⟩)
      [postText "a", postText "b"] := by
  refine ⟨by decide +kernel, ?_⟩
  intro hall
  have hvalues : ((run (serve textEnvironment) (start 0 ⟨0, []⟩)
      [postText "a", postText "b"]).map fun server =>
        ((lastPost server.past "1").map DistributionSession.createdBy,
          ((server.outcome textEnvironment (.sbiServer (some (getRequest "1")))).response.bind
            SBIResponse.about).map DistributionSession.createdBy)) = some (some 1, some 0) := by
    decide +kernel
  obtain ⟨server, hrun, hserver⟩ := Option.map_eq_some_iff.mp hvalues
  obtain ⟨hlast, hshown⟩ := Prod.mk.inj hserver
  obtain ⟨session, hsession, hone⟩ := Option.map_eq_some_iff.mp hlast
  obtain ⟨response, hresponse, _, habout⟩ := ((hall.final hrun).get_found (getRequest "1") "1"
    (isGet_getRequest "1") session).mpr hsession
  rw [hresponse, Option.bind_some, habout, Option.map_some, hone] at hshown
  exact absurd hshown (by decide)

end Server

end Mbstf.Session
