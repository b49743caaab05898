import Mbstf.Session.Dispatch
import Mbstf.Session.SessionMap

/-!
# Requests are answered once

A request is answered once, and no string is built from a null pointer, unless a call that
makes a text throws outside the handlers of `processEvent`, or a notification comes without
a resource name.
-/

namespace Mbstf.Session

open Mbstf.Runs

namespace Handling

variable {Json First Value : Type} {handler : Handler}

/-! ## Answered once -/

/-- One answer was sent, and no string was built from a null pointer. -/
structure Once (before : Handler) (outcome : Except StdException Value × Handler) : Prop where
  answers : ∃ answer, outcome.2.answers = before.answers ++ [answer]
  nullStrings : outcome.2.nullStrings = before.nullStrings

theorem once_answer (sent : Answer) (handler : Handler) (context : Context)
    (result : Except StdException Value) :
    Once handler (result,
      { handler with context := context, answers := handler.answers ++ [sent] }) :=
  ⟨⟨sent, rfl⟩, rfl⟩

/-- When nothing was sent. -/
theorem not_once_of_answers_eq {before : Handler} {outcome : Except StdException Value × Handler}
    (hanswers : outcome.2.answers = before.answers) : ¬ Once before outcome := by
  rintro ⟨⟨sent, hsent⟩, _⟩
  rw [hanswers] at hsent
  exact List.cons_ne_nil sent [] (List.self_eq_append_right.mp hsent)

/-- What the code returns does not matter. -/
theorem once_congr {before : Handler} {first : Except StdException First × Handler}
    {second : Except StdException Value × Handler} (hsame : first.2 = second.2) :
    Once before first ↔ Once before second := by
  constructor
  · intro honce
    exact ⟨hsame ▸ honce.answers, hsame ▸ honce.nullStrings⟩
  · intro honce
    exact ⟨hsame ▸ honce.answers, hsame ▸ honce.nullStrings⟩

theorem once_respond (response : SBIResponse) (handler : Handler) :
    Once handler ((respond response).exec handler) :=
  ⟨⟨_, rfl⟩, rfl⟩

variable (env : ThrowingEnvironment Json)

/-- The text of the session can be made. -/
def HasBody (session : DistSession) : Prop := ∃ text, sessionBody env session = .ok text

theorem sessionResponse_of_hasBody {session : DistributionSession}
    (hbody : HasBody env session.distSession) (context : Context) (status : ℕ)
    (location : String) :
    ∃ response, sessionResponse env context status location session = .ok response := by
  obtain ⟨text, htext⟩ := hbody
  have hne : text ≠ "" := by
    cases hjson : env.toJSON session.distSession with
    | error exception =>
        rw [sessionBody, hjson] at htext
        cases htext
    | ok json =>
        rw [sessionBody, hjson] at htext
        exact env.serialise_ne_empty .body json text htext
  rw [sessionResponse, htext]
  exact ⟨_, if_neg hne⟩

theorem sessionResponse_error {session : DistributionSession} {exception : StdException}
    (hbody : sessionBody env session.distSession = .error exception) (context : Context)
    (status : ℕ) (location : String) :
    sessionResponse env context status location session = .error exception := by
  rw [sessionResponse, hbody]
  rfl

/-- The end of a `POST` sends its answer if the text of the session can be made. -/
theorem createSession_once_iff (hrates : HaveRates handler.context.distributionSessions)
    (request : SBIRequest) {session : DistributionSession} (hsession : session.HasRate) :
    Once handler ((createSession env request session).exec handler) ↔
      HasBody env session.distSession := by
  obtain ⟨after, hadd, _⟩ := Context.addDistributionSession_ok hrates hsession
  rw [createSession, exec_bind, exec_callContext, hadd]
  dsimp only
  rw [exec_bind, exec_get]
  dsimp only
  rw [exec_bind, exec_call]
  cases hbody : sessionBody env session.distSession with
  | ok text =>
      have hhas : HasBody env session.distSession := ⟨text, hbody⟩
      obtain ⟨response, hresponse⟩ := sessionResponse_of_hasBody env hhas after 201
        (request.uri ++ "/" ++ session.distributionSessionId)
      rw [hresponse]
      exact iff_of_true (once_answer _ handler after _) hhas
  | error exception =>
      have hnot : ¬ Once handler ((.error exception, { handler with context := after }) :
          Except StdException Bool × Handler) := not_once_of_answers_eq rfl
      have hnone : ¬ HasBody env session.distSession := by
        rintro ⟨text, htext⟩
        cases hbody.symm.trans htext
      rw [sessionResponse_error env hbody]
      exact iff_of_false hnot hnone

/-- A session that is made of a `POST` and taken by a controller has a text. -/
def PostedHaveBodies (number : ℕ) (request : SBIRequest) (json : Json) : Prop :=
  ∀ session controller after,
    newDistributionSession env number request.now json = .ok session →
    makeController env.surroundings session.distSession = (.ok (some controller), after) →
      HasBody env after

theorem postJson_once_iff (hrates : HaveRates handler.context.distributionSessions)
    (number : ℕ) (request : SBIRequest) (json : Json) :
    Once handler ((postJson env number request json).exec handler) ↔
      PostedHaveBodies env number request json := by
  unfold postJson
  split
  case h_1 exception hnew =>
      apply iff_of_true (once_respond _ handler)
      intro session controller after hsession
      cases hnew.symm.trans hsession
  case h_2 session hnew =>
      have hsame : ∀ {other}, newDistributionSession env number request.now json = .ok other →
          session = other := fun hother => Except.ok.inj (hnew.symm.trans hother)
      split
      case h_1 exception after hmade =>
          rw [if_pos (tryConstructors_error hmade)]
          apply iff_of_true (once_respond _ handler)
          intro other controller left hother hcontroller
          obtain rfl := hsame hother
          cases hmade.symm.trans hcontroller
      case h_2 after hmade =>
          apply iff_of_true (once_respond _ handler)
          intro other controller left hother hcontroller
          obtain rfl := hsame hother
          cases hmade.symm.trans hcontroller
      case h_3 controller after hmade =>
          rw [createSession_once_iff env hrates request (makeController_hasRate hmade)]
          constructor
          · intro hbody other made left hother hcontroller
            obtain rfl := hsame hother
            obtain ⟨_, rfl⟩ := Prod.mk.inj (hmade.symm.trans hcontroller)
            exact hbody
          · intro hall
            exact hall session controller after hnew hmade

/-- The texts of a `POST` can be made: that of its JSON, for the log, and that of the
session. -/
def PostSerialises (number : ℕ) (request : SBIRequest) : Prop :=
  request.headerValue "Content-Type" "" = "application/json" →
    ∀ json, env.parse request.content = .ok json →
      (∃ text, env.serialise .parsedJson json = .ok text) ∧
        PostedHaveBodies env number request json

theorem postSession_once_iff (hrates : HaveRates handler.context.distributionSessions)
    (number : ℕ) (request : SBIRequest) :
    Once handler ((postSession env number request).exec handler) ↔
      PostSerialises env number request := by
  unfold postSession
  split
  case isTrue hother =>
      exact iff_of_true (once_respond _ handler) fun hjson => absurd hjson hother
  case isFalse hjson =>
      rw [not_not] at hjson
      split
      case h_1 exception hparse =>
          apply iff_of_true (once_respond _ handler)
          intro _ json hparsed
          cases hparse.symm.trans hparsed
      case h_2 json hparse =>
          have hserialises : PostSerialises env number request ↔
              (∃ text, env.serialise .parsedJson json = .ok text) ∧
                PostedHaveBodies env number request json := by
            constructor
            · intro hall
              exact hall hjson json hparse
            · intro hboth _ other hother
              obtain rfl := Except.ok.inj (hparse.symm.trans hother)
              exact hboth
          rw [hserialises, exec_bind, exec_call]
          cases htext : env.serialise .parsedJson json with
          | ok text =>
              rw [and_iff_right ⟨text, rfl⟩]
              exact postJson_once_iff env hrates number request json
          | error exception =>
              have hnot : ¬ Once handler ((.error exception, handler) :
                  Except StdException Bool × Handler) := not_once_of_answers_eq rfl
              apply iff_of_false hnot
              rintro ⟨⟨text, hother⟩, _⟩
              cases hother

/-- The text of the session with the id, if there is one, can be made, or is not because
of a `std::out_of_range`. -/
def GetSerialises (context : Context) (id : String) : Prop :=
  ∀ session exception, context.find id = .ok session →
    sessionBody env session.distSession = .error exception → exception.isOutOfRange = true

theorem find_error {context : Context} {id : String} {exception : StdException}
    (hfind : context.find id = .error exception) : exception.isOutOfRange = true := by
  unfold Context.find at hfind
  split at hfind
  · cases hfind
  · rw [← Except.error.inj hfind]
    rfl

/-- `return true` at the end of a branch. -/
theorem once_return_iff (code : Handling Unit) :
    Once handler ((code >>= fun _ => (pure true : Handling Bool)).exec handler) ↔
      Once handler (code.exec handler) := by
  rw [exec_bind]
  cases code.exec handler with
  | mk result after =>
      cases result with
      | ok value => exact once_congr rfl
      | error exception => exact once_congr rfl

/-- A `GET` of a session is answered if its text can be made. -/
theorem processGet_once_iff {request : SBIRequest} {id : String}
    (hid : request.resourceComponent 1 = some id) :
    Once handler ((processGet env request).exec handler) ↔
      GetSerialises env handler.context id := by
  unfold processGet
  rw [hid]
  refine (once_return_iff _).trans ?_
  have hexec := exec_answerSession env handler request id
  cases hfind : handler.context.find id with
  | error exception =>
      rw [hfind] at hexec
      rw [exec_catchOutOfRange_error hexec, if_pos (find_error hfind)]
      apply iff_of_true (once_answer _ handler handler.context _)
      intro session other hsession
      cases hfind.symm.trans hsession
  | ok session =>
      have hserialises : GetSerialises env handler.context id ↔
          ∀ exception, sessionBody env session.distSession = .error exception →
            exception.isOutOfRange = true := by
        constructor
        · intro hall exception hbody
          exact hall session exception hfind hbody
        · intro hbodies other exception hother hbody
          obtain rfl := Except.ok.inj (hfind.symm.trans hother)
          exact hbodies exception hbody
      rw [hserialises]
      rw [hfind, Except.bind] at hexec
      cases hbody : sessionBody env session.distSession with
      | ok text =>
          obtain ⟨response, hresponse⟩ := sessionResponse_of_hasBody env ⟨text, hbody⟩
            handler.context 200 request.uri
          rw [hresponse] at hexec
          rw [exec_catchOutOfRange_ok hexec]
          apply iff_of_true (once_answer _ handler handler.context _)
          intro exception hexception
          cases hexception
      | error exception =>
          have hresponse := sessionResponse_error env hbody handler.context 200 request.uri
          rw [hresponse] at hexec
          rw [exec_catchOutOfRange_error hexec]
          by_cases hrange : exception.isOutOfRange = true
          · rw [if_pos hrange]
            apply iff_of_true (once_answer _ handler handler.context _)
            intro other hother
            rw [← Except.error.inj hother]
            exact hrange
          · have hnot : ¬ Once handler ((.error exception, handler) :
                Except StdException Unit × Handler) := not_once_of_answers_eq rfl
            rw [if_neg hrange]
            apply iff_of_false hnot
            intro hall
            exact hrange (hall exception rfl)

/-- A `DELETE` is answered, with whatever sessions there are. -/
theorem processDelete_once (hrates : HaveRates handler.context.distributionSessions)
    (request : SBIRequest) : Once handler ((processDelete request).exec handler) := by
  unfold processDelete
  split
  case h_1 id hid hnone =>
      apply (once_return_iff _).mpr
      have hexec := exec_deleteSession handler id
      by_cases hmem : id ∈ handler.context.distributionSessions
      · obtain ⟨after, hdelete, _⟩ := Context.deleteDistributionSession_ok hrates hmem
        rw [hdelete] at hexec
        rw [exec_catchOutOfRange_ok hexec]
        exact once_answer _ handler after _
      · rw [Context.deleteDistributionSession, if_neg hmem] at hexec
        rw [exec_catchOutOfRange_error hexec]
        exact once_answer _ handler handler.context _
  case h_2 => exact once_respond _ handler

theorem processOptions_once (request : SBIRequest) :
    Once handler ((processOptions request).exec handler) := by
  unfold processOptions
  split
  · split
    · exact once_respond _ handler
    · exact once_respond _ handler
  · exact once_respond _ handler
  · exact once_respond _ handler

theorem processPost_once_iff (hrates : HaveRates handler.context.distributionSessions)
    (number : ℕ) (request : SBIRequest) :
    Once handler ((processPost env number request).exec handler) ↔
      (request.resourceComponent 1 = none → PostSerialises env number request) := by
  unfold processPost
  split
  case h_1 ref subresource href _ =>
      apply iff_of_true
      · split
        · exact once_respond _ handler
        · exact once_respond _ handler
      · intro hnone
        cases href.symm.trans hnone
  case h_2 ref href _ =>
      apply iff_of_true (once_respond _ handler)
      intro hnone
      cases href.symm.trans hnone
  case h_3 hnone =>
      rw [postSession_once_iff env hrates number request]
      exact (imp_iff_right hnone).symm

/-- The texts that a request for `dist-sessions` needs can be made. -/
structure Serialises (number : ℕ) (context : Context) (request : SBIRequest) : Prop where
  post : request.IsPost → PostSerialises env number request
  get : ∀ id, request.IsGet id → GetSerialises env context id

theorem serialises_of_others (number : ℕ) (context : Context) {request : SBIRequest}
    (hpost : ¬ request.IsPost) (hget : ∀ id, ¬ request.IsGet id) :
    Serialises env number context request :=
  ⟨fun h => absurd h hpost, fun id h => absurd h (hget id)⟩

theorem processDistSessions_once_iff (hrates : HaveRates handler.context.distributionSessions)
    (number : ℕ) {request : SBIRequest} (hrequest : request.IsDistSessions) :
    Once handler ((processDistSessions env number request).exec handler) ↔
      Serialises env number handler.context request := by
  unfold processDistSessions
  by_cases hpost : request.method = "POST"
  · rw [if_pos hpost, processPost_once_iff env hrates number request]
    have hget : ∀ id, ¬ request.IsGet id := fun id h => by
      rw [h.2.1] at hpost
      exact absurd hpost (by decide)
    constructor
    · intro hall
      exact ⟨fun h => hall h.2.2, fun id h => absurd h (hget id)⟩
    · intro hall hnone
      exact hall.post ⟨hrequest, hpost, hnone⟩
  have hnotPost : ¬ request.IsPost := fun h => hpost h.2.1
  rw [if_neg hpost]
  by_cases hget : request.method = "GET"
  · rw [if_pos hget]
    cases hid : request.resourceComponent 1 with
    | none =>
        have hnotGet : ∀ id, ¬ request.IsGet id := fun id h => by
          cases hid.symm.trans h.2.2
        have honce : Once handler ((processGet env request).exec handler) := by
          rw [processGet, hid]
          exact once_respond _ handler
        exact iff_of_true honce (serialises_of_others env number _ hnotPost hnotGet)
    | some id =>
        rw [processGet_once_iff env hid]
        constructor
        · intro hserialises
          refine ⟨fun h => absurd h hnotPost, fun other h => ?_⟩
          obtain rfl : id = other := Option.some.inj (hid.symm.trans h.2.2)
          exact hserialises
        · intro hall
          exact hall.get id ⟨hrequest, hget, hid⟩
  have hnotGet : ∀ id, ¬ request.IsGet id := fun id h => hget h.2.1
  rw [if_neg hget]
  apply iff_of_true _ (serialises_of_others env number _ hnotPost hnotGet)
  split
  · exact processDelete_once hrates request
  split
  · exact processOptions_once request
  · exact once_respond _ handler

/-- `processEvent` answers its requests when their texts can be made. -/
theorem processEvent_once_iff (hrates : HaveRates handler.context.distributionSessions)
    (number : ℕ) {request : SBIRequest} (hservice : request.serviceName = "nmbstf-distsession") :
    Once handler ((processEvent env number (.sbiServer (some request))).exec handler) ↔
      Serialises env number handler.context request := by
  have hothers : ¬ request.IsDistSessions → Serialises env number handler.context request :=
    fun hnot => serialises_of_others env number _ (fun h => hnot h.1) fun id h => hnot h.1
  rw [processEvent, if_neg (not_not.mpr hservice)]
  by_cases hversion : request.apiVersion = "v1"
  · rw [if_neg (not_not.mpr hversion)]
    cases hresource : request.resourceComponent 0 with
    | none =>
        apply iff_of_true (once_respond _ handler) (hothers _)
        intro h
        cases hresource.symm.trans h.2.2
    | some resource0 =>
        dsimp only
        by_cases hsessions : resource0 = "dist-sessions"
        · subst hsessions
          rw [if_pos rfl]
          exact processDistSessions_once_iff env hrates number ⟨hservice, hversion, hresource⟩
        · rw [if_neg hsessions]
          apply iff_of_true (once_respond _ handler) (hothers _)
          intro h
          exact hsessions (Option.some.inj (hresource.symm.trans h.2.2))
  · rw [if_pos hversion]
    exact iff_of_true (once_respond _ handler) (hothers fun h => hversion h.2.1)

/-- A notification is answered unless it has no resource name. -/
theorem dispatchRequest_once_iff (request : SBIRequest) :
    Once handler ((dispatchRequest request).exec handler) ↔
      (request.serviceName = "nnrf-nfm" → request.apiVersion = "v1" →
        request.resourceComponent 0 ≠ none) := by
  have hanswer : ∀ sent, Once handler ((answer sent).exec handler) := fun sent =>
    once_answer sent handler handler.context _
  rw [dispatchRequest]
  by_cases hservice : request.serviceName = "nnrf-nfm"
  · rw [if_pos hservice, imp_iff_right hservice]
    by_cases hversion : request.apiVersion = "v1"
    · rw [if_neg (not_not.mpr hversion), imp_iff_right hversion, exec_bind]
      cases request.resourceComponent 0 with
      | none =>
          have hnot : ¬ Once handler (((string none).exec handler).1.map fun _ => (),
              ((string none).exec handler).2) := not_once_of_answers_eq rfl
          exact iff_of_false hnot fun hpresent => hpresent rfl
      | some resource =>
          apply iff_of_true _ (Option.some_ne_none resource)
          change Once handler ((ite _ _ _ : Handling Unit).exec handler)
          split
          · split
            · exact hanswer _
            · exact hanswer _
          · exact hanswer _
    · rw [if_pos hversion]
      exact iff_of_true (hanswer _) fun h => absurd h hversion
  · rw [if_neg hservice]
    exact iff_of_true (hanswer _) fun h => absurd h hservice

/-! ## What is handed over -/

/-- The code never returns false. -/
def Handles (code : Handling Bool) : Prop :=
  ∀ handler, (code.exec handler).1 ≠ .ok false

theorem Handles.respond (response : SBIResponse) : Handles (respond response) := by
  intro handler hfalse
  cases hfalse

theorem Handles.throw (exception : StdException) : Handles (throw exception) := by
  intro handler hfalse
  cases hfalse

theorem Handles.bind (code : Handling First) {rest : First → Handling Bool}
    (hrest : ∀ first, Handles (rest first)) : Handles (code >>= rest) := by
  intro handler hfalse
  rw [exec_bind] at hfalse
  cases hcode : code.exec handler with
  | mk result middle =>
      rw [hcode] at hfalse
      cases result with
      | ok first => exact hrest first middle hfalse
      | error exception => cases hfalse

theorem Handles.return_true (code : Handling First) :
    Handles (code >>= fun _ => (pure true : Handling Bool)) := by
  apply Handles.bind
  intro _ handler hfalse
  cases hfalse

theorem createSession_handles (request : SBIRequest) (session : DistributionSession) :
    Handles (createSession env request session) := by
  apply Handles.bind
  intro _
  apply Handles.bind
  intro handler
  apply Handles.bind
  exact Handles.respond

theorem postSession_handles (number : ℕ) (request : SBIRequest) :
    Handles (postSession env number request) := by
  unfold postSession
  split
  · exact .respond _
  split
  · exact .respond _
  apply Handles.bind
  intro _
  unfold postJson
  split
  · exact .respond _
  split
  · split
    · exact .respond _
    · exact .throw _
  · exact .respond _
  · exact createSession_handles env request _

theorem processDistSessions_handles (number : ℕ) (request : SBIRequest) :
    Handles (processDistSessions env number request) := by
  unfold processDistSessions processPost processGet processDelete processOptions
  repeat' split
  any_goals exact .respond _
  · exact postSession_handles env number request
  · exact .return_true _
  · exact .return_true _

/-- Every request for the service is handled by `processEvent`. -/
theorem processEvent_handles (number : ℕ) {request : SBIRequest}
    (hservice : request.serviceName = "nmbstf-distsession") :
    Handles (processEvent env number (.sbiServer (some request))) := by
  rw [processEvent, if_neg (not_not.mpr hservice)]
  split
  · exact .respond _
  split
  · exact .respond _
  split
  · exact processDistSessions_handles env number request
  · exact .respond _

/-- Where making a text does not throw, all texts can be made. -/
theorem serialises_throwing (env : Environment Json) (number : ℕ) (context : Context)
    (request : SBIRequest) : Serialises env.throwing number context request where
  post := by
    intro _ _ json _
    refine ⟨⟨_, rfl⟩, ?_⟩
    intro session controller after _ _
    exact ⟨_, rfl⟩
  get := by
    intro id _ session exception _ hbody
    cases hbody

/-- What the answer to a request hangs on: that the texts it needs can be made, and that
a notification has a resource name. -/
structure Answerable (number : ℕ) (context : Context) (request : SBIRequest) : Prop where
  serialises : Serialises env number context request
  resource : request.serviceName = "nnrf-nfm" → request.apiVersion = "v1" →
    request.resourceComponent 0 ≠ none

theorem dispatch_once_iff (hrates : HaveRates handler.context.distributionSessions)
    (number : ℕ) (request : SBIRequest) :
    Once handler ((dispatch env number (.sbiServer (some request))).exec handler) ↔
      Answerable env number handler.context request := by
  unfold dispatch
  rw [exec_bind]
  by_cases hservice : request.serviceName = "nmbstf-distsession"
  · have hevent := processEvent_once_iff env hrates number hservice
    have hhandles := processEvent_handles env number hservice handler
    have hanswerable : Answerable env number handler.context request ↔
        Serialises env number handler.context request := by
      constructor
      · exact Answerable.serialises
      · intro hserialises
        refine ⟨hserialises, fun hnotify => ?_⟩
        rw [hservice] at hnotify
        exact absurd hnotify (by decide)
    rw [hanswerable, ← hevent]
    cases hcode : (processEvent env number (.sbiServer (some request))).exec handler with
    | mk result after =>
        rw [hcode] at hhandles
        cases result with
        | ok handled =>
            obtain rfl : handled = true := by
              cases handled with
              | true => rfl
              | false => exact absurd rfl hhandles
            exact once_congr rfl
        | error exception =>
            exact once_congr rfl
  · have hserialises : Serialises env number handler.context request :=
      serialises_of_others env number _ (fun h => hservice h.1.1) fun id h => hservice h.1.1
    have hanswerable : Answerable env number handler.context request ↔
        (request.serviceName = "nnrf-nfm" → request.apiVersion = "v1" →
          request.resourceComponent 0 ≠ none) :=
      ⟨Answerable.resource, fun hresource => ⟨hserialises, hresource⟩⟩
    rw [processEvent, if_pos hservice, hanswerable]
    exact dispatchRequest_once_iff request

/-! ## The sessions there are -/

/-- The code keeps it that all bit rates can be read. -/
def KeepsRates (code : Handling Value) : Prop :=
  ∀ handler, HaveRates handler.context.distributionSessions →
    HaveRates (code.exec handler).2.context.distributionSessions

theorem KeepsRates.answer (sent : Answer) : KeepsRates (answer sent) :=
  fun _ hrates => hrates

theorem KeepsRates.respond (response : SBIResponse) : KeepsRates (respond response) :=
  fun _ hrates => hrates

theorem KeepsRates.throw (exception : StdException) :
    KeepsRates (throw exception : Handling Value) :=
  fun _ hrates => hrates

theorem KeepsRates.call (result : Except StdException Value) : KeepsRates (call result) := by
  intro handler hrates
  rw [exec_call]
  exact hrates

theorem KeepsRates.string (pointer : Option String) : KeepsRates (string pointer) := by
  intro handler hrates
  cases pointer with
  | none => exact hrates
  | some text => exact hrates

theorem KeepsRates.callContext {operation : Context → Except StdException Unit × Context}
    (hoperation : ∀ context, HaveRates context.distributionSessions →
      HaveRates (operation context).2.distributionSessions) :
    KeepsRates (callContext operation) := by
  intro handler hrates
  rw [exec_callContext]
  exact hoperation handler.context hrates

theorem KeepsRates.bind {code : Handling First} {rest : First → Handling Value}
    (hcode : KeepsRates code) (hrest : ∀ first, KeepsRates (rest first)) :
    KeepsRates (code >>= rest) := by
  intro handler hrates
  have hmiddle := hcode handler hrates
  rw [exec_bind]
  cases hexec : code.exec handler with
  | mk result middle =>
      rw [hexec] at hmiddle
      cases result with
      | ok first => exact hrest first middle hmiddle
      | error exception => exact hmiddle

theorem KeepsRates.tryCatch {code : Handling Value} {handle : StdException → Handling Value}
    (hcode : KeepsRates code) (hhandle : ∀ exception, KeepsRates (handle exception)) :
    KeepsRates (tryCatch code handle) := by
  intro handler hrates
  have hafter := hcode handler hrates
  rw [exec_tryCatch]
  cases hexec : code.exec handler with
  | mk result after =>
      rw [hexec] at hafter
      cases result with
      | ok value => exact hafter
      | error exception => exact hhandle exception after hafter

theorem KeepsRates.catchOutOfRange {code : Handling Unit} (hcode : KeepsRates code)
    (request : SBIRequest) (id : String) : KeepsRates (catchOutOfRange request id code) := by
  apply KeepsRates.tryCatch hcode
  intro exception
  split
  · exact .answer _
  · exact .throw _

theorem createSession_keepsRates (request : SBIRequest) {session : DistributionSession}
    (hsession : session.HasRate) : KeepsRates (createSession env request session) := by
  have hadd : KeepsRates (callContext fun context => context.addDistributionSession session) := by
    apply KeepsRates.callContext
    intro context hrates
    obtain ⟨after, hadded, hsessions⟩ := Context.addDistributionSession_ok hrates hsession
    rw [hadded, hsessions]
    exact hrates.insertIfNew hsession
  have hget : KeepsRates (get : Handling Handler) := fun _ hrates => hrates
  exact hadd.bind fun _ => hget.bind fun _ => (KeepsRates.call _).bind fun _ => .respond _

theorem postSession_keepsRates (number : ℕ) (request : SBIRequest) :
    KeepsRates (postSession env number request) := by
  unfold postSession
  split
  · exact .respond _
  split
  · exact .respond _
  apply (KeepsRates.call _).bind
  intro _
  unfold postJson
  split
  · exact .respond _
  split
  · split
    · exact .respond _
    · exact .throw _
  · exact .respond _
  case h_3 hmade => exact createSession_keepsRates env request (makeController_hasRate hmade)

theorem processPost_keepsRates (number : ℕ) (request : SBIRequest) :
    KeepsRates (processPost env number request) := by
  unfold processPost
  split
  · split
    · exact .respond _
    · exact .respond _
  · exact .respond _
  · exact postSession_keepsRates env number request

theorem KeepsRates.return_true {code : Handling Unit} (hcode : KeepsRates code) :
    KeepsRates (code >>= fun _ => (pure true : Handling Bool)) :=
  hcode.bind fun _ _ hrates => hrates

theorem processGet_keepsRates (request : SBIRequest) : KeepsRates (processGet env request) := by
  unfold processGet
  split
  · exact .respond _
  · apply KeepsRates.return_true
    apply KeepsRates.catchOutOfRange
    intro handler hrates
    rw [exec_answerSession]
    split
    · exact hrates
    · exact hrates

theorem processDelete_keepsRates (request : SBIRequest) : KeepsRates (processDelete request) := by
  unfold processDelete
  split
  case h_1 id _ _ =>
      apply KeepsRates.return_true
      apply KeepsRates.catchOutOfRange
      have hdelete : KeepsRates (callContext fun context =>
          context.deleteDistributionSession id) := by
        apply KeepsRates.callContext
        intro context hrates
        by_cases hmem : id ∈ context.distributionSessions
        · obtain ⟨after, hdeleted, hsessions⟩ :=
            Context.deleteDistributionSession_ok hrates hmem
          rw [hdeleted, hsessions]
          exact hrates.erase id
        · rw [Context.deleteDistributionSession, if_neg hmem]
          exact hrates
      exact hdelete.bind fun _ => .answer _
  case h_2 => exact .respond _

theorem processOptions_keepsRates (request : SBIRequest) :
    KeepsRates (processOptions request) := by
  unfold processOptions
  split
  · split
    · exact .respond _
    · exact .respond _
  · exact .respond _
  · exact .respond _

theorem processDistSessions_keepsRates (number : ℕ) (request : SBIRequest) :
    KeepsRates (processDistSessions env number request) := by
  unfold processDistSessions
  split
  · exact processPost_keepsRates env number request
  split
  · exact processGet_keepsRates env request
  split
  · exact processDelete_keepsRates request
  split
  · exact processOptions_keepsRates request
  · exact .respond _

theorem processEvent_keepsRates (number : ℕ) (event : Open5GSEvent) :
    KeepsRates (processEvent env number event) := by
  have hfalse : KeepsRates (pure false : Handling Bool) := fun _ hrates => hrates
  unfold processEvent
  split
  · exact hfalse
  · exact hfalse
  split
  · exact hfalse
  split
  · exact .respond _
  split
  · exact .respond _
  split
  · exact processDistSessions_keepsRates env number _
  · exact .respond _

theorem dispatchRequest_keepsRates (request : SBIRequest) :
    KeepsRates (dispatchRequest request) := by
  unfold dispatchRequest
  split
  · split
    · exact .answer _
    · apply (KeepsRates.string _).bind
      intro _
      repeat' split
      all_goals exact .answer _
  · exact .answer _

theorem dispatch_keepsRates (number : ℕ) (event : Open5GSEvent) :
    KeepsRates (dispatch env number event) := by
  have hdone : KeepsRates (pure () : Handling Unit) := fun _ hrates => hrates
  apply (processEvent_keepsRates env number event).bind
  intro handled
  cases handled with
  | true => exact hdone
  | false =>
      cases event with
      | other => exact hdone
      | sbiServer request =>
          cases request with
          | none => exact .answer _
          | some request => exact dispatchRequest_keepsRates request

/-! ## Over a run -/

/-- An event, with what is used from outside the repository while it is handled. -/
structure Turn (Json : Type) where
  env : ThrowingEnvironment Json
  number : ℕ
  event : Open5GSEvent

namespace Turn

/-- What handling the event comes to. -/
def outcome (turn : Turn Json) (context : Context) : Except StdException Unit × Handler :=
  (dispatch turn.env turn.number turn.event).exec ⟨context, [], 0⟩

/-- One event. -/
def take (context : Context) (turn : Turn Json) : Option Context :=
  some (turn.outcome context).2.context

/-- In every context there can be, a request is answered exactly once, and no string is
built from a null pointer, if and only if its texts can be made and, for a notification,
it has a resource name. -/
theorem reachable_once_iff {distMaxAge : ℤ} {nfInstance : NfInstance} {context : Context}
    (hreach : Reachable (@take Json) (Server.start distMaxAge nfInstance).context context)
    (turn : Turn Json) {request : SBIRequest} (hevent : turn.event = .sbiServer (some request)) :
    Once ⟨context, [], 0⟩ (turn.outcome context) ↔
      Answerable turn.env turn.number context request := by
  have hrates : HaveRates context.distributionSessions := by
    have hstep : ∀ (before : Context) (label : Turn Json) (after : Context),
        HaveRates before.distributionSessions → take before label = some after →
          HaveRates after.distributionSessions := by
      intro before label after hbefore htake
      obtain rfl := Option.some.inj htake
      exact dispatch_keepsRates label.env label.number label.event ⟨before, [], 0⟩ hbefore
    exact hreach.invariant hstep (Server.sound_start distMaxAge nfInstance).haveRates
  rw [outcome, hevent]
  exact dispatch_once_iff turn.env hrates turn.number request

/-- A `GET` after a `POST` is answered. -/
theorem get_answered :
    let posted : Turn DistSession := ⟨textEnvironment.throwing, 0, postText "a"⟩
    ∃ context, take (Server.start 0 ⟨0, []⟩).context posted = some context ∧
      Once ⟨context, [], 0⟩ (outcome ⟨textEnvironment.throwing, 1,
        .sbiServer (some (Server.getRequest "1"))⟩ context) := by
  intro posted
  refine ⟨_, rfl, ?_⟩
  have hreach : Reachable take (Server.start 0 ⟨0, []⟩).context
      (posted.outcome (Server.start 0 ⟨0, []⟩).context).2.context := ⟨[posted], rfl⟩
  apply (reachable_once_iff hreach _ rfl).mpr
  refine ⟨serialises_throwing textEnvironment _ _ _, ?_⟩
  intro hservice
  exact absurd hservice (by decide)

/-- A notification without a resource name. -/
def notifyRequest : SBIRequest where
  serviceName := "nnrf-nfm"
  apiVersion := "v1"
  resourceComponents := []
  method := "POST"
  uri := "/nnrf-nfm/v1"
  headers := []
  content := none
  now := 0

/-- An environment in which no text can be made. -/
def noTexts : ThrowingEnvironment DistSession where
  surroundings := textEnvironment.surroundings
  parse := textEnvironment.parse
  serialise _ _ := .error ⟨.runtimeError, "out of memory"⟩
  serialise_ne_empty := by
    intro _ _ _ htext
    cases htext
  createReqData := textEnvironment.createReqData
  toJSON session := .ok session
  calculateHash := textEnvironment.calculateHash

/-- A string is built from the null pointer of the missing resource name, and nothing is
sent; and nothing is sent where the text for the log cannot be made. -/
theorem notify_not_once :
    ¬ (∀ (turn : Turn DistSession) (request : SBIRequest),
      turn.event = .sbiServer (some request) →
        Once ⟨(Server.start 0 ⟨0, []⟩).context, [], 0⟩
          (turn.outcome (Server.start 0 ⟨0, []⟩).context)) ∧
    ((outcome ⟨textEnvironment.throwing, 0, .sbiServer (some notifyRequest)⟩
        (Server.start 0 ⟨0, []⟩).context).2.answers.length = 0 ∧
      (outcome ⟨textEnvironment.throwing, 0, .sbiServer (some notifyRequest)⟩
        (Server.start 0 ⟨0, []⟩).context).2.nullStrings = 1) ∧
    (outcome ⟨noTexts, 0, postText "a"⟩
      (Server.start 0 ⟨0, []⟩).context).2.answers.length = 0 := by
  have hnull : (outcome ⟨textEnvironment.throwing, 0, .sbiServer (some notifyRequest)⟩
      (Server.start 0 ⟨0, []⟩).context).2.nullStrings = 1 := by
    decide +kernel
  refine ⟨?_, ⟨by decide +kernel, hnull⟩, by decide +kernel⟩
  intro hall
  have honce := hall ⟨textEnvironment.throwing, 0, .sbiServer (some notifyRequest)⟩
    notifyRequest rfl
  exact absurd (hnull.symm.trans honce.nullStrings) (by decide)

end Turn

end Handling

end Mbstf.Session
