import Mbstf.Session.Constructors
import Mbstf.Session.Requests

/-!
# How a posted session is classified

A posted session should be answered with 501 when no controller supports its operating
mode, with 400 when the controller for the mode turns it down, and get that controller
otherwise.  What it is answered with depends on the exceptions that the constructors
throw: only a `std::runtime_error` makes a 400.
-/

namespace Mbstf.Session

/-! ## Trying the constructors -/

/-- The controller for an operating mode. -/
def controllerFor (mode : String) : Option ControllerKind :=
  if mode = "SINGLE" then some .objectList
  else if mode = "STREAMING" then some .objectStreaming
  else none

/-- The registered constructor of a controller. -/
def constructorOf (surroundings : Surroundings) : ControllerKind → Construct Controller
  | .objectList => objectListController surroundings
  | .objectStreaming => objectStreamingController surroundings

section

variable {constructor : Construct Controller} {rest : List (Construct Controller)}
variable {session after : DistSession}

theorem tryConstructors_of_ok {controller : Controller}
    (hexec : constructor.exec session = (.ok controller, after)) :
    tryConstructors (constructor :: rest) session = (.ok (some controller), after) := by
  rw [tryConstructors, hexec]

theorem tryConstructors_of_runtimeError {exception : StdException}
    (hexec : constructor.exec session = (.error exception, after))
    (hruntime : exception.isRuntimeError = true) :
    tryConstructors (constructor :: rest) session = (.error exception, after) := by
  rw [tryConstructors, hexec]
  dsimp only
  rw [if_pos hruntime]

theorem tryConstructors_of_logicError {exception : StdException}
    (hexec : constructor.exec session = (.error exception, after))
    (hlogic : exception.isRuntimeError = false) :
    tryConstructors (constructor :: rest) session = tryConstructors rest after := by
  rw [tryConstructors, hexec]
  dsimp only
  rw [if_neg (ne_true_of_eq_false hlogic)]

end

section

variable (surroundings : Surroundings) {session : DistSession}

/-- The streaming controller turns a session down for what it says about acquisition,
whoever asks. -/
theorem tryStreaming_of_rejects (hrejects : session.ManifestRejects) :
    ∃ exception after, tryConstructors [objectStreamingController surroundings] session =
      (.error exception, after) := by
  obtain ⟨exception, hexec, hruntime⟩ :=
    exec_objectStreamingController_of_rejects surroundings session hrejects
  exact ⟨exception, session, tryConstructors_of_runtimeError hexec hruntime⟩

/-- Otherwise it passes a session of another mode on, to nobody. -/
theorem tryStreaming_of_mode (haccepts : ¬ session.ManifestRejects)
    (hmode : session.getObjectDistributionOperatingMode ≠ "STREAMING") :
    ∃ after, tryConstructors [objectStreamingController surroundings] session =
      (.ok none, after) := by
  obtain ⟨exception, hexec, hlogic⟩ :=
    exec_objectStreamingController_of_mode surroundings session haccepts hmode
  exact ⟨_, tryConstructors_of_logicError hexec hlogic⟩

/-- The list controller passes a session of another mode on as it is. -/
theorem makeController_of_mode (hmode : session.getObjectDistributionOperatingMode ≠ "SINGLE") :
    makeController surroundings session =
      tryConstructors [objectStreamingController surroundings] session := by
  obtain ⟨exception, hexec, hlogic⟩ :=
    exec_objectListController_of_mode surroundings session hmode
  exact tryConstructors_of_logicError hexec hlogic

end

/-! ## The answers -/

/-- A `POST` of a session description that can be parsed. -/
structure SessionPost {Json : Type} (env : Environment Json) where
  number : ℕ
  context : Context
  request : SBIRequest
  json : Json
  session : DistSession
  service : request.serviceName = "nmbstf-distsession"
  version : request.apiVersion = "v1"
  resource : request.resourceComponents = ["dist-sessions"]
  method : request.method = "POST"
  contentType : request.headerValue "Content-Type" "" = "application/json"
  parsed : env.parse request.content = .ok json
  created : env.createReqData json = .ok session

namespace SessionPost

variable {Json : Type} {env : Environment Json} (post : SessionPost env)

/-- What the factory makes of the posted session. -/
def made : Except StdException (Option Controller) × DistSession :=
  makeController env.surroundings post.session

/-- The request is answered with a status. -/
def Answers (status : ℕ) : Prop :=
  (processEvent env post.number post.context (.sbiServer (some post.request))).response.map
    SBIResponse.status = some status

/-- The controller that is to handle the session, if there is one. -/
def handler : Option ControllerKind :=
  controllerFor post.session.getObjectDistributionOperatingMode

/-- A posted session is classified by its operating mode, and by what the controller for
that mode says to it. -/
structure Classified : Prop where
  notImplemented : post.Answers 501 ↔ post.handler = none
  badRequest : post.Answers 400 ↔ ∃ kind, post.handler = some kind ∧
    ∃ exception after,
      (constructorOf env.surroundings kind).exec post.session = (.error exception, after)
  handled : ∀ kind controller after, post.handler = some kind →
    (constructorOf env.surroundings kind).exec post.session = (.ok controller, after) →
      post.made = (.ok (some controller), after) ∧ controller.kind = kind

theorem processEvent_eq :
    processEvent env post.number post.context (.sbiServer (some post.request)) =
      processPost env post.number post.context post.request := by
  have hfirst : post.request.resourceComponent 0 = some "dist-sessions" := by
    rw [SBIRequest.resourceComponent, post.resource]
    rfl
  rw [processEvent, if_neg (not_not.mpr post.service), if_neg (not_not.mpr post.version), hfirst]
  dsimp only
  rw [if_pos rfl, processDistSessions, if_pos post.method]

variable {post}

theorem answers_of_error {response : SBIResponse} {status : ℕ}
    (hposted : postedSession env post.number post.request = .error response) :
    post.Answers status ↔ response.status = status := by
  have hsecond : post.request.resourceComponent 1 = none := by
    rw [SBIRequest.resourceComponent, post.resource]
    rfl
  rw [Answers, processEvent_eq, processPost, hsecond]
  dsimp only
  rw [hposted]
  exact Option.some_inj

/-- A session with a controller is answered with 201, or not at all when the load cannot
be added up. -/
theorem answers_of_ok {session : DistributionSession} {status : ℕ}
    (hposted : postedSession env post.number post.request = .ok session)
    (hanswers : post.Answers status) : status = 201 := by
  have hsecond : post.request.resourceComponent 1 = none := by
    rw [SBIRequest.resourceComponent, post.resource]
    rfl
  rw [Answers, processEvent_eq, processPost, hsecond] at hanswers
  dsimp only at hanswers
  rw [hposted] at hanswers
  dsimp only at hanswers
  split at hanswers
  case h_1 exception after hadd => cases hanswers
  case h_2 added after hadd =>
      obtain ⟨response, hresponse, hstatus, -⟩ := sessionResponse_ok env after 201
        (post.request.uri ++ "/" ++ session.distributionSessionId) session
      rw [hresponse] at hanswers
      rw [← hstatus]
      exact (Option.some.inj hanswers).symm

/-- The three things that the factory can say, and the answer to each. -/
theorem answers_cases (post : SessionPost env) :
    (∃ exception after, post.made = (.error exception, after) ∧
        ∀ status, post.Answers status ↔ 400 = status) ∨
      (∃ after, post.made = (.ok none, after) ∧ ∀ status, post.Answers status ↔ 501 = status) ∨
      (∃ controller after, post.made = (.ok (some controller), after) ∧
        ∀ status, post.Answers status → status = 201) := by
  have hposted : ∀ posted, posted = postedSession env post.number post.request →
      (∃ exception after, post.made = (.error exception, after) ∧
          ∃ response, posted = .error response ∧ response.status = 400) ∨
        (∃ after, post.made = (.ok none, after) ∧
          ∃ response, posted = .error response ∧ response.status = 501) ∨
        (∃ controller after, post.made = (.ok (some controller), after) ∧
          ∃ session, posted = .ok session) := by
    rintro posted rfl
    rw [postedSession, if_neg (not_not.mpr post.contentType), post.parsed]
    dsimp only
    rw [newDistributionSession, post.created, Except.map]
    dsimp only
    rw [← made]
    obtain ⟨_ | _ | controller, after⟩ := post.made
    · exact Or.inl ⟨_, after, rfl, _, rfl, rfl⟩
    · exact Or.inr (Or.inl ⟨after, rfl, _, rfl, rfl⟩)
    · exact Or.inr (Or.inr ⟨controller, after, rfl, _, rfl⟩)
  rcases hposted _ rfl with ⟨exception, after, hmade, response, hresponse, hstatus⟩ |
    ⟨after, hmade, response, hresponse, hstatus⟩ | ⟨controller, after, hmade, session, hsession⟩
  · exact Or.inl ⟨exception, after, hmade, fun status => hstatus ▸ answers_of_error hresponse⟩
  · exact Or.inr (Or.inl ⟨after, hmade, fun status => hstatus ▸ answers_of_error hresponse⟩)
  · exact Or.inr (Or.inr ⟨controller, after, hmade, fun status => answers_of_ok hsession⟩)

theorem answers_notImplemented_iff :
    post.Answers 501 ↔ ∃ after, post.made = (.ok none, after) := by
  rcases answers_cases post with ⟨exception, after, hmade, hanswers⟩ |
    ⟨after, hmade, hanswers⟩ | ⟨controller, after, hmade, hanswers⟩
  · rw [hanswers, hmade]
    simp
  · rw [hanswers, hmade]
    simp
  · rw [hmade]
    exact iff_of_false (fun hanswered => absurd (hanswers 501 hanswered) (by decide)) (by simp)

theorem answers_badRequest_iff :
    post.Answers 400 ↔ ∃ exception after, post.made = (.error exception, after) := by
  rcases answers_cases post with ⟨exception, after, hmade, hanswers⟩ |
    ⟨after, hmade, hanswers⟩ | ⟨controller, after, hmade, hanswers⟩
  · rw [hanswers, hmade]
    simp
  · rw [hanswers, hmade]
    simp
  · rw [hmade]
    exact iff_of_false (fun hanswered => absurd (hanswers 400 hanswered) (by decide)) (by simp)

/-! ## The classification -/

theorem classified_of_unhandled (hhandler : post.handler = none) :
    post.Classified ↔ ∃ after, post.made = (.ok none, after) := by
  constructor
  · intro hclassified
    exact answers_notImplemented_iff.mp (hclassified.notImplemented.mpr hhandler)
  · rintro ⟨after, hmade⟩
    refine ⟨?_, ?_, ?_⟩
    · exact iff_of_true (answers_notImplemented_iff.mpr ⟨after, hmade⟩) hhandler
    · rw [answers_badRequest_iff, hmade, hhandler]
      simp
    · intro kind controller handled hkind
      rw [hhandler] at hkind
      cases hkind

section

variable {kind : ControllerKind} {after : DistSession}

theorem classified_of_thrown (hhandler : post.handler = some kind) {exception : StdException}
    (hexec : (constructorOf env.surroundings kind).exec post.session = (.error exception, after)) :
    post.Classified ↔ ∃ exception after, post.made = (.error exception, after) := by
  constructor
  · intro hclassified
    exact answers_badRequest_iff.mp
      (hclassified.badRequest.mpr ⟨kind, hhandler, exception, after, hexec⟩)
  · rintro ⟨thrown, left, hmade⟩
    refine ⟨?_, ?_, ?_⟩
    · rw [answers_notImplemented_iff, hmade, hhandler]
      simp
    · exact iff_of_true (answers_badRequest_iff.mpr ⟨thrown, left, hmade⟩)
        ⟨kind, hhandler, exception, after, hexec⟩
    · intro other controller handled hother hok
      obtain rfl := Option.some.inj (hhandler.symm.trans hother)
      rw [hexec] at hok
      cases hok

theorem classified_of_constructed (hhandler : post.handler = some kind) {controller : Controller}
    (hkind : controller.kind = kind)
    (hexec : (constructorOf env.surroundings kind).exec post.session = (.ok controller, after))
    (hmade : post.made = (.ok (some controller), after)) : post.Classified := by
  refine ⟨?_, ?_, ?_⟩
  · rw [answers_notImplemented_iff, hmade, hhandler]
    simp
  · rw [answers_badRequest_iff, hmade]
    refine iff_of_false (by simp) ?_
    rintro ⟨other, hother, exception, left, hthrown⟩
    obtain rfl := Option.some.inj (hhandler.symm.trans hother)
    rw [hexec] at hthrown
    cases hthrown
  · intro other made handled hother hok
    obtain rfl := Option.some.inj (hhandler.symm.trans hother)
    rw [hexec] at hok
    obtain ⟨hmadeOf, rfl⟩ := Prod.mk.inj hok
    obtain rfl := Except.ok.inj hmadeOf
    exact ⟨hmade, hkind⟩

end

theorem classified_of_single
    (hmode : post.session.getObjectDistributionOperatingMode = "SINGLE") :
    post.Classified ↔
      post.session.HasRate ∨ post.session.ManifestRejects ∨ post.session.ListRejects := by
  have hhandler : post.handler = some .objectList := if_pos hmode
  by_cases hlist : post.session.ListRejects
  · obtain ⟨exception, hexec, hruntime⟩ :=
      exec_objectListController_of_rejects env.surroundings post.session hlist
    refine iff_of_true ((classified_of_thrown hhandler hexec).mpr ?_) (Or.inr (Or.inr hlist))
    exact ⟨_, _, tryConstructors_of_runtimeError hexec hruntime⟩
  have hexec := exec_objectListController_of_accepts env.surroundings post.session hmode hlist
  by_cases hable : post.session.Packageable env.surroundings
  · obtain ⟨packager, hpackager⟩ :=
      objectListPackager_of_packageable env.surroundings post.session hable
    rw [hpackager] at hexec
    refine iff_of_true ?_ (Or.inl hable.1)
    exact classified_of_constructed hhandler rfl hexec (tryConstructors_of_ok hexec)
  obtain ⟨exception, hpackager, hruntime⟩ :=
    objectListPackager_of_not_packageable env.surroundings post.session hable
  rw [hpackager] at hexec
  rw [classified_of_thrown hhandler hexec]
  by_cases hrate : post.session.HasRate
  · exact iff_of_true ⟨_, _, tryConstructors_of_runtimeError hexec (hruntime.mpr hrate)⟩
      (Or.inl hrate)
  -- The exception of the bit rate is passed over, and the streaming controller is asked.
  have hlogic : exception.isRuntimeError = false :=
    eq_false_of_ne_true fun htrue => hrate (hruntime.mp htrue)
  have hnext : post.made = tryConstructors [objectStreamingController env.surroundings]
      (post.session.ingested env.surroundings) := tryConstructors_of_logicError hexec hlogic
  rw [hnext]
  by_cases hrejects : post.session.ManifestRejects
  · exact iff_of_true (tryStreaming_of_rejects env.surroundings
      ((DistSession.manifestRejects_ingested env.surroundings).mpr hrejects))
      (Or.inr (Or.inl hrejects))
  · have hnot : (post.session.ingested env.surroundings).getObjectDistributionOperatingMode ≠
        "STREAMING" := by
      rw [DistSession.operatingMode_ingested, hmode]
      decide
    obtain ⟨after, hnone⟩ := tryStreaming_of_mode env.surroundings
      (mt (DistSession.manifestRejects_ingested env.surroundings).mp hrejects) hnot
    rw [hnone]
    exact iff_of_false (by simp) (by simp [hrate, hrejects, hlist])

theorem classified_of_streaming
    (hmode : post.session.getObjectDistributionOperatingMode = "STREAMING") :
    post.Classified ↔ post.session.HasRate ∨ post.session.ManifestRejects := by
  have hnotSingle : post.session.getObjectDistributionOperatingMode ≠ "SINGLE" := by
    rw [hmode]
    decide
  have hhandler : post.handler = some .objectStreaming := by
    rw [handler, controllerFor, if_neg hnotSingle, if_pos hmode]
  have hmade : post.made = tryConstructors [objectStreamingController env.surroundings]
      post.session := makeController_of_mode env.surroundings hnotSingle
  by_cases hrejects : post.session.ManifestRejects
  · obtain ⟨exception, hexec, hruntime⟩ :=
      exec_objectStreamingController_of_rejects env.surroundings post.session hrejects
    refine iff_of_true ((classified_of_thrown hhandler hexec).mpr ?_) (Or.inr hrejects)
    rw [hmade]
    exact tryStreaming_of_rejects env.surroundings hrejects
  have hexec := exec_objectStreamingController_of_accepts env.surroundings post.session
    hrejects hmode
  by_cases hable : post.session.Packageable env.surroundings
  · obtain ⟨packager, hpackager⟩ :=
      objectListPackager_of_packageable env.surroundings post.session hable
    rw [hpackager] at hexec
    refine iff_of_true ?_ (Or.inl hable.1)
    exact classified_of_constructed hhandler rfl hexec (hmade.trans (tryConstructors_of_ok hexec))
  obtain ⟨exception, hpackager, hruntime⟩ :=
    objectListPackager_of_not_packageable env.surroundings post.session hable
  rw [hpackager] at hexec
  rw [classified_of_thrown hhandler hexec, hmade]
  by_cases hrate : post.session.HasRate
  · exact iff_of_true ⟨_, _, tryConstructors_of_runtimeError hexec (hruntime.mpr hrate)⟩
      (Or.inl hrate)
  · have hlogic : exception.isRuntimeError = false :=
      eq_false_of_ne_true fun htrue => hrate (hruntime.mp htrue)
    rw [tryConstructors_of_logicError hexec hlogic]
    exact iff_of_false (by simp [tryConstructors]) (by simp [hrate, hrejects])

theorem classified_of_other
    (hsingle : post.session.getObjectDistributionOperatingMode ≠ "SINGLE")
    (hstreaming : post.session.getObjectDistributionOperatingMode ≠ "STREAMING") :
    post.Classified ↔ ¬ post.session.ManifestRejects := by
  have hhandler : post.handler = none := by
    rw [handler, controllerFor, if_neg hsingle, if_neg hstreaming]
  have hmade : post.made = tryConstructors [objectStreamingController env.surroundings]
      post.session := makeController_of_mode env.surroundings hsingle
  rw [classified_of_unhandled hhandler, hmade]
  by_cases hrejects : post.session.ManifestRejects
  · obtain ⟨exception, after, herror⟩ := tryStreaming_of_rejects env.surroundings hrejects
    rw [herror]
    exact iff_of_false (by simp) (not_not.mpr hrejects)
  · exact iff_of_true (tryStreaming_of_mode env.surroundings hrejects hstreaming) hrejects

/-- A posted session is classified rightly just when the exceptions are of the right types:
no streaming session is seen in one that no controller supports, and a bit rate that cannot
be read is not the only fault of one that is supported. -/
theorem classified_iff :
    post.Classified ↔
      (post.handler = none → ¬ post.session.ManifestRejects) ∧
        (post.handler ≠ none → post.session.HasRate ∨ post.session.ManifestRejects ∨
          post.session.ListRejects) := by
  by_cases hsingle : post.session.getObjectDistributionOperatingMode = "SINGLE"
  · have hhandler : post.handler = some .objectList := if_pos hsingle
    rw [classified_of_single hsingle, hhandler]
    simp
  · have hlist : ¬ post.session.ListRejects := fun hrejects => hsingle hrejects.2.1
    by_cases hstreaming : post.session.getObjectDistributionOperatingMode = "STREAMING"
    · have hhandler : post.handler = some .objectStreaming := by
        rw [handler, controllerFor, if_neg hsingle, if_pos hstreaming]
      rw [classified_of_streaming hstreaming, hhandler]
      simp [hlist]
    · have hhandler : post.handler = none := by
        rw [handler, controllerFor, if_neg hsingle, if_neg hstreaming]
      rw [classified_of_other hsingle hstreaming, hhandler]
      simp

/-! ## Two sessions that are not -/

/-- An environment in which every text describes one session. -/
def describing (session : DistSession) : Environment Unit where
  surroundings := ⟨"", fun _ => true⟩
  parse _ := .ok ()
  serialise _ := "\x7b\x7d"
  serialise_ne_empty _ := by decide
  createReqData _ := .ok session
  toJSON _ := ()
  calculateHash text := text

/-- A `POST` of a session to an empty context. -/
def postOf (session : DistSession) : SessionPost (describing session) where
  number := 0
  context := ⟨∅, 60, ⟨0, []⟩⟩
  request := {
    serviceName := "nmbstf-distsession"
    apiVersion := "v1"
    resourceComponents := ["dist-sessions"]
    method := "POST"
    uri := "/nmbstf-distsession/v1/dist-sessions"
    headers := [("Content-Type", "application/json")]
    content := some "\x7b\x7d"
    now := 0 }
  json := ()
  session := session
  service := rfl
  version := rfl
  resource := rfl
  method := rfl
  contentType := by decide
  parsed := rfl
  created := rfl

/-- A session that pulls, in some mode, from some URLs and at some bit rate. -/
def pulling (mode : String) (urls : List (Option String)) (mbr : Option String) : DistSession where
  distSessionId := "1"
  distSessionState := none
  mbr := mbr
  objDistributionData := some {
    objDistributionOperatingMode := mode
    objAcquisitionMethod := "PULL"
    objAcquisitionIdsPull := some urls
    objAcquisitionIdPush := none
    objIngestBaseUrl := none
    objDistributionBaseUrl := none }
  upTrafficFlowInfo := none
  mbUpfTunAddr := none
  others := ""

/-- A bit rate that cannot be read is answered as a mode that nobody supports, and two URLs
in a mode that nobody supports as a fault of the parameters. -/
theorem fast_and_carousel_not_classified :
    ((postOf (pulling "SINGLE" [some "http://a/b"] (some "fast"))).Answers 501 ∧
      ¬ (postOf (pulling "SINGLE" [some "http://a/b"] (some "fast"))).Classified) ∧
    (postOf (pulling "CAROUSEL" [some "http://a/b", some "http://a/c"] none)).Answers 400 ∧
      ¬ (postOf (pulling "CAROUSEL" [some "http://a/b", some "http://a/c"] none)).Classified := by
  have hfast : (postOf (pulling "SINGLE" [some "http://a/b"] (some "fast"))).Answers 501 :=
    answers_notImplemented_iff.mpr ⟨_, rfl⟩
  have hcarousel : (postOf (pulling "CAROUSEL" [some "http://a/b", some "http://a/c"]
      none)).Answers 400 :=
    answers_badRequest_iff.mpr ⟨_, _, rfl⟩
  refine ⟨⟨hfast, ?_⟩, hcarousel, ?_⟩
  · intro hclassified
    exact absurd (hclassified.notImplemented.mp hfast) (by decide)
  · intro hclassified
    obtain ⟨kind, hkind, -⟩ := hclassified.badRequest.mp hcarousel
    cases hkind

end SessionPost

end Mbstf.Session
