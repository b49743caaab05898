import Mbstf.Session.DistSession

/-!
# Controllers

The factory tries the registered controllers by priority.  A constructor that
throws a `std::runtime_error` ends the search with that exception; any other
exception means that the controller does not handle the session, and the next one
is tried.  The constructors write to the session they are given, and what they
wrote stays when they throw.
-/

namespace Mbstf.Session

/-- What the constructors use from outside the repository: the URL prefix of a
push ingest server, and whether an address is one for `address::from_string`. -/
structure Surroundings where
  ingestServerPrefix : String
  isAddress : String → Bool

/-- Code that works on a session and may throw. -/
abbrev Construct := ExceptT StdException (StateM DistSession)

/-- The result and the session as it is left. -/
def Construct.exec {Value : Type} (code : Construct Value) (session : DistSession) :
    Except StdException Value × DistSession :=
  code.run.run session

/-- `PullObjectIngester::IngestItem`, without its generated object id. -/
structure IngestItem where
  url : String
  acquisitionId : String
  objIngestBaseUrl : Option String
  objDistributionBaseUrl : Option String
  deriving DecidableEq

/-- The arguments of the `ObjectListPackager` constructor. -/
structure PackagerParameters where
  address : Option String
  rateLimit : ℕ
  mtu : ℕ
  port : ℕ
  tunnelAddress : Option String
  tunnelPort : ℕ
  deriving DecidableEq

inductive ControllerKind where
  | objectList
  | objectStreaming
  deriving DecidableEq

/-- A controller as its constructor leaves it. -/
structure Controller where
  kind : ControllerKind
  pullIngester : Option (List IngestItem)
  pushIngester : Bool
  packager : PackagerParameters

/-! ## Ingesters -/

/-- `trim_slashes(const std::string&)`; of a single slash both ends are the same. -/
def trimSlashes (path : String) : String :=
  let start := if path.toList.head? = some '/' then 1 else 0
  let stop := if path.toList.getLast? = some '/' then path.length - 1 else path.length
  String.ofList ((path.toList.take stop).drop start)

/-- The tests for an absolute URL. -/
def isAbsoluteUrl (url : String) : Bool :=
  "https:".toList.isPrefixOf url.toList || "http:".toList.isPrefixOf url.toList ||
    "//".toList.isPrefixOf url.toList

/-- The base URL, a slash if it has none at its end, and the trimmed URL. -/
def joinUrl (base url : String) : String :=
  let withSlash := if base.toList.getLast? = some '/' then base else base ++ "/"
  withSlash ++ trimSlashes url

/-- One turn of the loop of `initPullObjectIngester`. -/
def ingestItem (ingestBase distributionBase url : Option String) : Option IngestItem :=
  url.bind fun url =>
    match ingestBase with
    | none => some ⟨"", url, none, distributionBase⟩
    | some base =>
        if isAbsoluteUrl url then none
        else some ⟨joinUrl base url, url, some base, distributionBase⟩

/-- `initPullObjectIngester()`, the same text in both controllers. -/
def initPullObjectIngester (session : DistSession) : Option (List IngestItem) :=
  session.getObjectAcquisitionPullUrls.map fun urls =>
    urls.filterMap
      (ingestItem session.getObjectIngestBaseUrl session.objectDistributionBaseUrl)

/-- `initObjectIngester()`, the same text in both controllers: the pull items, and
whether there is a push ingester. -/
def initObjectIngester (surroundings : Surroundings) :
    Construct (Option (List IngestItem) × Bool) := do
  let session ← get
  if session.getObjectAcquisitionMethod = "PULL" then
    return (initPullObjectIngester session, false)
  else if session.getObjectAcquisitionMethod = "PUSH" then
    set (session.setObjectIngestBaseUrl surroundings.ingestServerPrefix)
    return (none, true)
  else return (none, false)

/-- The constructor of the packager that `setObjectListPackager()` makes.  It throws
a `boost::system::system_error` for a tunnel address that is none. -/
def objectListPackager (surroundings : Surroundings) (session : DistSession) :
    Except StdException PackagerParameters := do
  let rateLimit ← session.getRateLimit
  if session.getTunnelAddr.all surroundings.isAddress then
    return {
      address := session.getDestIpAddr, rateLimit := rateLimit, mtu := 1490
      port := session.getPortNumber, tunnelAddress := session.getTunnelAddr
      tunnelPort := session.getTunnelPortNumber }
  else throw ⟨.runtimeError, "Invalid argument"⟩

/-- `setObjectListPackager()`, the same text in both controllers. -/
def setObjectListPackager (surroundings : Surroundings) : Construct PackagerParameters := do
  let session ← get
  objectListPackager surroundings session

/-! ## The two constructors -/

/-- `validate_distribution_session` of `ObjectListController.cc`. -/
def validateListSession (session : DistSession) : Bool :=
  !(session.getObjectAcquisitionMethod = "PUSH" ∧
    session.getObjectDistributionOperatingMode = "SINGLE" ∧
    session.getObjectAcquisitionPushId.isSome)

/-- `ObjectListController(DistributionSession&)`. -/
def objectListController (surroundings : Surroundings) : Construct Controller := do
  let session ← get
  if session.getObjectDistributionOperatingMode ≠ "SINGLE" then
    throw ⟨.logicError, "Expected objDistributionOperatingMode to be set to SINGLE."⟩
  if !validateListSession session then throw ⟨.runtimeError, "Invalid Distribution Session"⟩
  let (pullIngester, pushIngester) ← initObjectIngester surroundings
  let packager ← setObjectListPackager surroundings
  return ⟨.objectList, pullIngester, pushIngester, packager⟩

/-- `validate_pull_acquisition_method`. -/
def validatePullAcquisitionMethod : Construct Unit := do
  let session ← get
  if session.getObjectAcquisitionMethod = "PULL" then
    match session.getObjectAcquisitionPullUrls with
    | some urls =>
        if urls.length ≠ 1 then
          throw ⟨.runtimeError, "objAcquisitionIdsPull must contain exactly one item when " ++
            "objDistributionOperatingMode is set to " ++
            session.getObjectDistributionOperatingMode⟩
    | none => pure ()
    if session.getObjectAcquisitionPushId.isSome then
      throw ⟨.runtimeError, "objAcquisitionIdPush must not be present when " ++
        "objAcquisitionMethod is set to " ++ session.getObjectAcquisitionMethod⟩

/-- `validate_push_acquisition_method`: an absent push id becomes `manifest`. -/
def validatePushAcquisitionMethod : Construct Unit := do
  let session ← get
  if session.getObjectAcquisitionMethod = "PUSH" then
    if session.getObjectAcquisitionPullUrls.isSome then
      throw ⟨.runtimeError, "objAcquisitionIdsPull must not be present when " ++
        "objAcquisitionMethod is set to " ++ session.getObjectAcquisitionMethod⟩
    if session.getObjectAcquisitionPushId.isNone then
      set (session.setObjectAcquisitionIdPush (some "manifest"))

/-- `ObjectManifestController(DistributionSession&)`. -/
def objectManifestController (surroundings : Surroundings) :
    Construct (Option (List IngestItem) × Bool) := do
  validatePullAcquisitionMethod
  validatePushAcquisitionMethod
  initObjectIngester surroundings

/-- `ObjectStreamingController(DistributionSession&)`: the operating mode is looked
at after the ingesters are started. -/
def objectStreamingController (surroundings : Surroundings) : Construct Controller := do
  let (pullIngester, pushIngester) ← objectManifestController surroundings
  let session ← get
  if session.getObjectDistributionOperatingMode ≠ "STREAMING" then
    throw ⟨.logicError, "Expected objDistributionOperatingMode to be set to STREAMING."⟩
  let packager ← setObjectListPackager surroundings
  return ⟨.objectStreaming, pullIngester, pushIngester, packager⟩

/-! ## The factory -/

/-- The registered constructors, `factoryPriority()` 100 before 50. -/
def constructors (surroundings : Surroundings) : List (Construct Controller) :=
  [objectListController surroundings, objectStreamingController surroundings]

/-- The loop of `ControllerFactory::makeController`; `none` is the null pointer. -/
def tryConstructors : List (Construct Controller) → DistSession →
    Except StdException (Option Controller) × DistSession
  | [], session => (.ok none, session)
  | constructor :: rest, session =>
      match constructor.exec session with
      | (.ok controller, after) => (.ok (some controller), after)
      | (.error exception, after) =>
          if exception.isRuntimeError then (.error exception, after)
          else tryConstructors rest after

/-- `ControllerFactory::makeController(DistributionSession&)`. -/
def makeController (surroundings : Surroundings) (session : DistSession) :
    Except StdException (Option Controller) × DistSession :=
  tryConstructors (constructors surroundings) session

/-! ## What a controller says about its session -/

namespace Construct

variable {First Value : Type} {property : DistSession → Prop}

/-- Code that returns leaves a session with a property. -/
def Yields (property : DistSession → Prop) (code : Construct Value) : Prop :=
  ∀ session value after, code.exec session = (.ok value, after) → property after

theorem exec_bind (code : Construct First) (rest : First → Construct Value)
    (session : DistSession) :
    (code >>= rest).exec session =
      match code.exec session with
      | (.ok first, middle) => (rest first).exec middle
      | (.error exception, middle) => (.error exception, middle) := by
  rw [exec, exec, ExceptT.run_bind, StateT.run_bind]
  cases code.run.run session with
  | mk result middle =>
      cases result with
      | ok first => rfl
      | error exception => rfl

/-- What comes last decides. -/
theorem Yields.bind (code : Construct First) {rest : First → Construct Value}
    (hrest : ∀ first, Yields property (rest first)) : Yields property (code >>= rest) := by
  intro session value after hexec
  rw [exec_bind] at hexec
  split at hexec
  case h_1 first middle hcode => exact hrest first middle value after hexec
  case h_2 exception middle hcode => cases hexec

theorem Yields.bind_pure {code : Construct First} (hcode : Yields property code)
    (result : First → Value) :
    Yields property (code >>= fun first => pure (result first)) := by
  intro session value after hexec
  rw [exec_bind] at hexec
  split at hexec
  case h_1 first middle hfirst =>
      obtain rfl : middle = after := (Prod.mk.inj hexec).2
      exact hcode session first middle hfirst
  case h_2 exception middle hfirst => cases hexec

theorem Yields.throw_bind (exception : StdException) (rest : First → Construct Value) :
    Yields property ((throw exception : Construct First) >>= rest) := by
  intro session value after hexec
  rw [exec_bind] at hexec
  cases hexec

end Construct

theorem exec_setObjectListPackager (surroundings : Surroundings) (session : DistSession) :
    (setObjectListPackager surroundings).exec session =
      (objectListPackager surroundings session, session) := by
  rw [setObjectListPackager, Construct.exec_bind]
  change Construct.exec (liftM (objectListPackager surroundings session)) session = _
  cases objectListPackager surroundings session with
  | ok packager => rfl
  | error exception => rfl

/-- The packager is made with a rate limit. -/
theorem hasRate_of_objectListPackager {surroundings : Surroundings} {session : DistSession}
    {packager : PackagerParameters}
    (hpackager : objectListPackager surroundings session = .ok packager) : session.HasRate := by
  cases hmbr : session.getMbr with
  | ok mbr => exact ⟨mbr, hmbr⟩
  | error exception =>
      rw [objectListPackager, DistSession.getRateLimit, hmbr] at hpackager
      cases hpackager

theorem setObjectListPackager_yields (surroundings : Surroundings) :
    Construct.Yields DistSession.HasRate (setObjectListPackager surroundings) := by
  intro session packager after hexec
  rw [exec_setObjectListPackager] at hexec
  obtain ⟨hpackager, rfl⟩ := Prod.mk.inj hexec
  exact hasRate_of_objectListPackager hpackager

theorem objectListController_yields (surroundings : Surroundings) :
    Construct.Yields DistSession.HasRate (objectListController surroundings) := by
  apply Construct.Yields.bind
  intro session
  dsimp only
  split
  · exact Construct.Yields.throw_bind _ _
  · split
    · exact Construct.Yields.throw_bind _ _
    · apply Construct.Yields.bind
      intro ingesters
      exact (setObjectListPackager_yields surroundings).bind_pure _

theorem objectStreamingController_yields (surroundings : Surroundings) :
    Construct.Yields DistSession.HasRate (objectStreamingController surroundings) := by
  apply Construct.Yields.bind
  intro ingesters
  apply Construct.Yields.bind
  intro session
  dsimp only
  split
  · exact Construct.Yields.throw_bind _ _
  · exact (setObjectListPackager_yields surroundings).bind_pure _

theorem tryConstructors_hasRate {constructors : List (Construct Controller)}
    (hall : ∀ constructor ∈ constructors, Construct.Yields DistSession.HasRate constructor)
    {session after : DistSession} {controller : Controller}
    (hmade : tryConstructors constructors session = (.ok (some controller), after)) :
    after.HasRate := by
  induction constructors generalizing session with
  | nil => cases hmade
  | cons constructor rest ih =>
      have hrest : ∀ other ∈ rest, Construct.Yields DistSession.HasRate other :=
        fun other hother => hall other (List.mem_cons_of_mem constructor hother)
      unfold tryConstructors at hmade
      split at hmade
      case h_1 made middle hexec =>
          obtain ⟨-, rfl⟩ := Prod.mk.inj hmade
          exact hall constructor List.mem_cons_self session made middle hexec
      case h_2 exception middle hexec =>
          split at hmade
          · cases hmade
          · exact ih hrest hmade

/-- A session with a controller has a bit rate that can be read. -/
theorem makeController_hasRate {surroundings : Surroundings} {session after : DistSession}
    {controller : Controller}
    (hmade : makeController surroundings session = (.ok (some controller), after)) :
    after.HasRate := by
  apply tryConstructors_hasRate _ hmade
  intro constructor hconstructor
  rw [constructors, List.mem_pair] at hconstructor
  cases hconstructor with
  | inl hlist => exact hlist ▸ objectListController_yields surroundings
  | inr hstreaming => exact hstreaming ▸ objectStreamingController_yields surroundings

end Mbstf.Session
