import Mbstf.Objects.Packager
import Mbstf.Session.BitRate

/-!
# Distribution sessions

The part of a `DistSession` that the code reads, as the generated model classes
hold it after parsing, and the accessors of `DistributionSession`.  The generated
classes are not part of the repository; their optional fields are options here.
-/

namespace Mbstf.Session

open Mbstf.Objects

/-- `DistSessionState`, as far as the code looks at it. -/
inductive DistSessionState where
  | noVal
  | valActive
  | other (name : String)
  deriving DecidableEq

/-- `ObjDistributionData`. -/
structure ObjDistributionData where
  objDistributionOperatingMode : String
  objAcquisitionMethod : String
  objAcquisitionIdsPull : Option (List (Option String))
  objAcquisitionIdPush : Option String
  objIngestBaseUrl : Option String
  objDistributionBaseUrl : Option String
  deriving DecidableEq

/-- `UpTrafficFlowInfo`; an absent address and one without an IPv4 address are the
same to the code. -/
structure UpTrafficFlowInfo where
  destIpv4Addr : Option String
  portNumber : ℕ
  deriving DecidableEq

/-- `TunnelAddress`. -/
structure TunnelAddress where
  ipv4Addr : Option String
  portNumber : ℕ
  deriving DecidableEq

/-- `DistSession`; `others` stands for the members the code never looks at, which go
into the answers with the rest. -/
structure DistSession where
  distSessionId : String
  distSessionState : Option DistSessionState
  mbr : Option String
  objDistributionData : Option ObjDistributionData
  upTrafficFlowInfo : Option UpTrafficFlowInfo
  mbUpfTunAddr : Option TunnelAddress
  others : String
  deriving DecidableEq

namespace DistSession

variable (session : DistSession)

/-- `getState()`. -/
def getState : DistSessionState := session.distSessionState.getD .noVal

/-- `getMbr()`. -/
def getMbr : Except StdException (Option BitRate) :=
  match session.mbr with
  | some mbr => (bitRate mbr).map some
  | none => .ok none

/-- The bit rate of a session, if it has one, can be read. -/
def HasRate : Prop := ∃ mbr, session.getMbr = .ok mbr

/-- `getRateLimit()`, in Kbps.  The handlers in it are around a conversion that
throws nothing. -/
def getRateLimit : Except StdException ℕ := do
  match ← session.getMbr with
  | some mbr => return staticCastUInt32 (mbr.bitRate.div 1000).round
  | none => return 0

/-- `getObjectDistributionOperatingMode()`. -/
def getObjectDistributionOperatingMode : String :=
  (session.objDistributionData.map ObjDistributionData.objDistributionOperatingMode).getD ""

/-- `getObjectAcquisitionMethod()`. -/
def getObjectAcquisitionMethod : String :=
  (session.objDistributionData.map ObjDistributionData.objAcquisitionMethod).getD ""

/-- `getObjectAcquisitionPullUrls()`. -/
def getObjectAcquisitionPullUrls : Option (List (Option String)) :=
  session.objDistributionData.bind ObjDistributionData.objAcquisitionIdsPull

/-- `getObjectAcquisitionPushId()`. -/
def getObjectAcquisitionPushId : Option String :=
  session.objDistributionData.bind ObjDistributionData.objAcquisitionIdPush

/-- `getObjectIngestBaseUrl()`. -/
def getObjectIngestBaseUrl : Option String :=
  session.objDistributionData.bind ObjDistributionData.objIngestBaseUrl

/-- `objectDistributionBaseUrl()`. -/
def objectDistributionBaseUrl : Option String :=
  session.objDistributionData.bind ObjDistributionData.objDistributionBaseUrl

/-- `getDestIpAddr()`. -/
def getDestIpAddr : Option String :=
  session.upTrafficFlowInfo.bind UpTrafficFlowInfo.destIpv4Addr

/-- `getPortNumber()`, a 16-bit number. -/
def getPortNumber : ℕ :=
  (session.upTrafficFlowInfo.map UpTrafficFlowInfo.portNumber).getD 0 % 2 ^ 16

/-- `getTunnelAddr()`. -/
def getTunnelAddr : Option String := session.mbUpfTunAddr.bind TunnelAddress.ipv4Addr

/-- `getTunnelPortNumber()`, a 16-bit number. -/
def getTunnelPortNumber : ℕ :=
  (session.mbUpfTunAddr.map TunnelAddress.portNumber).getD 0 % 2 ^ 16

/-- `setObjectIngestBaseUrl(std::string)`: an empty string clears it. -/
def setObjectIngestBaseUrl (ingestBaseUrl : String) : DistSession :=
  { session with
    objDistributionData := session.objDistributionData.map fun data =>
      { data with objIngestBaseUrl := if ingestBaseUrl = "" then none else some ingestBaseUrl } }

/-- `setObjectAcquisitionIdPush(std::optional<std::string>&)`. -/
def setObjectAcquisitionIdPush (id : Option String) : DistSession :=
  { session with
    objDistributionData := session.objDistributionData.map fun data =>
      { data with objAcquisitionIdPush := id } }

end DistSession

/-- A `DistributionSession`.  `createdBy` is not in the source: it is the number of
the request that made the session, and names the session among others that look
like it. -/
structure DistributionSession where
  createdBy : ℕ
  distSession : DistSession
  generated : TimePoint
  hash : String
  distributionSessionId : String

end Mbstf.Session
