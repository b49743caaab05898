import Mbstf.Ingest.Numbers
import Mbstf.Objects.Store

/-!
# Push requests

A `PushObjectIngester::Request` is made in the first call for an HTTP request, from the
header fields that matter for caching, and collects the body until the request is
processed.
-/

namespace Mbstf.Ingest

open Mbstf.Objects Mbstf.Session

/-! ## Times -/

/-- A signed 64-bit value. -/
def int64 (value : ℤ) : ℤ := value.bmod (2 ^ 64)

def nanosecondsPerSecond : ℤ := 1000000000

/-- `now + std::chrono::seconds(count)`. -/
def addSeconds (now : TimePoint) (count : ℕ) : TimePoint :=
  int64 (now + int64 (int64 count * nanosecondsPerSecond))

/-- `ObjectStore::Metadata::cacheExpiry()`, in minutes. -/
def cacheExpiry : ℕ := 10

/-- `std::chrono::parse` with a format, on a text. -/
abbrev ChronoParse := String → String → Option TimePoint

/-- `std::istringstream`: the text and `failbit`, which `str` does not clear. -/
structure IStringStream where
  text : String
  fail : Bool

/-- `iss >> std::chrono::parse(format, date_time)`; a failed stream reads nothing. -/
def IStringStream.read (chronoParse : ChronoParse) (format : String) (iss : IStringStream) :
    IStringStream × Option TimePoint :=
  if iss.fail then (iss, none)
  else
    match chronoParse format iss.text with
    | some dateTime => (iss, some dateTime)
    | none => ({ iss with fail := true }, none)

/-- `parse_http_date_time(const std::optional<std::string>&)`. -/
def parseHttpDateTime (chronoParse : ChronoParse) : Option String → Option TimePoint
  | none => none
  | some text =>
      let (rfc1123, dateTime) :=
        IStringStream.read chronoParse "%a, %d %b %Y %H:%M:%S GMT" ⟨text, false⟩
      if rfc1123.fail then
        let (rfc1036, dateTime) :=
          IStringStream.read chronoParse "%A, %d-%b-%y %H:%M:%S GMT" { rfc1123 with text := text }
        if rfc1036.fail then
          let (asctime, dateTime) :=
            IStringStream.read chronoParse "%a %b %d %H:%M:%S %Y" { rfc1036 with text := text }
          if asctime.fail then none else dateTime
        else dateTime
      else dateTime

/-- Only the first format is ever read: the stream stays failed after it. -/
theorem parseHttpDateTime_eq (chronoParse : ChronoParse) (text : Option String) :
    parseHttpDateTime chronoParse text =
      text.bind (chronoParse "%a, %d %b %Y %H:%M:%S GMT") := by
  cases text with
  | none => rfl
  | some text =>
      cases hread : chronoParse "%a, %d %b %Y %H:%M:%S GMT" text with
      | none => simp [parseHttpDateTime, IStringStream.read, hread]
      | some dateTime => simp [parseHttpDateTime, IStringStream.read, hread]

/-- The lifetime that remains of a `max-age`, in seconds. -/
def remainingAge (maxAge ageVal : ℕ) : ℕ := if maxAge ≤ ageVal then 0 else maxAge - ageVal

/-- The expiry time by `Cache-Control` and `Age`; `std::stoul` may throw. -/
def headerExpiry (getHeader : String → Option String) (now : TimePoint) :
    Except StdException (Option TimePoint) :=
  match getHeader "Cache-Control" with
  | none => .ok none
  | some cacheControl =>
      if "max-age=".toList.isPrefixOf cacheControl.toList then
        (stoul (cacheControl.toList.drop 8)).bind fun maxAge =>
          match getHeader "Age" with
          | none => .ok (some (addSeconds now maxAge))
          | some age =>
              (stoul age.toList).map fun ageVal =>
                some (addSeconds now (remainingAge maxAge ageVal))
      else .ok none

/-! ## Requests -/

/-- `PushObjectIngester::Request`. -/
structure Request where
  objectId : String
  method : String
  urlPath : String
  protocolVersion : String
  etag : Option String
  contentType : Option String
  expires : Option TimePoint
  lastModified : Option TimePoint
  bodyBlocks : List ObjectData
  totalBodySize : ℕ
  statusCode : ℕ
  errorReason : String
  noMoreBodyData : Bool

namespace Request

/-- `Request(struct MHD_Connection*, PushObjectIngester&)`. -/
def new : Request where
  objectId := ""
  method := ""
  urlPath := ""
  protocolVersion := ""
  etag := none
  contentType := none
  expires := none
  lastModified := none
  bodyBlocks := []
  totalBodySize := 0
  statusCode := 0
  errorReason := ""
  noMoreBodyData := false

/-- `addBodyBlock(const std::vector<unsigned char>&)`. -/
def addBodyBlock (request : Request) (bodyBlock : ObjectData) : Request :=
  { request with
    bodyBlocks := request.bodyBlocks ++ [bodyBlock]
    totalBodySize := request.totalBodySize + bodyBlock.length }

/-- `completed(struct MHD_Connection*, enum MHD_RequestTerminationCode)`. -/
def completed (request : Request) : Request := { request with noMoreBodyData := true }

/-- `setError(unsigned int, const std::string&)`. -/
def setError (request : Request) (statusCode : ℕ) (reason : String) : Request × Bool :=
  if request.noMoreBodyData then (request, false)
  else ({ request with statusCode := statusCode, errorReason := reason }, true)

/-- The methods that `requestHandler` processes. -/
def Allowed (method : String) : Prop := method = "PUSH" ∨ method = "PUT" ∨ method = "POST"

instance (method : String) : Decidable (Allowed method) :=
  inferInstanceAs (Decidable (_ ∨ _ ∨ _))

@[simp]
theorem setError_bodyBlocks (request : Request) (statusCode : ℕ) (reason : String) :
    (request.setError statusCode reason).1.bodyBlocks = request.bodyBlocks := by
  rw [setError]
  split
  · rfl
  · rfl

@[simp]
theorem setError_method (request : Request) (statusCode : ℕ) (reason : String) :
    (request.setError statusCode reason).1.method = request.method := by
  rw [setError]
  split
  · rfl
  · rfl

@[simp]
theorem setError_expires (request : Request) (statusCode : ℕ) (reason : String) :
    (request.setError statusCode reason).1.expires = request.expires := by
  rw [setError]
  split
  · rfl
  · rfl

@[simp]
theorem setError_noMoreBodyData (request : Request) (statusCode : ℕ) (reason : String) :
    (request.setError statusCode reason).1.noMoreBodyData = request.noMoreBodyData := by
  rw [setError]
  split
  · rfl
  · rfl

end Request

end Mbstf.Ingest
