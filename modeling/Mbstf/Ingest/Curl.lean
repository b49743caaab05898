import Mbstf.Ingest.Numbers
import Mbstf.Objects.Store

/-!
# The HTTP client

A `Curl` object is used for one `get` after another.  Each `get` hands the object to
libcurl, which calls back with the header lines of every response of a redirect chain
and with the data of the last one, and reports more about the last response when the
transfer is complete.  What libcurl does in a `get` is a `Transfer`; the options that
are set on the handle are part of it.
-/

namespace Mbstf.Ingest

open Mbstf.Objects Mbstf.Session

/-- `HeaderProcessingState`. -/
inductive HeaderProcessingState where
  | start
  | headers
  | body
  | trailing
  deriving DecidableEq

/-- `Curl`; `hasHandle` says whether `curl_easy_init` gave a handle. -/
structure Curl where
  hasHandle : Bool
  hdrState : HeaderProcessingState
  receivedData : ObjectData
  etag : String
  contentType : String
  effectiveUrl : String
  protocol : String
  statusCode : ℤ
  permanentRedirectUrl : String
  cacheControlMaxAge : ℕ
  deriving DecidableEq

/-! ## Header lines -/

/-- A header line without its line end. -/
def stripCrLf (line : List Char) : List Char :=
  if "\r\n".toList.isSuffixOf line then line.take (line.length - 2) else line

/-- What follows the first occurrence of a pattern. -/
def afterFirst (pattern : List Char) : List Char → Option (List Char)
  | [] => if pattern = [] then some [] else none
  | character :: rest =>
      if pattern.isPrefixOf (character :: rest) then
        some ((character :: rest).drop pattern.length)
      else afterFirst pattern rest

/-- The three spellings of the field name that are looked for. -/
def isCacheControl (line : List Char) : Bool :=
  "Cache-Control:".toList.isPrefixOf line || "cache-control:".toList.isPrefixOf line ||
    "Cache-control:".toList.isPrefixOf line

/-- The `max-age` that is read from a header line, if any; one that is no number is 0. -/
def readMaxAge (line : List Char) : Option ℕ :=
  if isCacheControl line then
    let value := (line.drop 14).dropWhile (· = ' ')
    let directive :=
      (afterFirst "max-age=".toList value).or (afterFirst "Max-age=".toList value)
    directive.map fun rest =>
      match stoul (rest.takeWhile (· ∉ ", \r\n".toList)) with
      | .ok maxAge => maxAge
      | .error _ => 0
  else none

/-- The target of a permanent redirect. -/
def readLocation (statusCode : ℤ) (line : List Char) : Option String :=
  if (statusCode = 301 ∨ statusCode = 308) ∧
      ("Location:".toList.isPrefixOf line || "location:".toList.isPrefixOf line) then
    some (String.ofList ((line.drop 9).dropWhile (· = ' ')))
  else none

/-- The protocol of a status line, when a blank ends it. -/
def protocolOf (statusLine : List Char) : Option (List Char) :=
  let line := statusLine.drop 5
  let protocol := line.takeWhile (· ≠ ' ')
  if protocol.length = line.length then none else some protocol

/-- The text of the status code, after the blanks that follow the protocol. -/
def statusCodeText (statusLine protocol : List Char) : List Char :=
  ((statusLine.drop (5 + protocol.length)).dropWhile (· = ' ')).takeWhile (· ≠ ' ')

namespace Curl

/-- `Curl::Curl()`. -/
def new (hasHandle : Bool) : Curl where
  hasHandle := hasHandle
  hdrState := .start
  receivedData := []
  etag := ""
  contentType := ""
  effectiveUrl := ""
  protocol := ""
  statusCode := 0
  permanentRedirectUrl := ""
  cacheControlMaxAge := 0

/-- `extractProtocolAndStatusCode(std::string_view&)`; `std::stoi` may throw. -/
def extractProtocolAndStatusCode (curl : Curl) (statusLine : List Char) :
    Except StdException (Bool × Curl) :=
  match protocolOf statusLine with
  | none => .ok (false, curl)
  | some protocol =>
      let named := { curl with protocol := String.ofList protocol }
      if statusCodeText statusLine protocol = [] then .ok (false, named)
      else
        (stoi (statusCodeText statusLine protocol)).map fun statusCode =>
          (true, { named with statusCode := statusCode })

/-- A line where a status line may stand, and the state if it is none. -/
def processStatusLine (curl : Curl) (line : List Char) (otherwise : HeaderProcessingState) :
    Except StdException Curl :=
  if "HTTP/".toList.isPrefixOf line then
    (curl.extractProtocolAndStatusCode line).map fun (found, after) =>
      { after with hdrState := if found then .headers else otherwise }
  else .ok { curl with hdrState := otherwise }

/-- A line among the headers of a response. -/
def processHeader (curl : Curl) (line : List Char) : Curl :=
  if line = [] then { curl with hdrState := .body }
  else
    match readLocation curl.statusCode line with
    | some url => { curl with permanentRedirectUrl := url }
    | none =>
        { curl with
          cacheControlMaxAge := (readMaxAge line).getD curl.cacheControlMaxAge }

/-- `processHeaderLine(std::string_view&)`. -/
def processHeaderLine (curl : Curl) (headerLine : List Char) : Except StdException Curl :=
  match curl.hdrState with
  | .start => curl.processStatusLine (stripCrLf headerLine) .start
  | .headers => .ok (curl.processHeader (stripCrLf headerLine))
  | .body => curl.processStatusLine (stripCrLf headerLine) .trailing
  | .trailing => curl.processStatusLine (stripCrLf headerLine) .trailing

end Curl

/-! ## Transfers -/

/-- The status code of a line, when it is a status line. -/
def statusCodeOf (line : List Char) : Option ℤ :=
  if "HTTP/".toList.isPrefixOf line then
    (protocolOf line).bind fun protocol =>
      if statusCodeText line protocol = [] then none
      else (stoi (statusCodeText line protocol)).toOption
  else none

/-- One response, by the lines that libcurl passes on: a status line, header lines,
the empty line, and trailers.  `contentType` is what libcurl reports when the
response is the last of a transfer. -/
structure Response where
  statusCode : ℤ
  statusLine : List Char
  headers : List (List Char)
  trailers : List (List Char)
  contentType : Option String
  hstatus : statusCodeOf (stripCrLf statusLine) = some statusCode
  hheaders : ∀ line ∈ headers, stripCrLf line ≠ []
  htrailers : ∀ line ∈ trailers, "HTTP/".toList.isPrefixOf (stripCrLf line) = false

/-- A transfer that is complete: the responses before the last one, the last one, its
entity tag and effective URL, and the data. -/
structure Chain where
  earlier : List Response
  final : Response
  etag : Option String
  effectiveUrl : String
  body : ObjectData

/-- What libcurl does in one `get`. -/
inductive Transfer where
  | completed (chain : Chain)
  | failed (headerLines : List (List Char)) (body : ObjectData) (timedOut : Bool)

namespace Response

def lines (response : Response) : List (List Char) :=
  response.statusLine :: response.headers ++ "\r\n".toList :: response.trailers

/-- The `max-age` of a response: the last one in its header lines. -/
def maxAge (response : Response) : Option ℕ :=
  (response.headers.filterMap fun line => readMaxAge (stripCrLf line)).getLast?

end Response

namespace Chain

def responses (chain : Chain) : List Response := chain.earlier ++ [chain.final]

/-- The last `max-age` in the header lines of all responses. -/
def lastMaxAge (chain : Chain) : Option ℕ :=
  (chain.responses.filterMap Response.maxAge).getLast?

end Chain

namespace Transfer

def headerLines : Transfer → List (List Char)
  | .completed chain => chain.responses.flatMap Response.lines
  | .failed headerLines _ _ => headerLines

def body : Transfer → ObjectData
  | .completed chain => chain.body
  | .failed _ body _ => body

end Transfer

namespace Curl

/-- What `get` does when the transfer is complete. -/
def complete (curl : Curl) (chain : Chain) : Curl :=
  { curl with
    etag := chain.etag.getD curl.etag
    contentType := chain.final.contentType.getD curl.contentType
    effectiveUrl := chain.effectiveUrl }

/-- `get(const std::string&, std::chrono::milliseconds)`: the object after it, and the
number of bytes or a negative number. -/
def get (curl : Curl) (transfer : Transfer) : Except StdException (Curl × ℤ) :=
  let cleared := { curl with etag := "", receivedData := [] }
  if curl.hasHandle then do
    let reset := { cleared with
      hdrState := .start
      statusCode := 0
      protocol := ""
      permanentRedirectUrl := "" }
    let called ← transfer.headerLines.foldlM processHeaderLine reset
    let received := { called with receivedData := called.receivedData ++ transfer.body }
    match transfer with
    | .completed chain => return (received.complete chain, received.receivedData.length)
    | .failed _ _ timedOut => return (received, if timedOut then -1 else -2)
  else return (cleared, -2)

/-- One `get` after another. -/
def gets (curl : Curl) (transfers : List Transfer) : Except StdException Curl :=
  transfers.foldlM (fun current transfer => (current.get transfer).map Prod.fst) curl

end Curl

end Mbstf.Ingest
