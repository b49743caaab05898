import Mbstf.Core.Folds
import Mbstf.Ingest.Curl

/-!
# What a fetch reports

A complete transfer leaves in the object what its responses said, and where they said
nothing, what earlier transfers left: the content type and the `max-age` are never
cleared.  The values reported are those of the last response exactly when it has both,
or there is nothing left over to take their place.
-/

namespace Mbstf.Ingest

open Mbstf.Folds Mbstf.Objects Mbstf.Session

/-- A `Location` line has no `max-age`. -/
theorem readMaxAge_of_readLocation {statusCode : ℤ} {line : List Char} {url : String}
    (hlocation : readLocation statusCode line = some url) : readMaxAge line = none := by
  have hline := (Option.ite_none_right_eq_some.mp hlocation).1.2
  rw [Bool.or_eq_true] at hline
  have hnot : isCacheControl line = false := by
    cases hline with
    | inl hupper =>
        obtain ⟨rest, rfl⟩ := List.isPrefixOf_iff_prefix.mp hupper
        rfl
    | inr hlower =>
        obtain ⟨rest, rfl⟩ := List.isPrefixOf_iff_prefix.mp hlower
        rfl
  rw [readMaxAge, hnot]
  rfl

namespace Curl

/-- A header line that is not empty sets the redirect URL or the `max-age`, if any. -/
theorem processHeader_eq (curl : Curl) {line : List Char} (hline : line ≠ []) :
    curl.processHeader line =
      { curl with
        permanentRedirectUrl :=
          (readLocation curl.statusCode line).getD curl.permanentRedirectUrl
        cacheControlMaxAge := (readMaxAge line).getD curl.cacheControlMaxAge } := by
  rw [processHeader, if_neg hline]
  cases hlocation : readLocation curl.statusCode line with
  | none => rfl
  | some url =>
      rw [readMaxAge_of_readLocation hlocation]
      rfl

theorem processStatusLine_of_statusCodeOf (curl : Curl) {line : List Char} {statusCode : ℤ}
    (hstatus : statusCodeOf line = some statusCode) (otherwise : HeaderProcessingState) :
    curl.processStatusLine line otherwise =
      .ok { curl with
        hdrState := .headers
        protocol := String.ofList ((protocolOf line).getD [])
        statusCode := statusCode } := by
  obtain ⟨hhttp, hcode⟩ := Option.ite_none_right_eq_some.mp hstatus
  obtain ⟨protocol, hprotocol, hcode⟩ := Option.bind_eq_some_iff.mp hcode
  obtain ⟨htext, hcode⟩ := Option.ite_none_left_eq_some.mp hcode
  have hstoi : stoi (statusCodeText line protocol) = .ok statusCode := by
    cases hread : stoi (statusCodeText line protocol) with
    | error exception =>
        rw [hread] at hcode
        cases hcode
    | ok value =>
        rw [hread] at hcode
        exact congrArg Except.ok (Option.some.inj hcode)
  simp only [processStatusLine, if_pos hhttp, extractProtocolAndStatusCode, hprotocol,
    if_neg htext, hstoi]
  rfl

theorem processStatusLine_of_not_http (curl : Curl) {line : List Char}
    (hline : "HTTP/".toList.isPrefixOf line = false) (otherwise : HeaderProcessingState) :
    curl.processStatusLine line otherwise = .ok { curl with hdrState := otherwise } := by
  rw [processStatusLine, if_neg (by rw [hline]; decide)]

end Curl

namespace Response

/-- The last redirect URL of a response. -/
def location (response : Response) : Option String :=
  (response.headers.filterMap fun line =>
    readLocation response.statusCode (stripCrLf line)).getLast?

theorem no_trailers :
    ∀ line ∈ ([] : List (List Char)), "HTTP/".toList.isPrefixOf (stripCrLf line) = false := by
  simp

/-- What the lines of a response do to the object. -/
def applyTo (response : Response) (curl : Curl) : Curl :=
  { curl with
    hdrState := if response.trailers = [] then .body else .trailing
    protocol := String.ofList ((protocolOf (stripCrLf response.statusLine)).getD [])
    statusCode := response.statusCode
    permanentRedirectUrl := response.location.getD curl.permanentRedirectUrl
    cacheControlMaxAge := response.maxAge.getD curl.cacheControlMaxAge }

theorem foldlM_headers {headers : List (List Char)}
    (hheaders : ∀ line ∈ headers, stripCrLf line ≠ []) {curl : Curl}
    (hstate : curl.hdrState = .headers) :
    headers.foldlM Curl.processHeaderLine curl =
      .ok { curl with
        permanentRedirectUrl := headers.foldl
          (fun url line => (readLocation curl.statusCode (stripCrLf line)).getD url)
          curl.permanentRedirectUrl
        cacheControlMaxAge := headers.foldl
          (fun maxAge line => (readMaxAge (stripCrLf line)).getD maxAge)
          curl.cacheControlMaxAge } := by
  induction headers generalizing curl with
  | nil => rfl
  | cons line headers ih =>
      have hline : curl.processHeaderLine line = .ok (curl.processHeader (stripCrLf line)) := by
        rw [Curl.processHeaderLine, hstate]
      have hrest : ∀ other ∈ headers, stripCrLf other ≠ [] := fun other hother =>
        hheaders other (List.mem_cons_of_mem line hother)
      rw [curl.processHeader_eq (hheaders line List.mem_cons_self)] at hline
      exact (foldlM_cons_ok hline).trans (ih hrest hstate)

theorem foldlM_trailers {trailers : List (List Char)}
    (htrailers : ∀ line ∈ trailers, "HTTP/".toList.isPrefixOf (stripCrLf line) = false)
    {curl : Curl} (hstate : curl.hdrState = .body ∨ curl.hdrState = .trailing) :
    trailers.foldlM Curl.processHeaderLine curl =
      .ok { curl with hdrState := if trailers = [] then curl.hdrState else .trailing } := by
  induction trailers generalizing curl with
  | nil => rfl
  | cons line trailers ih =>
      have hline : curl.processHeaderLine line = .ok { curl with hdrState := .trailing } := by
        have hhttp := curl.processStatusLine_of_not_http
          (htrailers line List.mem_cons_self) .trailing
        cases hstate with
        | inl hbody => rw [Curl.processHeaderLine, hbody, hhttp]
        | inr htrailing => rw [Curl.processHeaderLine, htrailing, hhttp]
      have hrest : ∀ other ∈ trailers, "HTTP/".toList.isPrefixOf (stripCrLf other) = false :=
        fun other hother => htrailers other (List.mem_cons_of_mem line hother)
      rw [foldlM_cons_ok hline, ih hrest (.inr rfl), if_neg (List.cons_ne_nil line trailers),
        ite_self]

/-- A response leaves the object as `applyTo` says, where a status line is expected. -/
theorem foldlM_lines (response : Response) {curl : Curl} (hstate : curl.hdrState ≠ .headers) :
    response.lines.foldlM Curl.processHeaderLine curl = .ok (response.applyTo curl) := by
  have hstatus : curl.processHeaderLine response.statusLine =
      .ok { curl with
        hdrState := .headers
        protocol := String.ofList ((protocolOf (stripCrLf response.statusLine)).getD [])
        statusCode := response.statusCode } := by
    have hcode := curl.processStatusLine_of_statusCodeOf response.hstatus
    cases hcase : curl.hdrState with
    | headers => exact absurd hcase hstate
    | start =>
        simp only [Curl.processHeaderLine, hcase]
        exact hcode .start
    | body =>
        simp only [Curl.processHeaderLine, hcase]
        exact hcode .trailing
    | trailing =>
        simp only [Curl.processHeaderLine, hcase]
        exact hcode .trailing
  rw [lines, List.cons_append, foldlM_cons_ok hstatus,
    foldlM_append_ok (foldlM_headers response.hheaders rfl), foldlM_cons_ok rfl,
    foldlM_trailers response.htrailers (.inl rfl), foldl_getD, foldl_getD]
  rfl

end Response

/-- The responses of a transfer, one after another. -/
theorem foldlM_responses (responses : List Response) {curl : Curl}
    (hstate : curl.hdrState ≠ .headers) :
    (responses.flatMap Response.lines).foldlM Curl.processHeaderLine curl =
      .ok (responses.foldl (fun current response => response.applyTo current) curl) := by
  induction responses generalizing curl with
  | nil => rfl
  | cons response responses ih =>
      have hafter : (response.applyTo curl).hdrState ≠ .headers := by
        rw [Response.applyTo]
        split
        · intro hheaders
          cases hheaders
        · intro hheaders
          cases hheaders
      rw [List.flatMap_cons, foldlM_append_ok (response.foldlM_lines hstate)]
      exact ih hafter

/-- What the responses of a transfer leave of an object. -/
structure Collected (responses : List Response) (curl after : Curl) : Prop where
  hasHandle : after.hasHandle = curl.hasHandle
  receivedData : after.receivedData = curl.receivedData
  etag : after.etag = curl.etag
  contentType : after.contentType = curl.contentType
  permanentRedirectUrl : after.permanentRedirectUrl =
    (responses.filterMap Response.location).getLast?.getD curl.permanentRedirectUrl
  cacheControlMaxAge : after.cacheControlMaxAge =
    (responses.filterMap Response.maxAge).getLast?.getD curl.cacheControlMaxAge

theorem collected_foldl (responses : List Response) (curl : Curl) :
    Collected responses curl
      (responses.foldl (fun current response => response.applyTo current) curl) := by
  induction responses using List.reverseRecOn with
  | nil => exact ⟨rfl, rfl, rfl, rfl, rfl, rfl⟩
  | append_singleton responses response ih =>
      rw [List.foldl_concat]
      refine ⟨ih.hasHandle, ih.receivedData, ih.etag, ih.contentType, ?_, ?_⟩
      · rw [← foldl_getD, List.foldl_concat, foldl_getD, ← ih.permanentRedirectUrl]
        rfl
      · rw [← foldl_getD, List.foldl_concat, foldl_getD, ← ih.cacheControlMaxAge]
        rfl

namespace Curl

/-- What a transfer leaves when it is complete. -/
theorem get_completed {curl : Curl} (hhandle : curl.hasHandle = true) (chain : Chain) :
    ∃ after, curl.get (.completed chain) = .ok (after, chain.body.length) ∧
      after.etag = chain.etag.getD "" ∧
      after.contentType = chain.final.contentType.getD curl.contentType ∧
      after.effectiveUrl = chain.effectiveUrl ∧
      after.permanentRedirectUrl =
        (chain.responses.filterMap Response.location).getLast?.getD "" ∧
      after.receivedData = chain.body ∧
      after.cacheControlMaxAge = chain.lastMaxAge.getD curl.cacheControlMaxAge := by
  let reset : Curl := { curl with
    etag := "", receivedData := [], hdrState := .start, statusCode := 0, protocol := ""
    permanentRedirectUrl := "" }
  let called : Curl :=
    chain.responses.foldl (fun current response => response.applyTo current) reset
  have hcalled : (Transfer.completed chain).headerLines.foldlM processHeaderLine reset =
      .ok called := foldlM_responses chain.responses HeaderProcessingState.noConfusion
  have hcollected : Collected chain.responses reset called :=
    collected_foldl chain.responses reset
  have hdata : called.receivedData ++ chain.body = chain.body := by
    rw [hcollected.receivedData]
    rfl
  have hget : curl.get (.completed chain) =
      .ok (({ called with receivedData := called.receivedData ++ chain.body }).complete chain,
        (called.receivedData ++ chain.body).length) := by
    rw [get, if_pos hhandle]
    change ((Transfer.completed chain).headerLines.foldlM processHeaderLine reset >>= _) = _
    rw [hcalled]
    rfl
  rw [hdata] at hget
  refine ⟨_, hget, ?_, ?_, rfl, ?_, rfl, ?_⟩
  · exact congrArg chain.etag.getD hcollected.etag
  · exact congrArg chain.final.contentType.getD hcollected.contentType
  · exact hcollected.permanentRedirectUrl
  · exact hcollected.cacheControlMaxAge

/-! ## The handle stays -/

theorem extractProtocolAndStatusCode_hasHandle {curl after : Curl} {line : List Char}
    {found : Bool} (hextract : curl.extractProtocolAndStatusCode line = .ok (found, after)) :
    after.hasHandle = curl.hasHandle := by
  unfold extractProtocolAndStatusCode at hextract
  split at hextract
  case h_1 =>
      obtain ⟨-, rfl⟩ := Prod.mk.inj (Except.ok.inj hextract)
      rfl
  case h_2 protocol _ =>
      split at hextract
      · obtain ⟨-, rfl⟩ := Prod.mk.inj (Except.ok.inj hextract)
        rfl
      · obtain ⟨statusCode, _, hafter⟩ := map_eq_ok hextract
        obtain ⟨-, rfl⟩ := Prod.mk.inj hafter
        rfl

theorem processStatusLine_hasHandle {curl after : Curl} {line : List Char}
    {otherwise : HeaderProcessingState}
    (hline : curl.processStatusLine line otherwise = .ok after) :
    after.hasHandle = curl.hasHandle := by
  unfold processStatusLine at hline
  split at hline
  · obtain ⟨⟨found, extracted⟩, hextract, rfl⟩ := map_eq_ok hline
    have hkept := extractProtocolAndStatusCode_hasHandle hextract
    exact hkept
  · rw [← Except.ok.inj hline]

theorem processHeaderLine_hasHandle {curl after : Curl} {line : List Char}
    (hline : curl.processHeaderLine line = .ok after) : after.hasHandle = curl.hasHandle := by
  cases hstate : curl.hdrState with
  | headers =>
      simp only [processHeaderLine, hstate, Except.ok.injEq] at hline
      rw [← hline]
      grind [processHeader]
  | start =>
      simp only [processHeaderLine, hstate] at hline
      exact processStatusLine_hasHandle hline
  | body =>
      simp only [processHeaderLine, hstate] at hline
      exact processStatusLine_hasHandle hline
  | trailing =>
      simp only [processHeaderLine, hstate] at hline
      exact processStatusLine_hasHandle hline

theorem get_hasHandle {curl after : Curl} {transfer : Transfer} {count : ℤ}
    (hget : curl.get transfer = .ok (after, count)) : after.hasHandle = curl.hasHandle := by
  unfold get at hget
  split at hget
  · let reset : Curl := { curl with
      etag := "", receivedData := [], hdrState := .start, statusCode := 0, protocol := ""
      permanentRedirectUrl := "" }
    change (transfer.headerLines.foldlM processHeaderLine reset >>= _) = _ at hget
    cases hcalled : transfer.headerLines.foldlM processHeaderLine reset with
    | error exception =>
        rw [hcalled] at hget
        cases hget
    | ok called =>
        have hkept : called.hasHandle = curl.hasHandle :=
          foldlM_keeps (fun current : Curl => current.hasHandle = curl.hasHandle)
            (fun _ _ _ hline hbefore => (processHeaderLine_hasHandle hline).trans hbefore)
            hcalled rfl
        rw [hcalled] at hget
        cases transfer with
        | completed chain =>
            rw [← (Prod.mk.inj (Except.ok.inj hget)).1]
            exact hkept
        | failed headerLines body timedOut =>
            rw [← (Prod.mk.inj (Except.ok.inj hget)).1]
            exact hkept
  · rw [← (Prod.mk.inj (Except.ok.inj hget)).1]

theorem gets_hasHandle {curl after : Curl} {transfers : List Transfer}
    (hgets : curl.gets transfers = .ok after) : after.hasHandle = curl.hasHandle := by
  apply foldlM_keeps (fun current : Curl => current.hasHandle = curl.hasHandle) _ hgets rfl
  intro current transfer next hnext hbefore
  obtain ⟨⟨last, count⟩, hget, rfl⟩ := map_eq_ok hnext
  exact (get_hasHandle hget).trans hbefore

/-! ## Reports -/

/-- What the getters return. -/
structure Report where
  getContentType : String
  getCacheControlMaxAge : ℕ
  getEtag : String
  getEffectiveUrl : String
  getPermanentRedirectUrl : String
  getData : ObjectData
  deriving DecidableEq

def report (curl : Curl) : Report where
  getContentType := curl.contentType
  getCacheControlMaxAge := curl.cacheControlMaxAge
  getEtag := curl.etag
  getEffectiveUrl := curl.effectiveUrl
  getPermanentRedirectUrl := curl.permanentRedirectUrl
  getData := curl.receivedData

/-- A complete transfer reports the same as with an object that was not used before,
and the content type and the `max-age` of its last response. -/
def ReportsOwn (curl : Curl) (chain : Chain) : Prop :=
  ∃ reused fresh count, curl.get (.completed chain) = .ok (reused, count) ∧
    (new true).get (.completed chain) = .ok (fresh, count) ∧
    reused.report = fresh.report ∧
    reused.report.getContentType = chain.final.contentType.getD "" ∧
    reused.report.getCacheControlMaxAge = chain.final.maxAge.getD 0

/-- The last response has a content type, or none is left over. -/
def ReplacesContentType (curl : Curl) (chain : Chain) : Prop :=
  chain.final.contentType.isSome ∨ curl.contentType = ""

/-- The last response has a `max-age`, or the one left over, by a response before it or
else by an earlier transfer, is 0. -/
def ReplacesMaxAge (curl : Curl) (chain : Chain) : Prop :=
  chain.final.maxAge.isSome ∨ chain.lastMaxAge.getD curl.cacheControlMaxAge = 0

theorem lastMaxAge_of_final {chain : Chain} {maxAge : ℕ}
    (hfinal : chain.final.maxAge = some maxAge) : chain.lastMaxAge = some maxAge := by
  simp [Chain.lastMaxAge, Chain.responses, hfinal]

theorem replacesContentType_iff {curl : Curl} {chain : Chain} :
    curl.ReplacesContentType chain ↔
      chain.final.contentType.getD curl.contentType = chain.final.contentType.getD "" := by
  rw [ReplacesContentType]
  cases chain.final.contentType with
  | none => simp
  | some contentType => simp

/-- The value left over is that of a fresh object too, when it is 0. -/
theorem replacesMaxAge_iff {curl : Curl} {chain : Chain} :
    curl.ReplacesMaxAge chain ↔
      chain.lastMaxAge.getD curl.cacheControlMaxAge = chain.lastMaxAge.getD 0 ∧
        chain.lastMaxAge.getD curl.cacheControlMaxAge = chain.final.maxAge.getD 0 := by
  rw [ReplacesMaxAge]
  cases hfinal : chain.final.maxAge with
  | some maxAge => simp [lastMaxAge_of_final hfinal]
  | none =>
      cases chain.lastMaxAge with
      | none => simp
      | some maxAge => simp

/-- After any history of transfers, a complete transfer reports its own response if and
only if its last response has a content type and a `max-age`, or nothing is left over
where it has none. -/
theorem gets_reportsOwn_iff {history : List Transfer} {curl : Curl}
    (hhistory : (new true).gets history = .ok curl) (chain : Chain) :
    curl.ReportsOwn chain ↔ curl.ReplacesContentType chain ∧ curl.ReplacesMaxAge chain := by
  have hhandle : curl.hasHandle = true := gets_hasHandle hhistory
  obtain ⟨reused, hreused, hetag, htype, hurl, hredirect, hdata, hage⟩ :=
    get_completed hhandle chain
  obtain ⟨fresh, hfresh, hetag', htype', hurl', hredirect', hdata', hage'⟩ :=
    get_completed (show (new true).hasHandle = true from rfl) chain
  have hreport : reused.report = fresh.report ↔
      reused.contentType = fresh.contentType ∧
        reused.cacheControlMaxAge = fresh.cacheControlMaxAge := by
    simp [report, hetag, hetag', hurl, hurl', hredirect, hredirect', hdata, hdata']
  have hown : curl.ReportsOwn chain ↔ reused.report = fresh.report ∧
      reused.contentType = chain.final.contentType.getD "" ∧
      reused.cacheControlMaxAge = chain.final.maxAge.getD 0 := by
    constructor
    · rintro ⟨reused', fresh', count, hget, hget', hsame⟩
      obtain rfl : reused = reused' := (Prod.mk.inj (Except.ok.inj (hreused.symm.trans hget))).1
      obtain rfl : fresh = fresh' := (Prod.mk.inj (Except.ok.inj (hfresh.symm.trans hget'))).1
      exact hsame
    · intro hsame
      exact ⟨reused, fresh, _, hreused, hfresh, hsame⟩
  rw [hown, hreport, replacesContentType_iff, replacesMaxAge_iff, htype, htype', hage, hage']
  tauto

/-- A content type that is not of the last response. -/
theorem not_reportsOwn_of_report {curl : Curl} {chain : Chain} {report : Report}
    (hreport : (curl.get (.completed chain)).map (fun after => after.1.report) = .ok report)
    (htype : report.getContentType ≠ chain.final.contentType.getD "") :
    ¬ curl.ReportsOwn chain := by
  rintro ⟨reused, fresh, count, hget, -, -, hown, -⟩
  rw [hget] at hreport
  have hreused : reused.report = report := Except.ok.inj hreport
  exact htype (hreused ▸ hown)

/-- A page that may be kept for a minute. -/
def cachedPage : Chain where
  earlier := []
  final := {
    statusCode := 200
    statusLine := "HTTP/1.1 200 OK\r\n".toList
    headers := ["Content-Type: text/html\r\n".toList, "Cache-Control: max-age=60\r\n".toList]
    trailers := []
    contentType := some "text/html"
    hstatus := by decide +kernel
    hheaders := by decide +kernel
    htrailers := by simp }
  etag := none
  effectiveUrl := "http://example.com/page"
  body := [60]

/-- A segment without a content type or a `max-age`. -/
def plainSegment : Chain where
  earlier := []
  final := {
    statusCode := 200
    statusLine := "HTTP/1.1 200 OK\r\n".toList
    headers := ["Content-Length: 1\r\n".toList]
    trailers := []
    contentType := none
    hstatus := by decide +kernel
    hheaders := by decide +kernel
    htrailers := by simp }
  etag := none
  effectiveUrl := "http://example.com/segment"
  body := [7]

theorem gets_reportsOwn_iff_cachedPage :
    ∃ curl, (new true).gets [.completed plainSegment, .failed [] [] true] = .ok curl ∧
      (curl.ReportsOwn cachedPage ↔
        curl.ReplacesContentType cachedPage ∧ curl.ReplacesMaxAge cachedPage) :=
  ⟨_, rfl, gets_reportsOwn_iff
    (show (new true).gets [.completed plainSegment, .failed [] [] true] = .ok _ from rfl)
    cachedPage⟩

/-- After the page, the segment is reported with the content type and the `max-age` of
the page. -/
theorem segment_reported_as_page :
    ∃ curl, (new true).gets [.completed cachedPage] = .ok curl ∧
      (curl.get (.completed plainSegment)).map (fun after => after.1.report) =
        .ok ⟨"text/html", 60, "", "http://example.com/segment", "", [7]⟩ ∧
      ¬ curl.ReportsOwn plainSegment := by
  exact ⟨_, rfl, rfl, not_reportsOwn_of_report rfl (by decide)⟩

end Curl

end Mbstf.Ingest
