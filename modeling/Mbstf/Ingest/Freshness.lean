import Mbstf.Ingest.PullIngester
import Mbstf.Ingest.PushAnswers

/-!
# Freshness

The expiry time of an object is read from a `Cache-Control` field by two parsers: the push
ingester looks for `max-age=` at the start of the value, the HTTP client anywhere in it.
Without one the push ingester takes a default in minutes, the pull ingester the same
number in seconds.
-/

namespace Mbstf.Ingest

open Mbstf.Folds Mbstf.Objects Mbstf.Session Mbstf.Subscription

/-! ## Times -/

theorem int64_modEq (value : ℤ) : int64 value ≡ value [ZMOD 2 ^ 64] := Int.bmod_emod

theorem int64_eq_iff (first second : ℤ) :
    int64 first = int64 second ↔ first ≡ second [ZMOD 2 ^ 64] := by
  constructor
  · intro hsame
    exact (int64_modEq first).symm.trans (hsame ▸ int64_modEq second)
  · intro hsame
    calc int64 first = (first % (2 ^ 64 : ℕ)).bmod (2 ^ 64) := (Int.emod_bmod _ _).symm
      _ = (second % (2 ^ 64 : ℕ)).bmod (2 ^ 64) := congrArg (Int.bmod · (2 ^ 64)) hsame
      _ = int64 second := Int.emod_bmod _ _

theorem dvd_nanoseconds_iff (count : ℤ) :
    2 ^ 64 ∣ count * nanosecondsPerSecond ↔ 2 ^ 55 ∣ count := by
  have hfactors : nanosecondsPerSecond = 5 ^ 9 * 2 ^ 9 := by
    rw [nanosecondsPerSecond]
    norm_num
  have hpower : (2 ^ 64 : ℤ) = 2 ^ 55 * 2 ^ 9 := by rw [← pow_add]
  have hcoprime : IsCoprime (2 ^ 55 : ℤ) (5 ^ 9) := by
    apply IsCoprime.pow
    rw [Int.isCoprime_iff_gcd_eq_one]
    rfl
  rw [hfactors, ← mul_assoc, hpower, mul_dvd_mul_iff_right (by norm_num)]
  exact ⟨hcoprime.dvd_of_dvd_mul_right, fun hdvd => hdvd.mul_right _⟩

/-- Two lifetimes end at the same time when they are the same up to what wraps round. -/
theorem addSeconds_eq_iff (now : TimePoint) (first second : ℕ) :
    addSeconds now first = addSeconds now second ↔ first ≡ second [MOD 2 ^ 55] := by
  have hcount : ∀ count : ℕ, now + int64 (int64 count * nanosecondsPerSecond) ≡
      now + count * nanosecondsPerSecond [ZMOD 2 ^ 64] := by
    intro count
    exact ((int64_modEq _).trans ((int64_modEq count).mul_right _)).add_left now
  have hproducts : addSeconds now first = addSeconds now second ↔
      first * nanosecondsPerSecond ≡ second * nanosecondsPerSecond [ZMOD 2 ^ 64] := by
    rw [addSeconds, addSeconds, int64_eq_iff]
    constructor
    · intro hsame
      exact ((hcount first).symm.trans (hsame.trans (hcount second))).add_left_cancel' now
    · intro hsame
      exact (hcount first).trans ((hsame.add_left now).trans (hcount second).symm)
  rw [hproducts, ← Int.natCast_modEq_iff, Int.modEq_iff_dvd, Int.modEq_iff_dvd, ← sub_mul,
    dvd_nanoseconds_iff]
  rfl

/-! ## Header fields -/

/-- A `Cache-Control` field as a response carries it. -/
structure CacheControl where
  name : List Char
  blank : List Char
  value : String
  hname : name.map Char.toLower = "cache-control".toList
  hblank : ∀ character ∈ blank, character = ' ' ∨ character = '\t'

/-- The header line of the field. -/
def CacheControl.line (field : CacheControl) : List Char :=
  field.name ++ ':' :: (field.blank ++ field.value.toList)

/-- A header line with the name of the field, in any spelling. -/
def hasCacheControlName (line : List Char) : Bool :=
  (line.take 14).map Char.toLower = "cache-control:".toList

/-- A response that carries a `Cache-Control` field, and no other, or none. -/
def Response.Carries (response : Response) (field : Option CacheControl) : Prop :=
  (response.headers.map stripCrLf).filter hasCacheControlName =
    (field.map CacheControl.line).toList

instance (response : Response) (field : Option CacheControl) :
    Decidable (response.Carries field) := inferInstanceAs (Decidable (_ = _))

theorem hasCacheControlName_of_isCacheControl {line : List Char}
    (hline : isCacheControl line = true) : hasCacheControlName line = true := by
  simp only [isCacheControl, Bool.or_eq_true, List.isPrefixOf_iff_prefix] at hline
  rcases hline with (⟨rest, rfl⟩ | ⟨rest, rfl⟩) | ⟨rest, rfl⟩
  · rfl
  · rfl
  · rfl

/-- The field decides what the response says about its `max-age`. -/
theorem Response.Carries.maxAge_eq {response : Response} {field : Option CacheControl}
    (hcarries : response.Carries field) :
    response.maxAge = field.bind fun field => readMaxAge field.line := by
  have hnamed : ∀ line ∈ response.headers.map stripCrLf, readMaxAge line ≠ none →
      hasCacheControlName line = true := by
    intro line _ hread
    apply hasCacheControlName_of_isCacheControl
    by_contra hnot
    exact hread (if_neg hnot)
  have hfilter : (response.headers.map stripCrLf).filterMap readMaxAge =
      ((response.headers.map stripCrLf).filter hasCacheControlName).filterMap readMaxAge :=
    (filterMap_filter_of_imp hnamed).symm
  have hmap : response.headers.filterMap (fun line => readMaxAge (stripCrLf line)) =
      (response.headers.map stripCrLf).filterMap readMaxAge := by
    rw [List.filterMap_map]
    rfl
  rw [Response.maxAge, hmap, hfilter, hcarries]
  cases field with
  | none => rfl
  | some field =>
      cases hread : readMaxAge field.line with
      | none => simp [hread]
      | some maxAge => simp [hread]

/-! ## What the client finds -/

theorem afterFirst_append {first : Char} {pattern : List Char} {skipped : List Char}
    (hskipped : ∀ character ∈ skipped, character ≠ first) (text : List Char) :
    afterFirst (first :: pattern) (skipped ++ text) = afterFirst (first :: pattern) text := by
  induction skipped with
  | nil => rfl
  | cons character skipped ih =>
      have hother : (first :: pattern).isPrefixOf (character :: (skipped ++ text)) = false := by
        have hne := hskipped character List.mem_cons_self
        simp [List.isPrefixOf, Ne.symm hne]
      rw [List.cons_append, afterFirst, hother]
      exact ih fun other hin => hskipped other (List.mem_cons_of_mem character hin)

/-- The text behind the first `max-age=` of a value, in one of two spellings. -/
def directive (value : List Char) : Option (List Char) :=
  (afterFirst "max-age=".toList value).or (afterFirst "Max-age=".toList value)

/-- The number that the client reads there: up to a comma, a blank or a line end. -/
def directiveNumber (rest : List Char) : ℕ :=
  (stoul (rest.takeWhile (· ∉ ", \r\n".toList))).toOption.getD 0

theorem readMaxAge_line (field : CacheControl) :
    readMaxAge field.line =
      if isCacheControl field.line then (directive field.value.toList).map directiveNumber
      else none := by
  have hlength : field.name.length = 13 := by
    have hlengths := congrArg List.length field.hname
    simpa using hlengths
  have hdrop : field.line.drop 14 = field.blank ++ field.value.toList := by
    rw [CacheControl.line, List.drop_append, List.drop_eq_nil_of_le (by omega), hlength]
    rfl
  have hskip : ∀ (first : Char) (pattern : List Char), first ≠ ' ' → first ≠ '\t' →
      afterFirst (first :: pattern) ((field.line.drop 14).dropWhile (· = ' ')) =
        afterFirst (first :: pattern) field.value.toList := by
    intro first pattern hspace htab
    have hblank : ∀ character ∈ field.blank, character ≠ first := by
      intro character hin
      rcases field.hblank character hin with rfl | rfl
      · exact Ne.symm hspace
      · exact Ne.symm htab
    have hspaces : ∀ character ∈ (field.line.drop 14).takeWhile (· = ' '), character ≠ first := by
      intro character hin
      have hblank := List.mem_takeWhile_imp hin
      rw [of_decide_eq_true hblank]
      exact Ne.symm hspace
    rw [← afterFirst_append hspaces, List.takeWhile_append_dropWhile, hdrop,
      afterFirst_append hblank]
  unfold readMaxAge
  split
  case isTrue hnamed =>
      have hlower := hskip 'm' "ax-age=".toList (by decide) (by decide)
      have hupper := hskip 'M' "ax-age=".toList (by decide) (by decide)
      change Option.map _ ((afterFirst ('m' :: "ax-age=".toList) _).or
        (afterFirst ('M' :: "ax-age=".toList) _)) = _
      rw [hlower, hupper]
      refine congrArg (Option.map · _) (funext fun rest => ?_)
      unfold directiveNumber
      cases stoul (rest.takeWhile (· ∉ ", \r\n".toList)) with
      | ok maxAge => rfl
      | error exception => rfl
  case isFalse hother => rfl

/-- No character that ends a directive stands between `max-age=` and its number. -/
def AtOnce (rest : List Char) : Prop :=
  ∀ blank ∈ rest.takeWhile isSpace, blank ∉ ", \r\n".toList

instance (rest : List Char) : Decidable (AtOnce rest) :=
  inferInstanceAs (Decidable (∀ blank ∈ _, _))

theorem directive_of_prefix {value : List Char}
    (hprefixed : "max-age=".toList.isPrefixOf value = true) :
    directive value = some (value.drop 8) := by
  obtain ⟨rest, rfl⟩ := List.isPrefixOf_iff_prefix.mp hprefixed
  rfl

/-- A digit ends no directive, and neither does a sign. -/
theorem directiveNumber_of_atOnce {rest : List Char} {maxAge : ℕ} (hrest : AtOnce rest)
    (hread : stoul rest = .ok maxAge) : directiveNumber rest = maxAge := by
  have hdigit : ∀ digit : Char, digit.isDigit → decide (digit ∉ ", \r\n".toList) := by
    intro digit hdigit
    rw [decide_eq_true_eq]
    intro hmem
    have hends : ", \r\n".toList = [',', ' ', '\r', '\n'] := rfl
    simp only [hends, List.mem_cons, List.not_mem_nil, or_false] at hmem
    rcases hmem with rfl | rfl | rfl | rfl
    · cases hdigit
    · cases hdigit
    · cases hdigit
    · cases hdigit
  have hcut : scanWhole (rest.takeWhile (· ∉ ", \r\n".toList)) = scanWhole rest :=
    scanWhole_takeWhile hdigit (by decide) (by decide)
      fun blank hblank => decide_eq_true (hrest blank hblank)
  have hsame : stoul (rest.takeWhile (· ∉ ", \r\n".toList)) = stoul rest := by
    unfold stoul
    rw [hcut]
  rw [directiveNumber, hsame, hread]
  rfl

theorem directiveNumber_of_not_atOnce {rest : List Char} (hrest : ¬ AtOnce rest) :
    directiveNumber rest = 0 := by
  have hnone : (scanWhole (rest.takeWhile (· ∉ ", \r\n".toList))).2 = [] := by
    apply scanWhole_takeWhile_blank
    unfold AtOnce at hrest
    push Not at hrest
    obtain ⟨blank, hblank, hends⟩ := hrest
    exact ⟨blank, hblank, decide_eq_false (not_not.mpr hends)⟩
  have hthrows : stoul (rest.takeWhile (· ∉ ", \r\n".toList)) =
      .error ⟨.invalidArgument, "stoul"⟩ := if_pos hnone
  rw [directiveNumber, hthrows]
  rfl

/-! ## Lifetimes -/

/-- The lifetime of a pushed object, in seconds. -/
def pushLifetime (field : Option CacheControl) : Except StdException ℕ :=
  match field with
  | none => .ok (60 * cacheExpiry)
  | some field =>
      if "max-age=".toList.isPrefixOf field.value.toList then stoul (field.value.toList.drop 8)
      else .ok (60 * cacheExpiry)

/-- When the two sides agree, for a field and the `max-age` that the client has left over:
with `max-age=` at the start of the value, the number is not 0 and follows at once, or it is
the default of the pull side; otherwise the pull side has found the default of the push
side.  A name in a spelling that the client does not look for counts as no field. -/
def Agree (field : Option CacheControl) (left : ℕ) : Prop :=
  match field with
  | none => pullLifetime left ≡ 60 * cacheExpiry [MOD 2 ^ 55]
  | some field =>
      if "max-age=".toList.isPrefixOf field.value.toList then
        ∃ maxAge, stoul (field.value.toList.drop 8) = .ok maxAge ∧
          if isCacheControl field.line then
            (maxAge ≠ 0 ∧ AtOnce (field.value.toList.drop 8)) ∨ maxAge ≡ cacheExpiry [MOD 2 ^ 55]
          else maxAge ≡ pullLifetime left [MOD 2 ^ 55]
      else pullLifetime ((readMaxAge field.line).getD left) ≡ 60 * cacheExpiry [MOD 2 ^ 55]

theorem agree_iff (field : Option CacheControl) (left : ℕ) :
    Agree field left ↔ ∃ lifetime, pushLifetime field = .ok lifetime ∧
      lifetime ≡ pullLifetime ((field.bind fun field => readMaxAge field.line).getD left)
        [MOD 2 ^ 55] := by
  have hone : ∀ (lifetime other : ℕ), (∃ found, Except.ok (ε := StdException) lifetime = .ok found ∧
      found ≡ other [MOD 2 ^ 55]) ↔ other ≡ lifetime [MOD 2 ^ 55] := by
    intro lifetime other
    simp only [Except.ok.injEq, exists_eq_left']
    exact Nat.ModEq.comm
  cases field with
  | none =>
      rw [Agree, pushLifetime, hone]
      rfl
  | some field =>
      rw [Agree, pushLifetime, Option.bind_some]
      by_cases hprefixed : "max-age=".toList.isPrefixOf field.value.toList = true
      · rw [if_pos hprefixed, if_pos hprefixed, readMaxAge_line, directive_of_prefix hprefixed]
        refine exists_congr fun maxAge => and_congr_right fun hread => ?_
        by_cases hnamed : isCacheControl field.line = true
        · rw [if_pos hnamed, if_pos hnamed, Option.map_some, Option.getD_some]
          by_cases honce : AtOnce (field.value.toList.drop 8)
          · rw [directiveNumber_of_atOnce honce hread, pullLifetime]
            by_cases hzero : maxAge = 0
            · subst hzero
              simp
            · rw [if_pos hzero]
              exact iff_of_true (Or.inl ⟨hzero, honce⟩) rfl
          · rw [directiveNumber_of_not_atOnce honce]
            simp [honce, pullLifetime]
        · rw [if_neg hnamed, if_neg hnamed]
          rfl
      · rw [if_neg hprefixed, if_neg hprefixed, hone]

/-! ## One object pushed, one pulled -/

namespace PushObjectIngester

/-- The start of a push that is let in, with its expiry time. -/
theorem handleRequest_first_expires {ingester : PushObjectIngester} {call : HandleRequest}
    {expires : Option TimePoint} (hfree : ingester.conCls call.connection = none)
    (hexpires : headerExpiry call.getHeader call.now = .ok expires)
    (haccepted : Accepted ingester.service call.decisions) :
    ∃ started request, ingester.handleRequest call = .ok (started, true) ∧
      started.conCls call.connection = some ingester.requests.length ∧
      started.requests[ingester.requests.length]? = some request ∧
      request.method = call.method ∧ request.expires = expires ∧
      started.pushed = ingester.pushed ∧ started.objectStore = ingester.objectStore := by
  have hkeeps : ∀ subscriber (delivery : Delivery Request),
      delivery.world.expires = expires →
        (delivery.processEvent (pushHandler call.decisions) subscriber).world.expires =
          expires := by
    intro subscriber delivery hworld
    change ((call.decisions subscriber).errors.foldl _ delivery.world).expires = expires
    generalize (call.decisions subscriber).errors = errors
    generalize delivery.world = world at hworld
    induction errors generalizing world with
    | nil => exact hworld
    | cons error errors ih =>
        apply ih
        rw [Request.setError_expires, hworld]
  let sent := ingester.service.sendEventSynchronous (pushHandler call.decisions)
    (makeRequest call expires) (Event.new "ObjectPushStart")
  obtain ⟨⟨hmethod, -, -⟩, hresult⟩ :
      SameButError (makeRequest call expires) sent.1.world ∧
        (sent.2 = true ↔ Accepted ingester.service call.decisions) :=
    sendEventSynchronous_accepted ingester.service call.decisions (makeRequest call expires)
  have hstart : (Delivery.mk (makeRequest call expires) (Event.new "ObjectPushStart")
      []).world.expires = expires := rfl
  have hworld : sent.1.world.expires = expires :=
    ingester.service.sendEventSynchronous_keeps hkeeps hstart
  let started : PushObjectIngester := { ingester with
    requests := ingester.requests ++ [sent.1.world]
    activeRequests := ingester.activeRequests ++ [ingester.requests.length]
    conCls := Function.update ingester.conCls call.connection (some ingester.requests.length) }
  have hhandle : ingester.handleRequest call = .ok (started, true) := by
    rw [handleRequest, hfree, hexpires, ← hresult.mpr haccepted]
    simp [Except.map, startRequest, addRequest, started, sent]
  exact ⟨started, sent.1.world, hhandle, Function.update_self .., by simp [started], hmethod,
    hworld, rfl, rfl⟩

/-- Uploads leave the expiry time of a request alone. -/
theorem continueAll_expires {connection : Connection} {pointer : RequestPtr}
    {uploads : List HandleRequest}
    (huploads : ∀ call ∈ uploads, call.connection = connection ∧ call.uploadData ≠ [])
    {current : PushObjectIngester} {request : Request}
    (hcon : current.conCls connection = some pointer)
    (hrequest : current.requests[pointer]? = some request) :
    ∃ next last, current.continueAll uploads = .ok next ∧
      next.conCls connection = some pointer ∧ next.requests[pointer]? = some last ∧
      last.method = request.method ∧ last.expires = request.expires ∧
      next.pushed = current.pushed ∧ next.objectStore = current.objectStore := by
  induction uploads generalizing current request with
  | nil => exact ⟨current, request, rfl, hcon, hrequest, rfl, rfl, rfl, rfl⟩
  | cons call uploads ih =>
      obtain ⟨hconnection, hupload⟩ := huploads call List.mem_cons_self
      have hfirst : (current.handleRequest call).map Prod.fst =
          .ok (current.addBodyBlock pointer call.uploadData) := by
        rw [handleRequest_upload (hconnection ▸ hcon) hupload]
        rfl
      have hblock : (current.addBodyBlock pointer call.uploadData).requests[pointer]? =
          some (request.addBodyBlock call.uploadData) := by
        simp [addBodyBlock, hrequest]
      obtain ⟨next, last, hrest, hkept⟩ :=
        ih (fun other hother => huploads other (List.mem_cons_of_mem call hother))
          (show (current.addBodyBlock pointer call.uploadData).conCls connection = some pointer
            from hcon) hblock
      exact ⟨next, last, (foldlM_cons_ok hfirst).trans hrest, hkept⟩

/-- A push that is stored with an expiry time. -/
def StoredUntil (ingester : PushObjectIngester) (calls : RequestCalls) (expiry : TimePoint) :
    Prop :=
  ∃ after object, ingester.serve calls = .ok after ∧
    after.pushed = ingester.pushed ++ [object] ∧
    after.objectStore =
      ingester.objectStore.addObject object.objectId object.data object.metadata ∧
    object.metadata.cacheExpires = some expiry

/-- The expiry time of a push is that of its header, or the default from the time at which
it is processed. -/
theorem storedUntil_iff {ingester : PushObjectIngester} {calls : RequestCalls}
    (hfree : ingester.conCls calls.first.connection = none)
    (haccepted : Accepted ingester.service calls.first.decisions)
    (hmethod : Request.Allowed calls.first.method) (expiry : TimePoint) :
    ingester.StoredUntil calls expiry ↔
      ∃ expires, headerExpiry calls.first.getHeader calls.first.now = .ok expires ∧
        expires.getD (addSeconds calls.last.surroundings.expiresFrom (60 * cacheExpiry)) =
          expiry := by
  cases hexpires : headerExpiry calls.first.getHeader calls.first.now with
  | error exception =>
      refine iff_of_false ?_ (fun ⟨_, hok, _⟩ => by cases hok)
      rintro ⟨after, object, hserve, -⟩
      rw [serve, handleRequest, hfree, hexpires] at hserve
      cases hserve
  | ok expires =>
      obtain ⟨started, request, hhandle, hcon, hrequest, hsame, hkept, hpushed, hstore⟩ :=
        handleRequest_first_expires hfree hexpires haccepted
      obtain ⟨next, last, huploads, hconNext, hlast, hsameLast, hkeptLast, hpushedNext,
        hstoreNext⟩ := continueAll_expires calls.huploads hcon hrequest
      obtain ⟨hconnection, hempty⟩ := calls.hlast
      have hallowed : Request.Allowed last.method := by
        rw [hsameLast, hsame]
        exact hmethod
      obtain ⟨urlPrefix, url, ingestBaseUrl, object, hobject, hprocessed⟩ :=
        next.processRequest_metadata ingester.requests.length last calls.last.surroundings
      let after : PushObjectIngester := ({ next.addObject object with
        urlPrefix := urlPrefix }).queueResponse calls.last.connection ingester.requests.length
          { last with objectId := object.objectId, statusCode := 200 }
      have hfinish : (next.handleRequest calls.last).map Prod.fst = .ok after := by
        have hnotUpload : ¬ calls.last.uploadData ≠ [] := not_not.mpr hempty
        simp only [handleRequest, hconnection, hconNext, continueRequest, if_neg hnotUpload,
          hlast, requestHandler, if_neg (not_not.mpr hallowed), hprocessed, after]
        rfl
      have hserve : ingester.serve calls = .ok after := by
        rw [serve, hhandle]
        exact (foldlM_append_ok huploads).trans (foldlM_cons_ok hfinish)
      have hexpiry : object.metadata.cacheExpires = some (expires.getD
          (addSeconds calls.last.surroundings.expiresFrom (60 * cacheExpiry))) := by
        rw [hobject, ← hkept, ← hkeptLast]
        rfl
      have hafter : after.pushed = ingester.pushed ++ [object] := by
        rw [← hpushed, ← hpushedNext]
        rfl
      simp only [Except.ok.injEq, exists_eq_left']
      constructor
      · rintro ⟨other, stored, hserved, hadded, -, huntil⟩
        obtain rfl := Except.ok.inj (hserve.symm.trans hserved)
        rw [hafter] at hadded
        obtain rfl := (List.cons.inj (List.append_cancel_left hadded)).1
        exact Option.some.inj (hexpiry.symm.trans huntil)
      · rintro rfl
        refine ⟨after, object, hserve, hafter, ?_, hexpiry⟩
        rw [← hstore, ← hstoreNext]
        rfl

end PushObjectIngester

namespace PullObjectIngester

/-- A round that stores its object with an expiry time. -/
def StoredUntil (ingester : PullObjectIngester) (objects : ObjectStore) (item : IngestItem)
    (round : Round) (expiry : TimePoint) : Prop :=
  ∃ after next metadata, ingester.ingest objects round = .ok (after, next) ∧
    next.getMetadata item.objectId = .ok metadata ∧ metadata.cacheExpires = some expiry

/-- The expiry time of a fetched object is that of the `max-age` the client has in the end. -/
theorem storedUntil_iff {ingester : PullObjectIngester} {item : IngestItem} {round : Round}
    {chain : Chain} (objects : ObjectStore) (hfetching : ingester.fetching = some item)
    (htime : 0 < timeout item round.now) (hhandle : ingester.curl.hasHandle = true)
    (htransfer : round.transferOf item = .completed chain) (expiry : TimePoint) :
    ingester.StoredUntil objects item round expiry ↔
      addSeconds round.expiresFrom
        (pullLifetime (chain.lastMaxAge.getD ingester.curl.cacheControlMaxAge)) = expiry := by
  obtain ⟨after, curl, hingest, hage⟩ :=
    ingest_completed objects hfetching htime hhandle htransfer
  have hmetadata : (objects.addObject item.objectId curl.receivedData
      (objectMetadata item curl round)).getMetadata item.objectId =
        .ok (objectMetadata item curl round).moveConstruct :=
    ObjectStore.getMetadata_addObject_self ..
  rw [← hage]
  constructor
  · rintro ⟨other, next, metadata, hother, hfound, huntil⟩
    rw [hingest] at hother
    obtain ⟨-, rfl⟩ := Prod.mk.inj (Except.ok.inj hother)
    rw [hmetadata] at hfound
    rw [← Except.ok.inj hfound] at huntil
    exact Option.some.inj huntil
  · rintro rfl
    exact ⟨after, _, _, hingest, hmetadata, rfl⟩

end PullObjectIngester

/-- An object that is pushed and one that is pulled, both at one time and with one
`Cache-Control` field, or both without; `left` is the `max-age` that the client has from
responses before the last one. -/
structure Received where
  time : TimePoint
  field : Option CacheControl
  pusher : PushObjectIngester
  calls : RequestCalls
  puller : PullObjectIngester
  objects : ObjectStore
  item : PullObjectIngester.IngestItem
  round : PullObjectIngester.Round
  chain : Chain
  hfree : pusher.conCls calls.first.connection = none
  haccepted : PushObjectIngester.Accepted pusher.service calls.first.decisions
  hmethod : Request.Allowed calls.first.method
  hfield : calls.first.getHeader "Cache-Control" = field.map CacheControl.value
  hage : calls.first.getHeader "Age" = none
  hread : calls.first.now = time
  hprocessed : calls.last.surroundings.expiresFrom = time
  hfetching : puller.fetching = some item
  htimeout : 0 < PullObjectIngester.timeout item round.now
  hhandle : puller.curl.hasHandle = true
  htransfer : round.transferOf item = .completed chain
  hcarries : chain.final.Carries field
  hstored : round.expiresFrom = time

namespace Received

/-- The `max-age` the client has from responses before the last one. -/
def left (received : Received) : ℕ :=
  (received.chain.earlier.filterMap Response.maxAge).getLast?.getD
    received.puller.curl.cacheControlMaxAge

/-- Both objects are stored, and with the same expiry time. -/
def SameExpiry (received : Received) : Prop :=
  ∃ expiry, received.pusher.StoredUntil received.calls expiry ∧
    received.puller.StoredUntil received.objects received.item received.round expiry

theorem headerExpiry_eq {getHeader : String → Option String} {field : Option CacheControl}
    (hfield : getHeader "Cache-Control" = field.map CacheControl.value)
    (hage : getHeader "Age" = none) (time : TimePoint) :
    (headerExpiry getHeader time).map
        (fun expires => expires.getD (addSeconds time (60 * cacheExpiry))) =
      (pushLifetime field).map (addSeconds time) := by
  rw [headerExpiry, hfield, hage]
  cases field with
  | none => rfl
  | some field =>
      rw [pushLifetime, Option.map_some]
      by_cases hprefixed : "max-age=".toList.isPrefixOf field.value.toList = true
      · simp only [if_pos hprefixed]
        cases stoul (field.value.toList.drop 8) with
        | error exception => rfl
        | ok maxAge => rfl
      · simp only [if_neg hprefixed]
        rfl

/-- Push and pull store an object with the same expiry time exactly when the parsers agree
on its field. -/
theorem sameExpiry_iff_agree (received : Received) :
    received.SameExpiry ↔ Agree received.field received.left := by
  have hlast : received.chain.lastMaxAge.getD received.puller.curl.cacheControlMaxAge =
      (received.field.bind fun field => readMaxAge field.line).getD received.left := by
    rw [Chain.lastMaxAge, Chain.responses, List.filterMap_append, List.getLast?_append, left,
      ← received.hcarries.maxAge_eq]
    cases hfinal : received.chain.final.maxAge with
    | none => simp [hfinal]
    | some maxAge => simp [hfinal]
  have hpush := PushObjectIngester.storedUntil_iff received.hfree received.haccepted
    received.hmethod
  have hpull := PullObjectIngester.storedUntil_iff received.objects received.hfetching
    received.htimeout received.hhandle received.htransfer
  have hheader := headerExpiry_eq received.hfield received.hage received.time
  rw [received.hread, received.hprocessed] at hpush
  rw [received.hstored, hlast] at hpull
  simp only [SameExpiry, hpush, hpull, exists_eq_right', agree_iff]
  cases hexpires : headerExpiry received.calls.first.getHeader received.time with
  | error exception =>
      rw [hexpires] at hheader
      cases hlifetime : pushLifetime received.field with
      | error other => simp
      | ok lifetime =>
          rw [hlifetime] at hheader
          cases hheader
  | ok expires =>
      rw [hexpires] at hheader
      cases hlifetime : pushLifetime received.field with
      | error other =>
          rw [hlifetime] at hheader
          cases hheader
      | ok lifetime =>
          rw [hlifetime] at hheader
          have hsame : expires.getD (addSeconds received.time (60 * cacheExpiry)) =
              addSeconds received.time lifetime := Except.ok.inj hheader
          simp only [Except.ok.injEq, exists_eq_left', hsame]
          exact addSeconds_eq_iff received.time _ _

/-- A `POST` and a fetch at one time, with a field or without. -/
def receivedWith (field : Option CacheControl) (final : Response) (hcarries : final.Carries field) :
    Received :=
  let call : HandleRequest := {
    connection := 1
    url := "/segment"
    method := "POST"
    version := "HTTP/1.1"
    uploadData := []
    getHeader := fun name =>
      if name = "Cache-Control" then field.map CacheControl.value else none
    chronoParse := fun _ _ => none
    now := 0
    decisions := fun _ => ⟨[], []⟩
    surroundings := ⟨0, 0, 0, "http://127.0.0.1:80/", "", none, "1"⟩ }
  let item : PullObjectIngester.IngestItem :=
    ⟨"1", "http://example.com/segment", "segment", none, none, none⟩
  let chain : Chain := ⟨[], final, none, "http://example.com/segment", [7]⟩
  { time := 0
    field := field
    pusher := .new .new .new
    calls := {
      first := call, uploads := [], last := call
      huploads := fun _ hcall => absurd hcall List.not_mem_nil
      hlast := ⟨rfl, rfl⟩ }
    puller := { PullObjectIngester.new true [] with fetching := some item }
    objects := .new
    item := item
    round := ⟨0, 0, 0, 0, fun _ _ => .completed chain⟩
    chain := chain
    hfree := rfl
    haccepted := fun _ _ => rfl
    hmethod := .inr (.inr rfl)
    hfield := rfl
    hage := rfl
    hread := rfl
    hprocessed := rfl
    hfetching := rfl
    htimeout := show (0 : ℤ) < 10000 from by decide
    hhandle := rfl
    htransfer := rfl
    hcarries := hcarries
    hstored := rfl }

/-- A field with `max-age` behind another directive. -/
def publicField : CacheControl where
  name := "Cache-Control".toList
  blank := [' ']
  value := "public, max-age=60"
  hname := by decide +kernel
  hblank := by simp

theorem statusCodeOf_ok : statusCodeOf (stripCrLf "HTTP/1.1 200 OK\r\n".toList) = some 200 := by
  decide +kernel

/-- A response that carries it. -/
def publicResponse : Response where
  statusCode := 200
  statusLine := "HTTP/1.1 200 OK\r\n".toList
  headers := ["Cache-Control: public, max-age=60\r\n".toList]
  trailers := []
  contentType := none
  hstatus := statusCodeOf_ok
  hheaders := by decide +kernel
  htrailers := Response.no_trailers

/-- Without a field the pushed object expires after ten minutes and the pulled one after
ten seconds; with the `max-age` in second place, after ten minutes and after one. -/
theorem expiry_differs :
    ¬ (receivedWith none Curl.plainSegment.final (by decide +kernel)).SameExpiry ∧
      ¬ (receivedWith (some publicField) publicResponse (by decide +kernel)).SameExpiry := by
  have hdiffers : ∀ received : Received,
      (headerExpiry received.calls.first.getHeader received.calls.first.now).map (fun expires =>
          expires.getD (addSeconds received.calls.last.surroundings.expiresFrom
            (60 * cacheExpiry))) ≠
        .ok (addSeconds received.round.expiresFrom (pullLifetime
          (received.chain.lastMaxAge.getD received.puller.curl.cacheControlMaxAge))) →
      ¬ received.SameExpiry := by
    rintro received hne ⟨expiry, hpushed, hpulled⟩
    obtain ⟨expires, hexpires, rfl⟩ := (PushObjectIngester.storedUntil_iff received.hfree
      received.haccepted received.hmethod expiry).mp hpushed
    rw [PullObjectIngester.storedUntil_iff received.objects received.hfetching
      received.htimeout received.hhandle received.htransfer] at hpulled
    apply hne
    rw [hexpires, hpulled]
    rfl
  exact ⟨hdiffers _ (by decide +kernel), hdiffers _ (by decide +kernel)⟩

end Received

end Mbstf.Ingest
