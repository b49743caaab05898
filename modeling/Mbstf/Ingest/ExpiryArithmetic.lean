import Mbstf.Ingest.Freshness

/-!
# Expiry arithmetic

A `max-age` may be any number that `std::stoul` reads, a negative one included.  It goes
through a conversion to a signed count of seconds, a scaling to nanoseconds and an addition to
the clock, none of which is checked, and on the push side through the subtraction of an `Age`,
which is.  The expiry time should not lie before the receipt, and should grow with the age
that remains.
-/

namespace Mbstf.Ingest

open Mbstf.Objects Mbstf.Session

/-! ## Times -/

/-- No step of the addition of seconds to a time wraps round. -/
structure NoOverflow (now : TimePoint) (count : ℕ) : Prop where
  seconds : int64 count = count
  nanoseconds : int64 (count * nanosecondsPerSecond) = count * nanosecondsPerSecond
  sum : int64 (now + count * nanosecondsPerSecond) = now + count * nanosecondsPerSecond

theorem int64_lt (value : ℤ) : int64 value < 2 ^ 63 := by
  have hlt := Int.bmod_lt (x := value) (m := 2 ^ 64) (by norm_num)
  exact hlt

theorem int64_of_fits {value : ℤ} (hleast : 0 ≤ value) (hmost : value < 2 ^ 63) :
    int64 value = value := by
  rw [int64]
  apply Int.bmod_eq_of_le
  · have hhalf : -(((2 ^ 64 : ℕ) : ℤ) / 2) ≤ 0 := by norm_num
    exact hhalf.trans hleast
  · have hhalf : (((2 ^ 64 : ℕ) : ℤ) + 1) / 2 = 2 ^ 63 := by norm_num
    rw [hhalf]
    exact hmost

/-- The sum is the largest of the three values. -/
theorem noOverflow_iff {now : TimePoint} (hnow : 0 ≤ now) (count : ℕ) :
    NoOverflow now count ↔ now + count * nanosecondsPerSecond < 2 ^ 63 := by
  constructor
  · intro hexact
    rw [← hexact.sum]
    exact int64_lt _
  · intro hfits
    have hcount : (0 : ℤ) ≤ count := Int.natCast_nonneg count
    have hscaled : (count : ℤ) ≤ count * nanosecondsPerSecond := by
      rw [nanosecondsPerSecond]
      omega
    have hproduct : (count : ℤ) * nanosecondsPerSecond < 2 ^ 63 := by linarith
    exact ⟨int64_of_fits hcount (hscaled.trans_lt hproduct),
      int64_of_fits (hcount.trans hscaled) hproduct, int64_of_fits (by linarith) hfits⟩

theorem NoOverflow.addSeconds_eq {now : TimePoint} {count : ℕ} (hexact : NoOverflow now count) :
    addSeconds now count = now + count * nanosecondsPerSecond := by
  rw [addSeconds, hexact.seconds, hexact.nanoseconds, hexact.sum]

/-- A later expiry for a longer lifetime. -/
theorem NoOverflow.mono {now : TimePoint} (hnow : 0 ≤ now) {less more : ℕ} (hle : less ≤ more)
    (hexact : NoOverflow now more) :
    NoOverflow now less ∧ addSeconds now less ≤ addSeconds now more := by
  have hscaled : (less : ℤ) * nanosecondsPerSecond ≤ more * nanosecondsPerSecond := by
    rw [nanosecondsPerSecond]
    omega
  have hless : NoOverflow now less := by
    rw [noOverflow_iff hnow] at hexact ⊢
    linarith
  refine ⟨hless, ?_⟩
  rw [hless.addSeconds_eq, hexact.addSeconds_eq]
  linarith

/-! ## The text of a `max-age` -/

/-- The text that the client takes for the `max-age` of a header line. -/
def maxAgeText (line : List Char) : Option (List Char) :=
  if isCacheControl line then
    (directive ((line.drop 14).dropWhile (· = ' '))).map
      fun rest => rest.takeWhile (· ∉ ", \r\n".toList)
  else none

/-- The number that is read from the text. -/
def maxAgeNumber (text : List Char) : ℕ := (stoul text).toOption.getD 0

theorem readMaxAge_eq_text (line : List Char) :
    readMaxAge line = (maxAgeText line).map maxAgeNumber := by
  rw [readMaxAge, maxAgeText]
  split
  · rw [Option.map_map, directive]
    refine congrArg (Option.map · _) (funext fun rest => ?_)
    rw [Function.comp_apply, maxAgeNumber]
    cases stoul (rest.takeWhile (· ∉ ", \r\n".toList)) with
    | ok maxAge => rfl
    | error exception => rfl
  · rfl

/-- The texts of all header lines in a chain of responses, in order. -/
def Chain.maxAgeTexts (chain : Chain) : List (List Char) :=
  chain.responses.flatMap fun response =>
    response.headers.filterMap fun line => maxAgeText (stripCrLf line)

/-- The last text is what counts. -/
theorem Chain.lastMaxAge_eq (chain : Chain) :
    chain.lastMaxAge = chain.maxAgeTexts.getLast?.map maxAgeNumber := by
  have hresponse : ∀ response : Response, response.maxAge =
      (response.headers.filterMap fun line => maxAgeText (stripCrLf line)).getLast?.map
        maxAgeNumber := by
    intro response
    rw [Response.maxAge, ← List.getLast?_map, List.map_filterMap]
    simp only [readMaxAge_eq_text]
  rw [Chain.lastMaxAge, Chain.maxAgeTexts, List.getLast?_filterMap, ← List.getLast?_map,
    List.map_flatMap, List.getLast?_flatMap]
  simp only [List.getLast?_map]
  exact congrArg (List.findSome? · chain.responses.reverse) (funext hresponse)

/-! ## Stale objects -/

namespace PushObjectIngester

/-- A push that is stored, and stale at a time. -/
def StoredStale (ingester : PushObjectIngester) (calls : RequestCalls) (now : TimePoint) : Prop :=
  ∃ after object, ingester.serve calls = .ok after ∧
    after.pushed = ingester.pushed ++ [object] ∧
    after.objectStore =
      ingester.objectStore.addObject object.objectId object.data object.metadata ∧
    after.objectStore.isStale object.objectId now = true

theorem storedStale_iff (ingester : PushObjectIngester) (calls : RequestCalls)
    (now : TimePoint) :
    ingester.StoredStale calls now ↔
      ∃ expiry, ingester.StoredUntil calls expiry ∧ expiry < now := by
  have hstale : ∀ object : PushedObject, (ingester.objectStore.addObject object.objectId object.data
      object.metadata).isStale object.objectId now = true ↔
        ∃ expiry, object.metadata.cacheExpires = some expiry ∧ expiry < now := fun object =>
    ObjectStore.isStale_iff (ObjectStore.getMetadata_addObject_self ..) now
  constructor
  · rintro ⟨after, object, hserve, hpushed, hstore, hpassed⟩
    rw [hstore, hstale] at hpassed
    obtain ⟨expiry, hexpiry, hlt⟩ := hpassed
    exact ⟨expiry, ⟨after, object, hserve, hpushed, hstore, hexpiry⟩, hlt⟩
  · rintro ⟨expiry, ⟨after, object, hserve, hpushed, hstore, hexpiry⟩, hlt⟩
    refine ⟨after, object, hserve, hpushed, hstore, ?_⟩
    rw [hstore, hstale]
    exact ⟨expiry, hexpiry, hlt⟩

end PushObjectIngester

namespace PullObjectIngester

/-- A round that stores its object, which is stale at a time. -/
def StoredStale (ingester : PullObjectIngester) (objects : ObjectStore) (item : IngestItem)
    (round : Round) (now : TimePoint) : Prop :=
  ∃ after next metadata, ingester.ingest objects round = .ok (after, next) ∧
    next.getMetadata item.objectId = .ok metadata ∧ next.isStale item.objectId now = true

theorem storedStale_iff (ingester : PullObjectIngester) (objects : ObjectStore)
    (item : IngestItem) (round : Round) (now : TimePoint) :
    ingester.StoredStale objects item round now ↔
      ∃ expiry, ingester.StoredUntil objects item round expiry ∧ expiry < now := by
  constructor
  · rintro ⟨after, next, metadata, hingest, hmetadata, hstale⟩
    obtain ⟨expiry, hexpiry, hlt⟩ := (ObjectStore.isStale_iff hmetadata now).mp hstale
    exact ⟨expiry, ⟨after, next, metadata, hingest, hmetadata, hexpiry⟩, hlt⟩
  · rintro ⟨expiry, ⟨after, next, metadata, hingest, hmetadata, hexpiry⟩, hlt⟩
    exact ⟨after, next, metadata, hingest, hmetadata,
      (ObjectStore.isStale_iff hmetadata now).mpr ⟨expiry, hexpiry, hlt⟩⟩

end PullObjectIngester

/-! ## Receipts -/

/-- What is left of a `max-age` less an `Age`; the `Age` may be no number. -/
def ageLeft (maxAge : ℕ) : Option String → Except StdException ℕ
  | none => .ok maxAge
  | some age => (stoul age.toList).map (maxAge - ·)

/-- A push with a `max-age` at the start of its `Cache-Control` field; the `Age` may be any
text, or missing. -/
structure PushReceipt where
  text : List Char
  maxAge : ℕ
  pusher : PushObjectIngester
  calls : RequestCalls
  hread : stoul text = .ok maxAge
  hcacheControl : calls.first.getHeader "Cache-Control" =
    some (String.ofList ("max-age=".toList ++ text))
  htime : 0 ≤ calls.first.now ∧ calls.first.now < 2 ^ 62
  hfree : pusher.conCls calls.first.connection = none
  haccepted : PushObjectIngester.Accepted pusher.service calls.first.decisions
  hmethod : Request.Allowed calls.first.method

/-- A fetch in which the last `max-age` of the header lines has this text. -/
structure PullReceipt where
  text : List Char
  maxAge : ℕ
  puller : PullObjectIngester
  objects : ObjectStore
  item : PullObjectIngester.IngestItem
  round : PullObjectIngester.Round
  chain : Chain
  hread : stoul text = .ok maxAge
  htext : chain.maxAgeTexts.getLast? = some text
  htime : 0 ≤ round.expiresFrom ∧ round.expiresFrom < 2 ^ 62
  hfetching : puller.fetching = some item
  htimeout : 0 < PullObjectIngester.timeout item round.now
  hhandle : puller.curl.hasHandle = true
  htransfer : round.transferOf item = .completed chain

/-- An object that arrives with a `max-age`, on one of the two paths. -/
inductive Receipt where
  | pushed (receipt : PushReceipt)
  | pulled (receipt : PullReceipt)

theorem remainingAge_eq_sub (maxAge ageVal : ℕ) : remainingAge maxAge ageVal = maxAge - ageVal := by
  rw [remainingAge]
  split
  case isTrue hle => exact (Nat.sub_eq_zero_of_le hle).symm
  case isFalse => rfl

/-- What the push ingester makes of the two header fields. -/
theorem headerExpiry_of_text {getHeader : String → Option String} {text : List Char}
    {maxAge : ℕ} (hcacheControl : getHeader "Cache-Control" =
      some (String.ofList ("max-age=".toList ++ text)))
    (hread : stoul text = .ok maxAge) (now : TimePoint) :
    headerExpiry getHeader now =
      (ageLeft maxAge (getHeader "Age")).map fun remaining => some (addSeconds now remaining) := by
  have hprefixed : "max-age=".toList.isPrefixOf ("max-age=".toList ++ text) := by
    rw [List.isPrefixOf_iff_prefix]
    exact List.prefix_append _ _
  have hdrop : ("max-age=".toList ++ text).drop 8 = text := rfl
  rw [headerExpiry, hcacheControl]
  simp only [String.toList_ofList, if_pos hprefixed, hdrop, hread, remainingAge_eq_sub]
  cases getHeader "Age" with
  | none => rfl
  | some age =>
      change (stoul age.toList).map (fun ageVal => some (addSeconds now (maxAge - ageVal))) =
        ((stoul age.toList).map (maxAge - ·)).map fun remaining => some (addSeconds now remaining)
      cases stoul age.toList with
      | error exception => simp only [Except.map]
      | ok ageVal => simp only [Except.map]

namespace Receipt

/-- The time that the expiry time is counted from. -/
def time : Receipt → TimePoint
  | pushed receipt => receipt.calls.first.now
  | pulled receipt => receipt.round.expiresFrom

/-- The age that remains, in seconds: all of the `max-age` on the pull side and without an
`Age`, and none with an `Age` that is no number. -/
def remaining : Receipt → Option ℕ
  | pushed receipt => (ageLeft receipt.maxAge (receipt.calls.first.getHeader "Age")).toOption
  | pulled receipt => some receipt.maxAge

/-- The object is stored, with this expiry time. -/
def Recorded : Receipt → TimePoint → Prop
  | pushed receipt => receipt.pusher.StoredUntil receipt.calls
  | pulled receipt =>
      receipt.puller.StoredUntil receipt.objects receipt.item receipt.round

/-- The object is stored, and stale at the time of its receipt. -/
def StaleOnArrival : Receipt → Prop
  | pushed receipt => receipt.pusher.StoredStale receipt.calls receipt.calls.first.now
  | pulled receipt => receipt.puller.StoredStale receipt.objects receipt.item receipt.round
      receipt.round.expiresFrom

/-- The lifetime that is counted for a remaining age. -/
def lifetime : Receipt → ℕ → ℕ
  | pushed _ => id
  | pulled _ => pullLifetime

/-- The receipts came in on one path. -/
def SamePath : Receipt → Receipt → Prop
  | pushed _, pushed _ => True
  | pulled _, pulled _ => True
  | _, _ => False

theorem time_nonneg (receipt : Receipt) : 0 ≤ receipt.time := by
  cases receipt with
  | pushed receipt => exact receipt.htime.1
  | pulled receipt => exact receipt.htime.1

theorem staleOnArrival_iff (receipt : Receipt) :
    receipt.StaleOnArrival ↔ ∃ expiry, receipt.Recorded expiry ∧ expiry < receipt.time := by
  cases receipt with
  | pushed receipt => exact receipt.pusher.storedStale_iff _ _
  | pulled receipt => exact receipt.puller.storedStale_iff _ _ _ _

/-- The expiry time is that of the lifetime for the age that remains. -/
theorem recorded_iff (receipt : Receipt) (expiry : TimePoint) :
    receipt.Recorded expiry ↔ ∃ remaining, receipt.remaining = some remaining ∧
      addSeconds receipt.time (receipt.lifetime remaining) = expiry := by
  cases receipt with
  | pushed receipt =>
      have hstored := PushObjectIngester.storedUntil_iff receipt.hfree receipt.haccepted
        receipt.hmethod expiry
      rw [headerExpiry_of_text receipt.hcacheControl receipt.hread] at hstored
      rw [Recorded, hstored, remaining, lifetime, time]
      cases ageLeft receipt.maxAge (receipt.calls.first.getHeader "Age") with
      | error exception => simp [Except.map, Except.toOption]
      | ok left => simp [Except.map, Except.toOption]
  | pulled receipt =>
      have hstored := PullObjectIngester.storedUntil_iff receipt.objects receipt.hfetching
        receipt.htimeout receipt.hhandle receipt.htransfer expiry
      have hnumber : maxAgeNumber receipt.text = receipt.maxAge := by
        rw [maxAgeNumber, receipt.hread]
        rfl
      rw [Chain.lastMaxAge_eq, receipt.htext, Option.map_some, Option.getD_some, hnumber]
        at hstored
      rw [Recorded, hstored, remaining, lifetime, time]
      simp only [Option.some.injEq, exists_eq_left']

/-! ## When expiry times are sound -/

/-- The object of a receipt is not stale on arrival, and its expiry time is not before the
receipt, not before that of a receipt at the same time with less left, and computed without
overflow. -/
structure ExpirySound (receipt : Receipt) : Prop where
  notStale : ¬ receipt.StaleOnArrival
  fresh : ∀ expiry, receipt.Recorded expiry → receipt.time ≤ expiry
  monotone : ∀ other : Receipt, other.SamePath receipt → other.time = receipt.time →
    ∀ less more, other.remaining = some less → receipt.remaining = some more → less < more →
      ∀ earlier later, other.Recorded earlier → receipt.Recorded later → earlier ≤ later
  exact : ∀ remaining, receipt.remaining = some remaining →
    NoOverflow receipt.time (receipt.lifetime remaining)

/-- The remaining age ends within 63 bits of nanoseconds, and on the pull side it is 0 or as
long as the default. -/
def Fits (receipt : Receipt) (remaining : ℕ) : Prop :=
  match receipt with
  | pushed _ => receipt.time + remaining * nanosecondsPerSecond < 2 ^ 63
  | pulled _ => remaining = 0 ∨
      (cacheExpiry ≤ remaining ∧ receipt.time + remaining * nanosecondsPerSecond < 2 ^ 63)

theorem timeout_pos {item : PullObjectIngester.IngestItem} (hdeadline : item.deadline = none)
    (now : TimePoint) : 0 < PullObjectIngester.timeout item now := by
  rw [PullObjectIngester.timeout, hdeadline]
  norm_num

/-- A fetch at any time, of an object with one header line. -/
def fetched (time : TimePoint) (htime : 0 ≤ time ∧ time < 2 ^ 62) (line text : List Char)
    (maxAge : ℕ) (hline : stripCrLf line ≠ []) (htext : maxAgeText (stripCrLf line) = some text)
    (hread : stoul text = .ok maxAge) : PullReceipt :=
  let item : PullObjectIngester.IngestItem :=
    ⟨"2", "http://example.com/index", "index", none, none, none⟩
  let final : Response := {
    statusCode := 200
    statusLine := "HTTP/1.1 200 OK\r\n".toList
    headers := [line]
    trailers := []
    contentType := none
    hstatus := Received.statusCodeOf_ok
    hheaders := fun other hother => by rwa [List.mem_singleton.mp hother]
    htrailers := Response.no_trailers }
  let chain : Chain := ⟨[], final, none, "http://example.com/index", [7]⟩
  { text := text
    maxAge := maxAge
    puller := { PullObjectIngester.new true [] with fetching := some item }
    objects := .new
    item := item
    round := ⟨time, time, time, time, fun _ _ => .completed chain⟩
    chain := chain
    hread := hread
    htext := by simp [Chain.maxAgeTexts, Chain.responses, chain, final, htext]
    htime := htime
    hfetching := rfl
    htimeout := timeout_pos rfl time
    hhandle := rfl
    htransfer := rfl }

theorem exact_iff {receipt : Receipt} {remaining : ℕ} :
    NoOverflow receipt.time remaining ↔
      receipt.time + remaining * nanosecondsPerSecond < 2 ^ 63 :=
  noOverflow_iff receipt.time_nonneg remaining

theorem SamePath.lifetime_eq {left right : Receipt} (hpath : left.SamePath right) :
    left.lifetime = right.lifetime := by
  cases left with
  | pushed left =>
      cases right with
      | pushed right => rfl
      | pulled right => exact hpath.elim
  | pulled left =>
      cases right with
      | pushed right => exact hpath.elim
      | pulled right => rfl

/-- A remaining age below the default of the pull side ends too early: without any age left the
object is kept for longer. -/
theorem ExpirySound.cacheExpiry_le {receipt : PullReceipt} (hsound : ExpirySound (pulled receipt))
    (hsome : receipt.maxAge ≠ 0) : cacheExpiry ≤ receipt.maxAge := by
  by_contra hless
  let expired : Receipt := pulled (fetched receipt.round.expiresFrom receipt.htime
    "Cache-Control: max-age=0\r\n".toList ['0'] 0 (by decide +kernel) (by decide +kernel)
    (by decide +kernel))
  have hexpired : expired.Recorded (addSeconds receipt.round.expiresFrom cacheExpiry) :=
    (expired.recorded_iff _).mpr ⟨0, rfl, rfl⟩
  have hstored : (pulled receipt).Recorded
      (addSeconds receipt.round.expiresFrom (pullLifetime receipt.maxAge)) :=
    ((pulled receipt).recorded_iff _).mpr ⟨receipt.maxAge, rfl, rfl⟩
  have hle := hsound.monotone expired trivial rfl 0 receipt.maxAge rfl rfl
    (Nat.pos_of_ne_zero hsome) _ _ hexpired hstored
  rw [pullLifetime, if_pos hsome] at hle
  obtain ⟨hnonneg, hmost⟩ := receipt.htime
  have hdefault : NoOverflow receipt.round.expiresFrom cacheExpiry := by
    rw [noOverflow_iff hnonneg, nanosecondsPerSecond, cacheExpiry]
    push_cast
    linarith
  obtain ⟨hexact, -⟩ := hdefault.mono hnonneg (not_le.mp hless).le
  rw [hdefault.addSeconds_eq, hexact.addSeconds_eq, nanosecondsPerSecond] at hle
  have hlt : (receipt.maxAge : ℤ) < cacheExpiry := by exact_mod_cast not_le.mp hless
  linarith

/-- What is counted does not overflow when the remaining age fits, and grows with it. -/
theorem Fits.lifetime_spec {receipt : Receipt} {remaining : ℕ} (hfits : receipt.Fits remaining) :
    NoOverflow receipt.time (receipt.lifetime remaining) ∧
      ∀ less < remaining, receipt.lifetime less ≤ receipt.lifetime remaining := by
  cases receipt with
  | pushed receipt => exact ⟨exact_iff.mpr hfits, fun less hless => hless.le⟩
  | pulled receipt =>
      rcases hfits with rfl | ⟨hleast, hmost⟩
      · refine ⟨?_, fun less hless => absurd hless (Nat.not_lt_zero less)⟩
        rw [noOverflow_iff (time_nonneg _), nanosecondsPerSecond, lifetime, pullLifetime,
          if_neg (not_not.mpr rfl), cacheExpiry, time]
        have htime := receipt.htime.2
        push_cast
        linarith
      · have hsome : remaining ≠ 0 := (lt_of_lt_of_le (by decide) hleast).ne'
        have hlifetime : (pulled receipt).lifetime remaining = remaining := if_pos hsome
        rw [hlifetime]
        refine ⟨exact_iff.mpr hmost, fun less hless => ?_⟩
        rw [lifetime, pullLifetime]
        split
        · exact hless.le
        · exact hleast

/-- An expiry time is sound just when the age that remains fits. -/
theorem expirySound_iff (receipt : Receipt) :
    ExpirySound receipt ↔
      ∀ remaining, receipt.remaining = some remaining → receipt.Fits remaining := by
  constructor
  · intro hsound remaining hremaining
    have hexact := hsound.exact remaining hremaining
    cases receipt with
    | pushed receipt => exact exact_iff.mp hexact
    | pulled receipt =>
        obtain rfl := Option.some.inj hremaining
        by_cases hnone : receipt.maxAge = 0
        · exact Or.inl hnone
        · have hlifetime : (pulled receipt).lifetime receipt.maxAge = receipt.maxAge :=
            if_pos hnone
          rw [hlifetime] at hexact
          exact Or.inr ⟨hsound.cacheExpiry_le hnone, exact_iff.mp hexact⟩
  · intro hfits
    have hfresh : ∀ expiry, receipt.Recorded expiry → receipt.time ≤ expiry := by
      intro expiry hrecorded
      obtain ⟨remaining, hremaining, rfl⟩ := (receipt.recorded_iff expiry).mp hrecorded
      rw [(hfits remaining hremaining).lifetime_spec.1.addSeconds_eq, nanosecondsPerSecond]
      linarith [Int.natCast_nonneg (receipt.lifetime remaining)]
    refine ⟨?_, hfresh, ?_,
      fun remaining hremaining => (hfits remaining hremaining).lifetime_spec.1⟩
    · rw [staleOnArrival_iff]
      rintro ⟨expiry, hrecorded, hlt⟩
      exact absurd hlt (not_lt.mpr (hfresh expiry hrecorded))
    · intro other hpath htime less more hless hmore hlt earlier later hearlier hlater
      obtain ⟨hexact, hgrows⟩ := (hfits more hmore).lifetime_spec
      obtain ⟨remaining, hremaining, rfl⟩ := (other.recorded_iff earlier).mp hearlier
      obtain rfl := Option.some.inj (hless.symm.trans hremaining)
      obtain ⟨remaining, hremaining, rfl⟩ := (receipt.recorded_iff later).mp hlater
      obtain rfl := Option.some.inj (hmore.symm.trans hremaining)
      rw [hpath.lifetime_eq, htime]
      exact (hexact.mono receipt.time_nonneg (hgrows less hlt)).2

/-- A `POST` with a `max-age`. -/
def posted (time : TimePoint) (htime : 0 ≤ time ∧ time < 2 ^ 62) (text : List Char) (maxAge : ℕ)
    (hread : stoul text = .ok maxAge) : PushReceipt :=
  let call : HandleRequest := {
    connection := 1
    url := "/segment"
    method := "POST"
    version := "HTTP/1.1"
    uploadData := []
    getHeader := fun name =>
      if name = "Cache-Control" then some (String.ofList ("max-age=".toList ++ text)) else none
    chronoParse := fun _ _ => none
    now := time
    decisions := fun _ => ⟨[], []⟩
    surroundings := ⟨0, 0, 0, "http://127.0.0.1:80/", "", none, "1"⟩ }
  { text := text
    maxAge := maxAge
    pusher := .new .new .new
    calls := {
      first := call, uploads := [], last := call
      huploads := fun _ hcall => absurd hcall List.not_mem_nil
      hlast := ⟨rfl, rfl⟩ }
    hread := hread
    hcacheControl := rfl
    htime := htime
    hfree := rfl
    haccepted := fun _ _ => rfl
    hmethod := .inr (.inr rfl) }

/-- A push with the largest `max-age` there is. -/
def longest : Receipt :=
  pushed (posted 1700000000000000000 (by norm_num) "18446744073709551615".toList
    18446744073709551615 (by decide +kernel))

/-- A fetch with a negative `max-age`. -/
def negative : Receipt :=
  pulled (fetched 1700000000000000000 (by norm_num) "Cache-Control: max-age=-1\r\n".toList
    "-1".toList 18446744073709551615 (by decide +kernel) (by decide +kernel) (by decide +kernel))

/-- A fetch with a `max-age` of one second. -/
def oneSecond : PullReceipt :=
  fetched 1700000000000000000 (by norm_num) "Cache-Control: max-age=1\r\n".toList "1".toList 1
    (by decide +kernel) (by decide +kernel) (by decide +kernel)

/-- The two large lifetimes end one second before the receipt; one second on the pull side ends
before no time at all. -/
theorem longest_not_sound :
    (longest.Recorded 1699999999000000000 ∧ ¬ ExpirySound longest) ∧
      (negative.Recorded 1699999999000000000 ∧ ¬ ExpirySound negative) ∧
      ¬ ExpirySound (pulled oneSecond) := by
  have hearly : ∀ receipt : Receipt, receipt.time = 1700000000000000000 →
      receipt.Recorded 1699999999000000000 → ¬ ExpirySound receipt := by
    intro receipt htime hrecorded hsound
    have hfresh := hsound.fresh _ hrecorded
    rw [htime] at hfresh
    norm_num at hfresh
  have hlongest : longest.Recorded 1699999999000000000 := by
    rw [recorded_iff]
    exact ⟨18446744073709551615, rfl, by decide +kernel⟩
  have hnegative : negative.Recorded 1699999999000000000 := by
    rw [recorded_iff]
    exact ⟨18446744073709551615, rfl, by decide +kernel⟩
  refine ⟨⟨hlongest, hearly longest rfl hlongest⟩, ⟨hnegative, hearly negative rfl hnegative⟩, ?_⟩
  intro hsound
  exact absurd (hsound.cacheExpiry_le one_ne_zero) (by decide)

end Receipt

end Mbstf.Ingest
