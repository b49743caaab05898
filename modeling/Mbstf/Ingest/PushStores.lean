import Mbstf.Ingest.PushIngester
import Mbstf.Core.Runs

/-!
# Stored once

The daemon's side of the callbacks is a protocol of its own: every HTTP request is an
exchange of a first call, uploads, a call with zero bytes and a completion, on one
connection, and exchanges on different connections interleave.  The ingester refines it:
it holds the blocks of each exchange, and stores them when the exchange is answered.
-/

namespace Mbstf.Ingest

open Mbstf.Objects Mbstf.Subscription

/-! ## The protocol -/

/-- One HTTP request, as the daemon sees it. -/
structure Exchange where
  start : HandleRequest
  blocks : List ObjectData
  answered : Bool
  closed : Bool

/-- All exchanges so far, and the one each connection is at. -/
structure Daemon where
  exchanges : List Exchange
  current : Connection → Option RequestPtr

namespace Daemon

def new : Daemon where
  exchanges := []
  current := fun _ => none

/-- The callbacks the daemon may make: a first call on a connection that is at no
exchange, uploads and then one call with zero bytes, and a completion at any point. -/
def step (daemon : Daemon) : PushObjectIngester.Callback → Option Daemon
  | .handleRequest call =>
      match daemon.current call.connection with
      | none =>
          some {
            exchanges := daemon.exchanges ++ [⟨call, [], false, false⟩]
            current := Function.update daemon.current call.connection
              (some daemon.exchanges.length) }
      | some pointer =>
          (daemon.exchanges[pointer]?).bind fun exchange =>
            if exchange.answered then none
            else if call.uploadData ≠ [] then
              some { daemon with
                exchanges := daemon.exchanges.set pointer
                  { exchange with blocks := exchange.blocks ++ [call.uploadData] } }
            else
              some { daemon with
                exchanges := daemon.exchanges.set pointer { exchange with answered := true } }
  | .requestCompletion connection =>
      (daemon.current connection).bind fun pointer =>
        (daemon.exchanges[pointer]?).map fun exchange =>
          { exchanges := daemon.exchanges.set pointer { exchange with closed := true }
            current := Function.update daemon.current connection none }

end Daemon

/-- A request with an allowed method and numbers that fit, whose start is accepted. -/
structure Ordinary (service : SubscriptionService) (call : HandleRequest) : Prop where
  method : Request.Allowed call.method
  maxAge : ∀ cacheControl digits, call.getHeader "Cache-Control" = some cacheControl →
    cacheControl.toList = "max-age=".toList ++ digits → IsUnsignedLong digits
  age : ∀ age, call.getHeader "Age" = some age → IsUnsignedLong age.toList
  accepted : PushObjectIngester.Accepted service call.decisions

theorem isOk_stoul {text : List Char} (htext : IsUnsignedLong text) : (stoul text).isOk := by
  rw [stoul_of_isUnsignedLong htext]
  rfl

theorem Ordinary.numbersRead {service : SubscriptionService} {call : HandleRequest}
    (hcall : Ordinary service call) : PushObjectIngester.NumbersRead call.getHeader := by
  intro cacheControl hheader hmaxAge
  obtain ⟨digits, hdigits⟩ := List.isPrefixOf_iff_prefix.mp hmaxAge
  have hdrop : cacheControl.toList.drop 8 = digits := by
    rw [← hdigits]
    rfl
  refine ⟨?_, fun age hage => isOk_stoul (hcall.age age hage)⟩
  rw [hdrop]
  exact isOk_stoul (hcall.maxAge cacheControl digits hheader hdigits.symm)

/-! ## What the ingester holds of an exchange -/

namespace PushObjectIngester

/-- What the request at `pointer` added to the store. -/
def pushedBy (ingester : PushObjectIngester) (pointer : RequestPtr) : List PushedObject :=
  ingester.pushed.filter fun object => object.request = pointer

/-- What the ingester holds of one exchange. -/
structure Tracks (ingester : PushObjectIngester) (pointer : RequestPtr)
    (exchange : Exchange) : Prop where
  holds : ∃ request, ingester.requests[pointer]? = some request ∧
    request.method = exchange.start.method ∧ request.bodyBlocks = exchange.blocks
  active : pointer ∈ ingester.activeRequests ↔ exchange.closed = false
  pushed : (ingester.pushedBy pointer).map PushedObject.data =
    if exchange.answered then [exchange.blocks.flatten] else []

/-- Two states hold the same of a request. -/
structure SameAt (before after : PushObjectIngester) (pointer : RequestPtr) : Prop where
  requests : after.requests[pointer]? = before.requests[pointer]?
  active : pointer ∈ after.activeRequests ↔ pointer ∈ before.activeRequests
  pushed : after.pushedBy pointer = before.pushedBy pointer

theorem Tracks.frame {before after : PushObjectIngester} {pointer : RequestPtr}
    {exchange : Exchange} (htracks : before.Tracks pointer exchange)
    (hsame : SameAt before after pointer) : after.Tracks pointer exchange where
  holds := by
    rw [hsame.requests]
    exact htracks.holds
  active := hsame.active.trans htracks.active
  pushed := by
    rw [hsame.pushed]
    exact htracks.pushed

/-- The ingester stores what the exchanges carry, once each; `objectStore` is the store at
the start. -/
structure StoresOnce (objectStore : ObjectStore) (daemon : Daemon)
    (ingester : PushObjectIngester) : Prop where
  tracks : ∀ pointer exchange, daemon.exchanges[pointer]? = some exchange →
    ingester.Tracks pointer exchange
  activeStarted : ∀ pointer ∈ ingester.activeRequests, pointer < daemon.exchanges.length
  nodup : ingester.activeRequests.Nodup
  pushedStarted : ∀ object ∈ ingester.pushed, object.request < daemon.exchanges.length
  stored : ingester.objectStore =
    (ingester.pushed.map PushedObject.call).foldl ObjectStore.exec objectStore

/-- `StoresOnce`, with what the next callback needs. -/
structure Refines (service : SubscriptionService) (objectStore : ObjectStore)
    (daemon : Daemon) (ingester : PushObjectIngester) : Prop where
  stores : StoresOnce objectStore daemon ingester
  service : ingester.service = service
  conCls : ingester.conCls = daemon.current
  length : ingester.requests.length = daemon.exchanges.length

variable {service : SubscriptionService} {objectStore : ObjectStore} {daemon : Daemon}
variable {ingester after : PushObjectIngester}

/-- One exchange goes on, and the ingester with it; the others are left alone. -/
theorem tracks_set {exchanges : List Exchange} {pointer : RequestPtr} {next : Exchange}
    (htracks : ∀ other exchange, exchanges[other]? = some exchange →
      ingester.Tracks other exchange)
    (hnext : after.Tracks pointer next)
    (hframe : ∀ other, other ≠ pointer → SameAt ingester after other) :
    ∀ other exchange, (exchanges.set pointer next)[other]? = some exchange →
      after.Tracks other exchange := by
  intro other exchange hother
  by_cases hsame : pointer = other
  · subst hsame
    rw [List.getElem?_set_self'] at hother
    obtain ⟨_, _, rfl⟩ := Option.map_eq_some_iff.mp hother
    exact hnext
  · rw [List.getElem?_set_ne hsame] at hother
    exact (htracks other exchange hother).frame (hframe other (Ne.symm hsame))

/-- One exchange starts; the ones before it are left alone. -/
theorem tracks_concat {exchanges : List Exchange} {next : Exchange}
    (htracks : ∀ other exchange, exchanges[other]? = some exchange →
      ingester.Tracks other exchange)
    (hnext : after.Tracks exchanges.length next)
    (hframe : ∀ other < exchanges.length, SameAt ingester after other) :
    ∀ other exchange, (exchanges ++ [next])[other]? = some exchange →
      after.Tracks other exchange := by
  intro other exchange hother
  rw [List.getElem?_append] at hother
  split at hother
  case isTrue hold =>
      exact (htracks other exchange hother).frame (hframe other hold)
  case isFalse hlength =>
      obtain ⟨hshort, -⟩ := List.getElem?_eq_some_iff.mp hother
      rw [List.length_singleton] at hshort
      obtain rfl : other = exchanges.length := Nat.le_antisymm
        (Nat.sub_eq_zero_iff_le.mp (Nat.lt_one_iff.mp hshort)) (not_lt.mp hlength)
      rw [Nat.sub_self] at hother
      exact Option.some.inj hother ▸ hnext

/-- Nothing is stored for a request that has not started. -/
theorem StoresOnce.pushedBy_length (hstores : StoresOnce objectStore daemon ingester) :
    ingester.pushedBy daemon.exchanges.length = [] := by
  rw [pushedBy, List.filter_eq_nil_iff]
  intro object hobject
  have hstarted := hstores.pushedStarted object hobject
  simpa using hstarted.ne

/-- What was stored, after one more object. -/
theorem StoresOnce.stored_addObject (hstores : StoresOnce objectStore daemon ingester)
    (object : PushedObject) :
    (ingester.addObject object).objectStore =
      ((ingester.addObject object).pushed.map PushedObject.call).foldl ObjectStore.exec
        objectStore := by
  have hbefore := hstores.stored
  simp only [addObject, List.map_append, List.foldl_append, ← hbefore]
  rfl

/-- A first call starts an exchange. -/
theorem Refines.start (hrefines : Refines service objectStore daemon ingester)
    {call : HandleRequest} (hcall : Ordinary service call)
    (hfree : daemon.current call.connection = none) :
    ∃ after, ingester.callback (.handleRequest call) = some after ∧
      Refines service objectStore {
        exchanges := daemon.exchanges ++ [⟨call, [], false, false⟩]
        current := Function.update daemon.current call.connection
          (some daemon.exchanges.length) } after := by
  obtain ⟨request, accepted, hmethod, hblocks, -, -, hhandle⟩ :=
    ingester.handleRequest_first (hrefines.conCls ▸ hfree) hcall.numbersRead
  rw [hrefines.length, hrefines.conCls] at hhandle
  let after : PushObjectIngester := { ingester with
    requests := ingester.requests ++ [request]
    activeRequests := ingester.activeRequests ++ [daemon.exchanges.length]
    conCls := Function.update daemon.current call.connection (some daemon.exchanges.length) }
  have hcallback : ingester.callback (.handleRequest call) = some after := by
    rw [callback, hhandle]
    rfl
  have hnew : daemon.exchanges.length ∉ ingester.activeRequests := fun hactive =>
    absurd (hrefines.stores.activeStarted _ hactive) (lt_irrefl _)
  have hlast : after.Tracks daemon.exchanges.length ⟨call, [], false, false⟩ := {
    holds := ⟨request, by simp [after, ← hrefines.length], hmethod, hblocks⟩
    active := by simp [after]
    pushed := congrArg (List.map PushedObject.data) hrefines.stores.pushedBy_length }
  have hframe : ∀ other < daemon.exchanges.length, SameAt ingester after other := by
    intro other hother
    refine ⟨List.getElem?_append_left (hrefines.length ▸ hother), ?_, rfl⟩
    simp [after, hother.ne]
  refine ⟨after, hcallback, ⟨tracks_concat hrefines.stores.tracks hlast hframe, ?_, ?_, ?_,
    hrefines.stores.stored⟩, hrefines.service, rfl, ?_⟩
  · intro pointer hpointer
    rw [List.length_append]
    rcases List.mem_append.mp hpointer with hold | hlast
    · exact Nat.lt_add_right _ (hrefines.stores.activeStarted pointer hold)
    · rw [List.mem_singleton.mp hlast]
      exact Nat.lt_succ_self _
  · exact List.nodup_append.mpr ⟨hrefines.stores.nodup, List.nodup_singleton _, by
      intro pointer hpointer last hlast hsame
      rw [List.mem_singleton.mp hlast] at hsame
      exact hnew (hsame ▸ hpointer)⟩
  · intro object hobject
    rw [List.length_append]
    exact Nat.lt_add_right _ (hrefines.stores.pushedStarted object hobject)
  · simp [after, hrefines.length]

/-- An exchange that is there has a request. -/
theorem Refines.conCls_eq (hrefines : Refines service objectStore daemon ingester)
    {connection : Connection} {pointer : RequestPtr}
    (hcurrent : daemon.current connection = some pointer) :
    ingester.conCls connection = some pointer := by
  rw [hrefines.conCls, hcurrent]

/-- An upload adds its block to the exchange and to the request. -/
theorem Refines.upload (hrefines : Refines service objectStore daemon ingester)
    {call : HandleRequest} {pointer : RequestPtr} {exchange : Exchange}
    (hcurrent : daemon.current call.connection = some pointer)
    (hexchange : daemon.exchanges[pointer]? = some exchange)
    (hanswered : exchange.answered = false) (hupload : call.uploadData ≠ []) :
    ∃ after, ingester.callback (.handleRequest call) = some after ∧
      Refines service objectStore { daemon with
        exchanges := daemon.exchanges.set pointer
          { exchange with blocks := exchange.blocks ++ [call.uploadData] } } after := by
  let after : PushObjectIngester := ingester.addBodyBlock pointer call.uploadData
  have hcallback : ingester.callback (.handleRequest call) = some after := by
    rw [callback, handleRequest_upload (hrefines.conCls_eq hcurrent) hupload]
    rfl
  have htracks := hrefines.stores.tracks pointer exchange hexchange
  obtain ⟨request, hrequest, hmethod, hblocks⟩ := htracks.holds
  have hnext : after.Tracks pointer
      { exchange with blocks := exchange.blocks ++ [call.uploadData] } := {
    holds := by
      refine ⟨request.addBodyBlock call.uploadData, ?_, hmethod, ?_⟩
      · simp [after, addBodyBlock, hrequest]
      · simp [Request.addBodyBlock, hblocks]
    active := htracks.active
    pushed := by
      have hpushed := htracks.pushed
      simp only [hanswered, Bool.false_eq_true, if_false] at hpushed ⊢
      exact hpushed }
  have hframe : ∀ other, other ≠ pointer → SameAt ingester after other := fun other hother =>
    ⟨List.getElem?_modify_ne _ _ (Ne.symm hother), Iff.rfl, rfl⟩
  refine ⟨after, hcallback, ⟨tracks_set hrefines.stores.tracks hnext hframe, ?_,
    hrefines.stores.nodup, ?_, hrefines.stores.stored⟩, hrefines.service, hrefines.conCls, ?_⟩
  · intro active hactive
    rw [List.length_set]
    exact hrefines.stores.activeStarted active hactive
  · intro added hadded
    rw [List.length_set]
    exact hrefines.stores.pushedStarted added hadded
  · simpa [after, addBodyBlock] using hrefines.length

/-- The call with zero bytes stores the blocks of the exchange. -/
theorem Refines.finish (hrefines : Refines service objectStore daemon ingester)
    {call : HandleRequest} {pointer : RequestPtr} {exchange : Exchange}
    (hcurrent : daemon.current call.connection = some pointer)
    (hexchange : daemon.exchanges[pointer]? = some exchange)
    (hmethod : Request.Allowed exchange.start.method)
    (hanswered : exchange.answered = false) (hupload : call.uploadData = []) :
    ∃ after, ingester.callback (.handleRequest call) = some after ∧
      Refines service objectStore { daemon with
        exchanges := daemon.exchanges.set pointer { exchange with answered := true } }
        after := by
  have htracks := hrefines.stores.tracks pointer exchange hexchange
  obtain ⟨request, hrequest, hsame, hblocks⟩ := htracks.holds
  obtain ⟨urlPrefix, object, hpointer, hdata, hhandle⟩ :=
    handleRequest_finish_allowed (hrefines.conCls_eq hcurrent) hupload hrequest
      (hsame ▸ hmethod)
  let processed : Request := { request with objectId := object.objectId, statusCode := 200 }
  let after : PushObjectIngester :=
    { ingester.addObject object with urlPrefix := urlPrefix }.queueResponse call.connection
      pointer processed
  have hcallback : ingester.callback (.handleRequest call) = some after := by
    rw [callback, hhandle]
    rfl
  have hlength : pointer < ingester.requests.length :=
    (List.getElem?_eq_some_iff.mp hrequest).1
  have hpushed : after.pushedBy pointer = ingester.pushedBy pointer ++ [object] := by
    simp [after, pushedBy, queueResponse, addObject, hpointer]
  have hnext : after.Tracks pointer { exchange with answered := true } := {
    holds := ⟨processed, by simp [after, queueResponse, addObject, hlength], hsame, hblocks⟩
    active := htracks.active
    pushed := by
      have hbefore := htracks.pushed
      simp only [hanswered, Bool.false_eq_true, if_false] at hbefore
      rw [hpushed, List.map_append, hbefore, List.map_singleton, hdata, hblocks]
      rfl }
  have hframe : ∀ other, other ≠ pointer → SameAt ingester after other := by
    intro other hother
    refine ⟨List.getElem?_set_ne (Ne.symm hother), Iff.rfl, ?_⟩
    simp [after, pushedBy, queueResponse, addObject, hpointer, Ne.symm hother]
  refine ⟨after, hcallback, ⟨tracks_set hrefines.stores.tracks hnext hframe, ?_,
    hrefines.stores.nodup, ?_, hrefines.stores.stored_addObject object⟩, hrefines.service,
    hrefines.conCls, ?_⟩
  · intro active hactive
    rw [List.length_set]
    exact hrefines.stores.activeStarted active hactive
  · intro added hadded
    rw [List.length_set]
    rcases List.mem_append.mp hadded with hold | hlast
    · exact hrefines.stores.pushedStarted added hold
    · rw [List.mem_singleton.mp hlast, hpointer]
      exact (List.getElem?_eq_some_iff.mp hexchange).1
  · simpa [after, queueResponse, addObject] using hrefines.length

/-- A completion closes the exchange and removes the request from the active ones. -/
theorem Refines.complete (hrefines : Refines service objectStore daemon ingester)
    {connection : Connection} {pointer : RequestPtr} {exchange : Exchange}
    (hcurrent : daemon.current connection = some pointer)
    (hexchange : daemon.exchanges[pointer]? = some exchange) :
    ∃ after, ingester.callback (.requestCompletion connection) = some after ∧
      Refines service objectStore {
        exchanges := daemon.exchanges.set pointer { exchange with closed := true }
        current := Function.update daemon.current connection none } after := by
  let after : PushObjectIngester := { ingester.removeRequest pointer with
    requests := ingester.requests.modify pointer Request.completed
    conCls := Function.update ingester.conCls connection none }
  have hcallback : ingester.callback (.requestCompletion connection) = some after := by
    rw [callback, requestCompletion, hrefines.conCls_eq hcurrent]
    rfl
  have htracks := hrefines.stores.tracks pointer exchange hexchange
  obtain ⟨request, hrequest, hmethod, hblocks⟩ := htracks.holds
  have hnext : after.Tracks pointer { exchange with closed := true } := {
    holds := ⟨request.completed, by simp [after, hrequest], hmethod, hblocks⟩
    active := by
      have hremoved : pointer ∉ ingester.activeRequests.erase pointer :=
        hrefines.stores.nodup.not_mem_erase
      simpa [after, removeRequest] using hremoved
    pushed := htracks.pushed }
  have hframe : ∀ other, other ≠ pointer → SameAt ingester after other := fun other hother =>
    ⟨List.getElem?_modify_ne _ _ (Ne.symm hother), List.mem_erase_of_ne hother, rfl⟩
  refine ⟨after, hcallback, ⟨tracks_set hrefines.stores.tracks hnext hframe, ?_,
    hrefines.stores.nodup.erase pointer, ?_, hrefines.stores.stored⟩, hrefines.service, ?_, ?_⟩
  · intro other hother
    rw [List.length_set]
    exact hrefines.stores.activeStarted other (List.mem_of_mem_erase hother)
  · intro added hadded
    rw [List.length_set]
    exact hrefines.stores.pushedStarted added hadded
  · exact congrArg (fun current => Function.update current connection none) hrefines.conCls
  · simpa [after] using hrefines.length

end PushObjectIngester

/-! ## Runs -/

namespace Daemon

/-- The first calls of all requests started so far. -/
def started (daemon : Daemon) : List HandleRequest := daemon.exchanges.map Exchange.start

/-- An exchange that goes on was started by the same call. -/
theorem mem_started_set {daemon : Daemon} {pointer : RequestPtr} {exchange next : Exchange}
    (hexchange : daemon.exchanges[pointer]? = some exchange)
    (hstart : next.start = exchange.start) (current : Connection → Option RequestPtr)
    {call : HandleRequest} (hcall : call ∈ daemon.started) :
    call ∈ (Daemon.mk (daemon.exchanges.set pointer next) current).started := by
  have hplace : (daemon.exchanges.map Exchange.start)[pointer]? = some exchange.start := by
    rw [List.getElem?_map, hexchange]
    rfl
  obtain ⟨hlength, hget⟩ := List.getElem?_eq_some_iff.mp hplace
  rw [started, List.map_set, hstart, ← hget, List.set_getElem_self]
  exact hcall

/-- What a callback of the daemon is, by the state of its connection. -/
inductive Stepped (daemon : Daemon) : PushObjectIngester.Callback → Daemon → Prop
  | start {call : HandleRequest} (hfree : daemon.current call.connection = none) :
      Stepped daemon (.handleRequest call) {
        exchanges := daemon.exchanges ++ [⟨call, [], false, false⟩]
        current := Function.update daemon.current call.connection
          (some daemon.exchanges.length) }
  | upload {call : HandleRequest} {pointer : RequestPtr} {exchange : Exchange}
      (hcurrent : daemon.current call.connection = some pointer)
      (hexchange : daemon.exchanges[pointer]? = some exchange)
      (hanswered : exchange.answered = false) (hupload : call.uploadData ≠ []) :
      Stepped daemon (.handleRequest call) { daemon with
        exchanges := daemon.exchanges.set pointer
          { exchange with blocks := exchange.blocks ++ [call.uploadData] } }
  | finish {call : HandleRequest} {pointer : RequestPtr} {exchange : Exchange}
      (hcurrent : daemon.current call.connection = some pointer)
      (hexchange : daemon.exchanges[pointer]? = some exchange)
      (hanswered : exchange.answered = false) (hupload : call.uploadData = []) :
      Stepped daemon (.handleRequest call) { daemon with
        exchanges := daemon.exchanges.set pointer { exchange with answered := true } }
  | complete {connection : Connection} {pointer : RequestPtr} {exchange : Exchange}
      (hcurrent : daemon.current connection = some pointer)
      (hexchange : daemon.exchanges[pointer]? = some exchange) :
      Stepped daemon (.requestCompletion connection) {
        exchanges := daemon.exchanges.set pointer { exchange with closed := true }
        current := Function.update daemon.current connection none }

theorem step_stepped {daemon next : Daemon} {callback : PushObjectIngester.Callback}
    (hstep : daemon.step callback = some next) : daemon.Stepped callback next := by
  cases callback with
  | handleRequest call =>
      simp only [step] at hstep
      split at hstep
      case h_1 hfree =>
          obtain rfl := Option.some.inj hstep
          exact .start hfree
      case h_2 pointer hcurrent =>
          obtain ⟨exchange, hexchange, hstep⟩ := Option.bind_eq_some_iff.mp hstep
          obtain ⟨hanswered, hstep⟩ := Option.ite_none_left_eq_some.mp hstep
          rw [Bool.not_eq_true] at hanswered
          split at hstep
          case isTrue hupload =>
              obtain rfl := Option.some.inj hstep
              exact .upload hcurrent hexchange hanswered hupload
          case isFalse hupload =>
              obtain rfl := Option.some.inj hstep
              exact .finish hcurrent hexchange hanswered (not_not.mp hupload)
  | requestCompletion connection =>
      obtain ⟨pointer, hcurrent, hstep⟩ := Option.bind_eq_some_iff.mp hstep
      obtain ⟨exchange, hexchange, rfl⟩ := Option.map_eq_some_iff.mp hstep
      exact .complete hcurrent hexchange

/-- Callbacks only add to the requests started. -/
theorem started_subset {daemon next : Daemon} {callback : PushObjectIngester.Callback}
    (hstep : daemon.step callback = some next) {call : HandleRequest}
    (hcall : call ∈ daemon.started) : call ∈ next.started := by
  cases step_stepped hstep with
  | start hfree =>
      rw [started, List.map_append]
      exact List.mem_append_left _ hcall
  | upload hcurrent hexchange hanswered hupload =>
      apply mem_started_set hexchange _ _ hcall
      rfl
  | finish hcurrent hexchange hanswered hupload =>
      apply mem_started_set hexchange _ _ hcall
      rfl
  | complete hcurrent hexchange =>
      apply mem_started_set hexchange _ _ hcall
      rfl

end Daemon

namespace PushObjectIngester

/-- One callback, made by the protocol, takes the ingester along. -/
theorem Refines.step {service : SubscriptionService} {objectStore : ObjectStore}
    {daemon next : Daemon} {ingester : PushObjectIngester} {callback : Callback}
    (hrefines : Refines service objectStore daemon ingester)
    (hstep : daemon.step callback = some next)
    (hordinary : ∀ call ∈ next.started, Ordinary service call) :
    ∃ after, ingester.callback callback = some after ∧
      Refines service objectStore next after := by
  have hbefore : ∀ call ∈ daemon.started, Ordinary service call := fun call hcall =>
    hordinary call (Daemon.started_subset hstep hcall)
  cases Daemon.step_stepped hstep with
  | start hfree =>
      apply hrefines.start _ hfree
      apply hordinary
      simp [Daemon.started]
  | upload hcurrent hexchange hanswered hupload =>
      exact hrefines.upload hcurrent hexchange hanswered hupload
  | finish hcurrent hexchange hanswered hupload =>
      have hmethod := (hbefore _ (List.mem_map_of_mem (List.mem_of_getElem? hexchange))).method
      exact hrefines.finish hcurrent hexchange hmethod hanswered hupload
  | complete hcurrent hexchange => exact hrefines.complete hcurrent hexchange

theorem refines_new (service : SubscriptionService) (objectStore : ObjectStore) :
    Refines service objectStore .new (.new service objectStore) where
  stores := {
    tracks := fun pointer exchange hexchange => by simp [Daemon.new] at hexchange
    activeStarted := fun pointer hpointer => absurd hpointer List.not_mem_nil
    nodup := List.nodup_nil
    pushedStarted := fun object hobject => absurd hobject List.not_mem_nil
    stored := rfl }
  service := rfl
  conCls := rfl
  length := rfl

/-- Requests with the same body store the same data, however it was cut into uploads. -/
def ChunkingIndependent (daemon : Daemon) (ingester : PushObjectIngester) : Prop :=
  ∀ first second exchange other, daemon.exchanges[first]? = some exchange →
    daemon.exchanges[second]? = some other → exchange.answered = true →
    other.answered = true → exchange.blocks.flatten = other.blocks.flatten →
    (ingester.pushedBy first).map PushedObject.data =
      (ingester.pushedBy second).map PushedObject.data

theorem StoresOnce.chunkingIndependent {objectStore : ObjectStore} {daemon : Daemon}
    {ingester : PushObjectIngester} (hstores : StoresOnce objectStore daemon ingester) :
    ChunkingIndependent daemon ingester := by
  intro first second exchange other hfirst hsecond hexchange hother hbody
  rw [(hstores.tracks first exchange hfirst).pushed, (hstores.tracks second other hsecond).pushed,
    if_pos hexchange, if_pos hother, hbody]

/-- In every interleaving of exchanges with ordinary requests no callback fails, each
answered request has added one object with the concatenation of its uploads, the others
have added nothing, and the active requests are those started and not completed. -/
theorem run_storesOnce {service : SubscriptionService} {objectStore : ObjectStore}
    {callbacks : List Callback} {daemon : Daemon}
    (hrun : Runs.run Daemon.step .new callbacks = some daemon)
    (hordinary : ∀ call ∈ daemon.started, Ordinary service call) :
    ∃ ingester, Runs.run callback (.new service objectStore) callbacks = some ingester ∧
      StoresOnce objectStore daemon ingester ∧ ChunkingIndependent daemon ingester := by
  let AllOrdinary : Daemon → Prop := fun daemon =>
    ∀ call ∈ daemon.started, Ordinary service call
  have hback : ∀ daemon callback next, Daemon.step daemon callback = some next →
      AllOrdinary next → AllOrdinary daemon := fun daemon callback next hstep hall call hcall =>
    hall call (Daemon.started_subset hstep hcall)
  obtain ⟨ingester, hafter, hrefines⟩ := Runs.run_simulates AllOrdinary
    (Refines service objectStore) hback
    (fun daemon ingester callback next hbefore hstep hall => hbefore.step hstep hall)
    (refines_new service objectStore) hrun hordinary
  exact ⟨ingester, hafter, hrefines.stores, hrefines.stores.chunkingIndependent⟩

/-- A call for `/segment` with a `max-age` and an `Age`. -/
def segmentCall (connection : Connection) (uploadData : ObjectData) : HandleRequest where
  connection := connection
  url := "/segment"
  method := "POST"
  version := "HTTP/1.1"
  uploadData := uploadData
  getHeader := fun field =>
    if field = "Cache-Control" then some "max-age=60"
    else if field = "Age" then some "10"
    else none
  chronoParse := fun _ _ => none
  now := 0
  decisions := fun _ => ⟨[], []⟩
  surroundings := ⟨0, 0, 0, "http://127.0.0.1:80/", "", none, "1"⟩

theorem ordinary_segmentCall (connection : Connection) (uploadData : ObjectData) :
    Ordinary .new (segmentCall connection uploadData) where
  method := .inr (.inr rfl)
  maxAge := by
    intro cacheControl digits hheader hdigits
    obtain rfl : "max-age=60" = cacheControl := Option.some.inj hheader
    have hsame : "max-age=".toList ++ "60".toList = "max-age=".toList ++ digits := hdigits
    rw [← List.append_cancel_left hsame]
    decide +kernel
  age := by
    intro age hheader
    obtain rfl : "10" = age := Option.some.inj hheader
    decide +kernel
  accepted := by
    intro subscriber _
    rfl

theorem run_storesOnce_interleaved :
    ∃ daemon ingester, daemon.exchanges.map Exchange.blocks = [[[7], [8]], [[7, 8]]] ∧
      Runs.run callback (.new .new .new)
        [.handleRequest (segmentCall 1 []), .handleRequest (segmentCall 2 []),
          .handleRequest (segmentCall 1 [7]), .handleRequest (segmentCall 2 [7, 8]),
          .handleRequest (segmentCall 1 [8]), .handleRequest (segmentCall 1 []),
          .requestCompletion 2, .requestCompletion 1] = some ingester ∧
      StoresOnce .new daemon ingester ∧ ChunkingIndependent daemon ingester := by
  obtain ⟨ingester, hstores⟩ := run_storesOnce
    (show Runs.run Daemon.step .new
      [.handleRequest (segmentCall 1 []), .handleRequest (segmentCall 2 []),
        .handleRequest (segmentCall 1 [7]), .handleRequest (segmentCall 2 [7, 8]),
        .handleRequest (segmentCall 1 [8]), .handleRequest (segmentCall 1 []),
        .requestCompletion 2, .requestCompletion 1] = some _ from rfl)
    (show ∀ call ∈ [segmentCall 1 [], segmentCall 2 []], Ordinary .new call from by
      intro call hcall
      rcases List.mem_pair.mp hcall with rfl | rfl
      · exact ordinary_segmentCall 1 []
      · exact ordinary_segmentCall 2 [])
  exact ⟨_, ingester, rfl, hstores⟩

end PushObjectIngester

end Mbstf.Ingest
