import Mbstf.Core.Folds
import Mbstf.Core.Matched
import Mbstf.Ingest.PushStores

/-!
# What an upload becomes

Requests of any kind come in, and their callbacks interleave.  An object is added to the
store when a request with an allowed method is answered, and for nothing else: one object,
which has the whole body of this request, and the type and the path that came with it.
-/

namespace Mbstf.Ingest

open Mbstf.Objects Mbstf.Matched Mbstf.Runs Mbstf.Subscription

namespace Exchange

/-- The object has what was uploaded in the exchange. -/
structure Carried (exchange : Exchange) (object : PushedObject) : Prop where
  answered : exchange.answered = true
  allowed : Request.Allowed exchange.start.method
  data : object.data = exchange.blocks.flatten
  mediaType : object.metadata.mediaType =
    (exchange.start.getHeader "Content-Type").getD "application/octet-stream"
  acquisitionId : object.metadata.acquisitionId = exchange.start.url

/-- The request has what was uploaded in the exchange so far. -/
structure Collected (exchange : Exchange) (request : Request) : Prop where
  method : request.method = exchange.start.method
  bodyBlocks : request.bodyBlocks = exchange.blocks
  contentType : request.contentType = exchange.start.getHeader "Content-Type"
  urlPath : request.urlPath = exchange.start.url

variable {exchange : Exchange} {request : Request}

theorem Collected.setError (hcollected : exchange.Collected request) (statusCode : ℕ)
    (reason : String) : exchange.Collected (request.setError statusCode reason).1 := by
  rw [Request.setError]
  split
  · exact hcollected
  · exact ⟨hcollected.method, hcollected.bodyBlocks, hcollected.contentType,
      hcollected.urlPath⟩

theorem Collected.foldl_setError (errors : List (ℕ × String))
    (hcollected : exchange.Collected request) :
    exchange.Collected
      (errors.foldl (fun current error => (current.setError error.1 error.2).1) request) := by
  induction errors generalizing request with
  | nil => exact hcollected
  | cons error errors ih => exact ih (hcollected.setError error.1 error.2)

/-- The subscribers to the start of a push leave what the request has collected. -/
theorem Collected.delivered (hcollected : exchange.Collected request)
    (service : SubscriptionService) (decisions : SubscriberPtr → PushDecision) :
    exchange.Collected (service.sendEventSynchronous (pushHandler decisions) request
      (Event.new "ObjectPushStart")).1.world := by
  have hcall : ∀ subscriber (delivery : Delivery Request), exchange.Collected delivery.world →
      exchange.Collected (delivery.processEvent (pushHandler decisions) subscriber).world :=
    fun subscriber delivery hbefore =>
      hbefore.foldl_setError (decisions subscriber).errors
  exact service.sendEventSynchronous_keeps hcall hcollected

end Exchange

namespace PushObjectIngester

/-- The ingester follows the exchanges: it collects what each of them uploads, and what it
has added to the store was uploaded in exchanges that are answered, each of them once. -/
structure Follows (daemon : Daemon) (ingester : PushObjectIngester) : Prop where
  conCls : ingester.conCls = daemon.current
  requests : List.Forall₂ Exchange.Collected daemon.exchanges ingester.requests
  pushed : ∀ object ∈ ingester.pushed, ∃ exchange,
    daemon.exchanges[object.request]? = some exchange ∧ exchange.Carried object
  once : (ingester.pushed.map PushedObject.request).Nodup

variable {daemon next : Daemon} {ingester after : PushObjectIngester}

theorem follows_new (service : SubscriptionService) (objectStore : ObjectStore) :
    Follows .new (.new service objectStore) where
  conCls := rfl
  requests := .nil
  pushed := fun _ hobject => absurd hobject List.not_mem_nil
  once := List.nodup_nil

/-- What was added stays uploaded when an exchange goes on that is not answered yet. -/
theorem Follows.pushed_set (hfollows : Follows daemon ingester) {pointer : RequestPtr}
    {exchange : Exchange} (hexchange : daemon.exchanges[pointer]? = some exchange)
    (goesOn : Exchange) (hkept : ∀ object, exchange.Carried object → goesOn.Carried object) :
    ∀ object ∈ ingester.pushed, ∃ exchange,
      (daemon.exchanges.set pointer goesOn)[object.request]? = some exchange ∧
        exchange.Carried object := by
  intro object hobject
  obtain ⟨found, hfound, hcarried⟩ := hfollows.pushed object hobject
  by_cases hsame : pointer = object.request
  · subst hsame
    obtain rfl := Option.some.inj (hexchange.symm.trans hfound)
    exact ⟨goesOn, List.getElem?_set_self (List.getElem?_eq_some_iff.mp hexchange).1,
      hkept object hcarried⟩
  · exact ⟨found, (List.getElem?_set_ne hsame).trans hfound, hcarried⟩

/-- Nothing was added before of an exchange that is not answered yet. -/
theorem Follows.once_append (hfollows : Follows daemon ingester) {pointer : RequestPtr}
    {exchange : Exchange} {object : PushedObject}
    (hexchange : daemon.exchanges[pointer]? = some exchange)
    (hanswered : exchange.answered = false) (hrequest : object.request = pointer) :
    ((ingester.pushed ++ [object]).map PushedObject.request).Nodup := by
  have hnew : pointer ∉ ingester.pushed.map PushedObject.request := by
    intro hmem
    obtain ⟨other, hother, hsame⟩ := List.mem_map.mp hmem
    obtain ⟨found, hfound, hcarried⟩ := hfollows.pushed other hother
    rw [hsame] at hfound
    obtain rfl := Option.some.inj (hexchange.symm.trans hfound)
    cases hanswered.symm.trans hcarried.answered
  rw [List.map_append, List.map_singleton, hrequest, ← List.concat_eq_append]
  exact hfollows.once.concat hnew

/-- A first call starts an exchange. -/
theorem Follows.start (hfollows : Follows daemon ingester) {call : HandleRequest}
    (hfree : daemon.current call.connection = none)
    (hcallback : ingester.callback (.handleRequest call) = some after) :
    Follows {
        exchanges := daemon.exchanges ++ [⟨call, [], false, false⟩]
        current := Function.update daemon.current call.connection
          (some daemon.exchanges.length) } after ∧
      after.pushed = ingester.pushed := by
  rw [callback, handleRequest, hfollows.conCls, hfree] at hcallback
  obtain ⟨⟨started, accepted⟩, hstarted, rfl⟩ := Option.map_eq_some_iff.mp hcallback
  obtain ⟨expires, -, hstart⟩ := Folds.map_eq_ok (Folds.toOption_eq_some hstarted)
  obtain ⟨rfl, -⟩ := Prod.mk.inj hstart
  have hlength := hfollows.requests.length_eq
  have hcollected : Exchange.Collected ⟨call, [], false, false⟩ (makeRequest call expires) :=
    ⟨rfl, rfl, rfl, rfl⟩
  refine ⟨⟨?_, ?_, ?_, hfollows.once⟩, rfl⟩
  · rw [hlength, ← hfollows.conCls]
  · have hset : (ingester.requests ++ [makeRequest call expires]).set ingester.requests.length
        (ingester.service.sendEventSynchronous (pushHandler call.decisions)
          (makeRequest call expires) (Event.new "ObjectPushStart")).1.world = _ :=
      List.set_append_right _ _ le_rfl
    rw [Nat.sub_self] at hset
    exact hset ▸ forall₂_concat hfollows.requests (hcollected.delivered _ _)
  · intro object hobject
    obtain ⟨exchange, hexchange, hcarried⟩ := hfollows.pushed object hobject
    have hold := (List.getElem?_eq_some_iff.mp hexchange).1
    exact ⟨exchange, (List.getElem?_append_left hold).trans hexchange, hcarried⟩

/-- An upload adds its block to the exchange and to the request. -/
theorem Follows.upload (hfollows : Follows daemon ingester) {call : HandleRequest}
    {pointer : RequestPtr} {exchange : Exchange}
    (hcurrent : daemon.current call.connection = some pointer)
    (hexchange : daemon.exchanges[pointer]? = some exchange)
    (hanswered : exchange.answered = false) (hupload : call.uploadData ≠ [])
    (hcallback : ingester.callback (.handleRequest call) = some after) :
    Follows { daemon with
        exchanges := daemon.exchanges.set pointer
          { exchange with blocks := exchange.blocks ++ [call.uploadData] } } after ∧
      after.pushed = ingester.pushed := by
  have hcon : ingester.conCls call.connection = some pointer := by
    rw [hfollows.conCls, hcurrent]
  rw [callback, handleRequest_upload hcon hupload] at hcallback
  obtain rfl := Option.some.inj hcallback
  refine ⟨⟨hfollows.conCls, ?_, ?_, hfollows.once⟩, rfl⟩
  · refine forall₂_modify hfollows.requests hexchange fun request hcollected => ?_
    exact ⟨hcollected.method, congrArg (· ++ [call.uploadData]) hcollected.bodyBlocks,
      hcollected.contentType, hcollected.urlPath⟩
  · -- Nothing was added of this exchange, which is not answered.
    refine hfollows.pushed_set hexchange _ fun object hcarried => ?_
    cases hanswered.symm.trans hcarried.answered

/-- The call with zero bytes adds the object, if the method is allowed. -/
theorem Follows.finish (hfollows : Follows daemon ingester) {call : HandleRequest}
    {pointer : RequestPtr} {exchange : Exchange}
    (hcurrent : daemon.current call.connection = some pointer)
    (hexchange : daemon.exchanges[pointer]? = some exchange)
    (hanswered : exchange.answered = false) (hupload : call.uploadData = [])
    (hcallback : ingester.callback (.handleRequest call) = some after) :
    Follows { daemon with
        exchanges := daemon.exchanges.set pointer { exchange with answered := true } } after ∧
      ingester.pushed <+: after.pushed := by
  have hcon : ingester.conCls call.connection = some pointer := by
    rw [hfollows.conCls, hcurrent]
  obtain ⟨request, hrequest, hcollected⟩ := getElem?_of_forall₂ hfollows.requests hexchange
  have hkept : ∀ object, exchange.Carried object →
      Exchange.Carried { exchange with answered := true } object := fun object hcarried =>
    absurd (hanswered.symm.trans hcarried.answered) Bool.false_ne_true
  have hpointer := (List.getElem?_eq_some_iff.mp hexchange).1
  rw [callback, handleRequest, hcon] at hcallback
  obtain rfl := Option.some.inj hcallback
  simp only [continueRequest, hupload, ne_eq, not_true_eq_false, if_false, hrequest]
  rw [requestHandler]
  split
  case isTrue hmethod =>
      refine ⟨⟨hfollows.conCls, ?_, hfollows.pushed_set hexchange _ hkept, hfollows.once⟩,
        List.prefix_rfl⟩
      have herror := hcollected.setError 405 "Method Not Allowed"
      apply forall₂_set hfollows.requests
      exact ⟨herror.method, herror.bodyBlocks, herror.contentType, herror.urlPath⟩
  case isFalse hmethod =>
      obtain ⟨urlPrefix, url, ingestBaseUrl, object, hobject, hprocessed⟩ :=
        ingester.processRequest_metadata pointer request call.surroundings
      rw [hprocessed]
      have hadded : Exchange.Carried { exchange with answered := true } object := by
        rw [hobject]
        exact {
          answered := rfl
          allowed := hcollected.method ▸ not_not.mp hmethod
          data := congrArg List.flatten hcollected.bodyBlocks
          mediaType := congrArg (Option.getD · "application/octet-stream") hcollected.contentType
          acquisitionId := hcollected.urlPath }
      have hrequest : object.request = pointer := by rw [hobject]
      refine ⟨⟨hfollows.conCls, ?_, ?_, ?_⟩, List.prefix_append _ _⟩
      · apply forall₂_set hfollows.requests
        exact ⟨hcollected.method, hcollected.bodyBlocks, hcollected.contentType,
          hcollected.urlPath⟩
      · intro other hother
        rcases List.mem_append.mp hother with hold | hlast
        · exact hfollows.pushed_set hexchange _ hkept other hold
        · obtain rfl := List.mem_singleton.mp hlast
          refine ⟨_, ?_, hadded⟩
          rw [hrequest]
          exact List.getElem?_set_self hpointer
      · exact hfollows.once_append hexchange hanswered hrequest

/-- A completion closes the exchange. -/
theorem Follows.complete (hfollows : Follows daemon ingester) {connection : Connection}
    {pointer : RequestPtr} {exchange : Exchange}
    (hcurrent : daemon.current connection = some pointer)
    (hexchange : daemon.exchanges[pointer]? = some exchange)
    (hcallback : ingester.callback (.requestCompletion connection) = some after) :
    Follows {
        exchanges := daemon.exchanges.set pointer { exchange with closed := true }
        current := Function.update daemon.current connection none } after ∧
      after.pushed = ingester.pushed := by
  have hcon : ingester.conCls connection = some pointer := by
    rw [hfollows.conCls, hcurrent]
  rw [callback, requestCompletion, hcon] at hcallback
  obtain rfl := Option.some.inj hcallback
  refine ⟨⟨?_, ?_, ?_, hfollows.once⟩, rfl⟩
  · exact congrArg (Function.update · connection none) hfollows.conCls
  · refine forall₂_modify hfollows.requests hexchange fun request hcollected => ?_
    exact ⟨hcollected.method, hcollected.bodyBlocks, hcollected.contentType,
      hcollected.urlPath⟩
  · refine hfollows.pushed_set hexchange _ fun object hcarried => ?_
    exact ⟨hcarried.answered, hcarried.allowed, hcarried.data, hcarried.mediaType,
      hcarried.acquisitionId⟩

/-- A callback that the daemon may make keeps this, and adds at most to what was added. -/
theorem Follows.step (hfollows : Follows daemon ingester) {callback : Callback}
    (hstep : daemon.step callback = some next)
    (hcallback : ingester.callback callback = some after) :
    Follows next after ∧ ingester.pushed <+: after.pushed := by
  cases Daemon.step_stepped hstep with
  | start hfree =>
      obtain ⟨hnext, hpushed⟩ := hfollows.start hfree hcallback
      exact ⟨hnext, hpushed ▸ List.prefix_rfl⟩
  | upload hcurrent hexchange hanswered hupload =>
      obtain ⟨hnext, hpushed⟩ :=
        hfollows.upload hcurrent hexchange hanswered hupload hcallback
      exact ⟨hnext, hpushed ▸ List.prefix_rfl⟩
  | finish hcurrent hexchange hanswered hupload =>
      exact hfollows.finish hcurrent hexchange hanswered hupload hcallback
  | complete hcurrent hexchange =>
      obtain ⟨hnext, hpushed⟩ := hfollows.complete hcurrent hexchange hcallback
      exact ⟨hnext, hpushed ▸ List.prefix_rfl⟩

/-! ## Runs -/

/-- The daemon and the ingester, one callback after another. -/
def serveStep (served : Daemon × PushObjectIngester) (callback : Callback) :
    Option (Daemon × PushObjectIngester) :=
  (served.1.step callback).bind fun daemon =>
    (served.2.callback callback).map fun ingester => (daemon, ingester)

theorem serveStep_eq_some {served next : Daemon × PushObjectIngester} {callback : Callback} :
    serveStep served callback = some next ↔
      served.1.step callback = some next.1 ∧ served.2.callback callback = some next.2 := by
  rw [serveStep, Option.bind_eq_some_iff]
  constructor
  · rintro ⟨daemon, hdaemon, hnext⟩
    obtain ⟨ingester, hingester, rfl⟩ := Option.map_eq_some_iff.mp hnext
    exact ⟨hdaemon, hingester⟩
  · rintro ⟨hdaemon, hingester⟩
    exact ⟨next.1, hdaemon, by rw [hingester, Option.map_some]⟩

/-- Whatever callbacks there are, the ingester follows the exchanges. -/
theorem follows_of_run {service : SubscriptionService} {objectStore : ObjectStore}
    {callbacks : List Callback} {served : Daemon × PushObjectIngester}
    (hrun : run serveStep (.new, .new service objectStore) callbacks = some served) :
    Follows served.1 served.2 := by
  refine @run_invariant _ _ _ (fun served => Follows served.1 served.2) ?_ _ _ _
    (follows_new service objectStore) hrun
  intro served callback next hfollows hstep
  obtain ⟨hdaemon, hingester⟩ := serveStep_eq_some.mp hstep
  exact (hfollows.step hdaemon hingester).1

end PushObjectIngester

end Mbstf.Ingest
