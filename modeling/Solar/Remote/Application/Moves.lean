/-
This file says once what every step of the application layer can do to the
requests. A frame that names a new request admits it and then executes, stores
or turns it away (`Executed`, `Subscribed`); the other frames change one response
table or let go of one cell (`Processed`); a worker or a responder moves one
request on (`Moved`). All later results about requests are read off these lists.
-/

import Solar.Remote.Application.Requests

namespace Solar.Remote

open Option

variable {Value : Type} {catalog : RemoteCatalog Value}

/-! ### Requests -/

/-- What the execution of an admitted request does. `kept` and `failed` leave a reservation
without anyone to answer it. -/
inductive Executed (before : Requests catalog)
    (room : Prop) (handler : catalog.Handler) (job : Job catalog.streams.linkCount)
    (answer : Option Answer) : Requests catalog → Prop
  | refused (full : before.reservable job.link job.envelope = false) :
      Executed before room handler job answer before
  | released (reserved : before.reservable job.link job.envelope = true) :
      Executed before room handler job answer
        ((before.reserve job.link job.envelope).release job.link job.envelope.requestId)
  | kept (reserved : before.reservable job.link job.envelope = true)
      (inline : handler.isInline = true) (entered : handler.isAsynchronous = true → room)
      (lost : before.isCurrent job = false ∨
        handler.isAsynchronous = true ∧ (before.asynchronous handler).isSome = true) :
      Executed before room handler job answer (before.reserve job.link job.envelope)
  | failed (reserved : before.reservable job.link job.envelope = true)
      (inline : handler.isInline = true) (synchronous : handler.isAsynchronous = false)
      (silent : answer = none) :
      Executed before room handler job answer ((before.reserve job.link job.envelope).invoke job)
  | answered (reserved : before.reservable job.link job.envelope = true)
      (inline : handler.isInline = true) (synchronous : handler.isAsynchronous = false)
      (result : Answer) (given : answer = some result) :
      Executed before room handler job answer
        (((before.reserve job.link job.envelope).invoke job).respond job result)
  | retained (reserved : before.reservable job.link job.envelope = true)
      (inline : handler.isInline = true) (current : before.isCurrent job = true)
      (free : before.asynchronous handler = none) :
      Executed before room handler job answer
        (((before.reserve job.link job.envelope).setAsynchronous handler (some job)).invoke job)
  | stored (reserved : before.reservable job.link job.envelope = true)
      (deferred : handler.isInline = false) (entered : room)
      (free : before.pending handler = none) :
      Executed before room handler job answer
        ((before.reserve job.link job.envelope).setPending handler (some job))

theorem Executed.of_eq
    {before after other : Requests catalog} {room : Prop} {handler : catalog.Handler}
    {job : Job catalog.streams.linkCount} {answer : Option Answer}
    (executed : Executed before room handler job answer after) (same : other = after) :
    Executed before room handler job answer other :=
  same ▸ executed

namespace Application

variable (state : Application catalog)

theorem requests_isCurrent (job : Job catalog.streams.linkCount) :
    state.isCurrent job = state.requests.isCurrent job := rfl

theorem requests_reserve (link : catalog.Link) (envelope : Envelope) :
    (state.onLink link fun entry =>
      (entry.reserveResponse envelope.requestId envelope.target).1).requests =
        state.requests.reserve link envelope :=
  requests_onLink_responses rfl

theorem requests_reserve_of_full {state : Application catalog} {link : catalog.Link}
    {envelope : Envelope} (full : state.requests.reservable link envelope = false) :
    state.requests.reserve link envelope = state.requests := by
  rw [Requests.reserve, Responses.reserve_eq_false full, Requests.setResponses_responses]

/-- The result of an inline execution, over the state with the reservation. -/
theorem executed_executeInline {state reserved : Application catalog} {room : Prop} {handler :
    catalog.Handler} {job : Job catalog.streams.linkCount} {answer : Option Answer}
    (available : state.requests.reservable job.link job.envelope = true)
    (same : reserved.requests = state.requests.reserve job.link job.envelope)
    (inline : handler.isInline = true) (entered : handler.isAsynchronous = true → room) :
    Executed state.requests room handler job answer
      (reserved.executeInline handler job answer).1.requests := by
  have current : reserved.isCurrent job = state.requests.isCurrent job := by
    rw [requests_isCurrent, same]
    unfold Requests.reserve Requests.setResponses Requests.isCurrent
    rw [Requests.links_setLink_self]
  have cell : reserved.asynchronous handler = state.requests.asynchronous handler :=
    congrFun (congrArg Requests.asynchronous same) handler
  unfold executeInline
  rw [current, cell]
  split
  · rename_i stale
    rw [same]
    exact .kept available inline entered (Or.inl stale)
  rename_i live
  split
  · rename_i asynchronous
    split
    · rename_i other held
      rw [requests_protocolError, same]
      exact .kept available inline entered (Or.inr ⟨asynchronous, by rw [held]; rfl⟩)
    · rename_i free
      rw [requests_invoke, requests_setAsynchronous, same]
      exact .retained available inline (eq_true_of_ne_false live) free
  · rename_i synchronous
    have synchronous := eq_false_of_ne_true synchronous
    split
    · rw [requests_protocolError, requests_invoke, same]
      exact .failed available inline synchronous rfl
    · rename_i result
      rw [requests_respond, requests_invoke, same]
      exact .answered available inline synchronous result rfl

theorem executed_executeReserved (handler : catalog.Handler) (job : Job catalog.streams.linkCount)
    (answer : Option Answer) :
    Executed state.requests (state.activeRequests.toNat < catalog.limits.maxRequests) handler job
      answer (state.executeReserved handler job answer).requests := by
  have reservation := state.requests_reserve job.link job.envelope
  unfold executeReserved
  dsimp only
  split
  · rename_i full
    rw [requests_protocolError, reservation, requests_reserve_of_full full]
    exact .refused full
  rename_i available
  have available : state.requests.reservable job.link job.envelope = true :=
    eq_true_of_ne_false available
  split
  · rename_i mode
    refine executed_executeInline available reservation mode.1 fun asynchronous => ?_
    rw [mode.2] at asynchronous
    exact nomatch asynchronous
  split
  · rw [requests_reject, reservation]
    exact .released available
  rename_i room
  have room := Nat.lt_of_not_ge room
  split
  · rename_i inline
    split
    · exact executed_executeInline available reservation inline fun _ => room
    · exact executed_executeInline available reservation inline fun _ => room
  · rename_i deferred
    have deferred := eq_false_of_ne_true deferred
    split
    · rw [requests_reject, requests_retire]
      exact (Executed.released available).of_eq
        (congrArg (Requests.release · job.link job.envelope.requestId) reservation)
    · rename_i free
      exact (Executed.stored available deferred room free).of_eq
        (congrArg (Requests.setPending · handler (some job)) reservation)

end Application

/-! ### Subscriptions -/

/-- What an admitted subscription does. `kept` leaves a reservation without anyone to answer it;
`opened` may stage a response, its own or an earlier one. -/
inductive Subscribed (before : Requests catalog)
    (link : catalog.Link) (frame : Decoded) : Requests catalog → Prop
  | refused (full : before.reservable link frame.envelope = false) :
      Subscribed before link frame before
  | released (reserved : before.reservable link frame.envelope = true) :
      Subscribed before link frame
        ((before.reserve link frame.envelope).release link frame.envelope.requestId)
  | kept (reserved : before.reservable link frame.envelope = true)
      (inStream : frame.envelope.subscription = some .dataInStream) (index : catalog.DataIndex)
      (found : catalog.datum? frame.envelope.target = some index)
      (absent : (catalog.datum index).inStream = none) :
      Subscribed before link frame (before.reserve link frame.envelope)
  | answered (reserved : before.reservable link frame.envelope = true) (payload : Bytes)
      (short : payload.length ≤ 64) :
      Subscribed before link frame
        ((before.reserve link frame.envelope).respondTo link frame.envelope { payload })
  | opened (reserved : before.reservable link frame.envelope = true) (payload : Bytes)
      (short : payload.length ≤ 64) :
      Subscribed before link frame
        (((before.reserve link frame.envelope).respondTo link frame.envelope { payload }).stage
          link)

variable {frame : Decoded} {link : catalog.Link} {state : Application catalog}

namespace Application

@[simp] theorem requests_respondTo (state : Application catalog) (link : catalog.Link)
    (envelope : Envelope) (payload : Bytes) :
    (state.respondTo link envelope payload).1.requests =
      state.requests.respondTo link envelope { payload } := by
  show (state.onLink link fun entry =>
    (entry.respond envelope.requestId envelope.target { payload }).1).requests = _
  exact requests_onLink_responses rfl

theorem requests_respondTo_of_refused {envelope : Envelope} {payload : Bytes}
    (refused : (state.respondTo link envelope payload).2 = false) :
    state.requests.respondTo link envelope { payload } = state.requests := by
  have kept : ((state.requests.responses link).respond catalog.limits.responseCacheBytes
      envelope.requestId envelope.target { payload }).1 = state.requests.responses link :=
    Responses.respond_eq_false refused
  rw [Requests.respondTo, kept, Requests.setResponses_responses]

/-- Staging a response is seen in the response table, or not at all. -/
theorem requests_stageResponse (state : Application catalog) :
    (state.onLink link LinkState.stageResponse).requests = state.requests ∨
      (state.onLink link LinkState.stageResponse).requests = state.requests.stage link := by
  cases waiting : (state.links link).responses.unstaged? with
  | none =>
    refine Or.inl (requests_onLink_of_same ?_)
    rw [LinkState.stageResponse, waiting]
  | some found =>
    have staged : (state.links link).stageResponse.requests = { (state.links link).requests with
          responses := if ((state.links link).output.transmit
              (LinkState.responseFrame found.2)).2 then (state.links link).responses.stage
            else (state.links link).responses } := by
      rw [LinkState.stageResponse, waiting]
      rfl
    rw [requests_onLink_responses staged]
    split
    · exact Or.inr rfl
    · exact Or.inl (state.requests.setResponses_responses link)

variable {before : Requests catalog}

section

variable (available : before.reservable link frame.envelope = true)
  (same : state.requests = before.reserve link frame.envelope)

include available same

theorem subscribed_reject (error : ErrorCode) :
    Subscribed before link frame (state.reject link frame.envelope error).requests := by
  rw [requests_reject, same]
  exact .released available

theorem subscribed_respondTo {payload : Bytes} (short : payload.length ≤ 64) :
    Subscribed before link frame (state.respondTo link frame.envelope payload).1.requests := by
  rw [requests_respondTo, same]
  exact .answered available payload short

theorem subscribed_openSubscription {endpoint : catalog.Endpoint} {opened : Bool} :
    Subscribed before link frame (state.openSubscription link endpoint frame opened).requests := by
  unfold openSubscription
  dsimp only
  split
  · exact subscribed_reject available same .decodeFailure
  rename_i request decoded
  have opening := streamless_requests.openInStream state endpoint link request opened
  split
  · rename_i failed error result
    rw [result] at opening
    exact subscribed_reject available (opening.trans same) error
  · rename_i installed response result
    rw [result] at opening
    have installedSame : installed.requests = before.reserve link frame.envelope :=
      opening.trans same
    split
    · rename_i refused
      refine subscribed_reject available ?_ .internalFailure
      rw [streamless_requests.closeInStreamLink, requests_respondTo,
        requests_respondTo_of_refused refused]
      exact installedSame
    · have short : response.encode.length ≤ 64 := by
        rw [InStreamOpenResponse.length_encode]
        decide
      rw [streamless_requests.sendInStreamCredit]
      obtain unstaged | staged := requests_stageResponse
        (installed.respondTo link frame.envelope response.encode).1
      · rw [unstaged]
        exact subscribed_respondTo available installedSame short
      · rw [staged, requests_respondTo, installedSame]
        exact .opened available response.encode short

theorem subscribed_closeSubscription {endpoint : catalog.Endpoint} :
    Subscribed before link frame (state.closeSubscription link endpoint frame).requests := by
  unfold closeSubscription
  dsimp only
  split
  · exact subscribed_reject available same .decodeFailure
  · split
    · exact subscribed_reject available same .requestExpired
    · refine subscribed_respondTo available ?_ (Nat.zero_le _)
      rw [streamless_requests.closeInStreamLink]
      exact same

theorem subscribed_processInStreamSubscription
    (inStream : frame.envelope.subscription = some .dataInStream) {enable opened : Bool} :
    Subscribed before link frame
      (state.processInStreamSubscription link frame enable opened).requests := by
  unfold processInStreamSubscription
  dsimp only
  split
  · exact subscribed_reject available same .unknownTarget
  rename_i index found
  split
  · rename_i absent
    rw [requests_protocolError, same]
    exact .kept available inStream index found absent
  · rename_i endpoint present
    split
    · exact subscribed_openSubscription available same
    · exact subscribed_closeSubscription available same

end

theorem requests_updateSubscription (state : Application catalog) (link : catalog.Link)
    (target : UInt32) (enable : Bool) (kind : Option SubscriptionKind)
    (request : SubscriptionRequest) :
    (state.updateSubscription link target enable kind request).1.requests = state.requests := by
  unfold updateSubscription
  split
  · split
    · exact state.requests_updateDataSubscription link
    · rfl
  · split
    · exact state.requests_updateDataSubscription link
    · rfl
  · split
    · exact state.requests_updateTopicSubscription link _ enable request
    · rfl
  · rfl

theorem subscribed_processOutSubscription (available : before.reservable link frame.envelope = true)
    (same : state.requests = before.reserve link frame.envelope) (enable : Bool) :
    Subscribed before link frame (state.processOutSubscription link frame enable).requests := by
  unfold processOutSubscription
  dsimp only
  split
  · exact subscribed_reject available same .decodeFailure
  rename_i request decoded
  have updating := state.requests_updateSubscription link frame.envelope.target enable
    frame.envelope.subscription request
  split
  · exact subscribed_reject available same _
  · rename_i updated policy result
    rw [result] at updating
    refine subscribed_respondTo available (updating.trans same) ?_
    rw [SubscriptionPolicy.length_encode]
    decide

end Application

/-! ### Frames -/

namespace Application

/-- A frame that gets as far as `admit_request_id`. -/
def asks (state : Application catalog) (link : catalog.Link) (envelope : Envelope) : Bool :=
  match envelope.kind with
  | .request => true
  | .subscribe | .unsubscribe => (state.links link).granted (subscriptionPermission envelope)
  | _ => false

/-- A frame that makes a new request. -/
def asksAnew (state : Application catalog) (link : catalog.Link) (envelope : Envelope) : Bool :=
  state.asks link envelope && (state.links link).lastRequestId < envelope.requestId

end Application

/-- What a frame does to the requests. -/
inductive Processed (state : Application catalog)
    (link : catalog.Link) (frame : Decoded) (outcomes : FrameOutcomes) : Requests catalog → Prop
  | quiet : Processed state link frame outcomes state.requests
  | acknowledged (kind : frame.envelope.kind = .responseAck) :
      Processed state link frame outcomes (state.requests.acknowledge link frame.envelope.requestId)
  | cancelled (kind : frame.envelope.kind = .cancel) (handler : catalog.Handler)
      (held : Application.holdsRequest link frame.envelope.requestId
        (state.pending handler) = true) :
      Processed state link frame outcomes
        ((state.requests.setPending handler none).release link frame.envelope.requestId)
  | recalled (kind : frame.envelope.kind = .cancel) (handler : catalog.Handler)
      (held : Application.holdsRequest link frame.envelope.requestId
        (state.asynchronous handler) = true) :
      Processed state link frame outcomes
        ((state.requests.setAsynchronous handler none).release link frame.envelope.requestId)
  | dropped (kind : frame.envelope.kind = .data)
      (inStream : frame.envelope.operation = some .inStream)
      (granted : (state.links link).granted Permissions.control = true)
      (index : catalog.DataIndex) (found : catalog.datum? frame.envelope.target = some index)
      (absent : (catalog.datum index).inStream = none) :
      Processed state link frame outcomes (state.requests.release link frame.envelope.requestId)
  | replayed (asks : state.asks link frame.envelope = true)
      (positive : frame.envelope.requestId ≠ 0)
      (last : frame.envelope.requestId = (state.links link).lastRequestId) :
      Processed state link frame outcomes (state.requests.replay link frame.envelope.requestId)
  | declined (anew : state.asksAnew link frame.envelope = true)
      (kind : frame.envelope.kind = .request) (error : ErrorCode)
      (meant : catalog.requestHandler (state.links link).grants frame = .error error) :
      Processed state link frame outcomes (state.requests.enroll link frame.envelope.requestId)
  | requested (anew : state.asksAnew link frame.envelope = true)
      (kind : frame.envelope.kind = .request) (handler : catalog.Handler)
      (meant : catalog.requestHandler (state.links link).grants frame = .ok handler)
      (after : Requests catalog)
      (executed : Executed (state.requests.enroll link frame.envelope.requestId)
        (state.activeRequests.toNat < catalog.limits.maxRequests) handler
        (state.jobOf link frame) outcomes.answer after) :
      Processed state link frame outcomes after
  | subscribed (anew : state.asksAnew link frame.envelope = true)
      (kind : frame.envelope.kind = .subscribe ∨ frame.envelope.kind = .unsubscribe)
      (after : Requests catalog)
      (done : Subscribed (state.requests.enroll link frame.envelope.requestId) link frame after) :
      Processed state link frame outcomes after

namespace Application

variable {outcomes : FrameOutcomes}

theorem processed_of_old (asks : state.asks link frame.envelope = true)
    (old : ¬ (state.links link).lastRequestId < frame.envelope.requestId)
    {refused : Application catalog} {fresh : Bool}
    (result : state.admitRequestId link frame.envelope = (refused, fresh)) :
    Processed state link frame outcomes refused.requests := by
  have effect := (requests_admitRequestId_of_not_lt old).2
  rw [result] at effect
  rw [effect]
  split
  · rename_i both
    exact .replayed asks both.1 both.2
  · exact .quiet

theorem processed_processRequest (kind : frame.envelope.kind = .request) :
    Processed state link frame outcomes (state.processRequest link frame outcomes).requests := by
  have asks : state.asks link frame.envelope = true := by
    rw [Application.asks, kind]
  unfold processRequest
  by_cases fresh : (state.links link).lastRequestId < frame.envelope.requestId
  · have anew : state.asksAnew link frame.envelope = true := by
      rw [asksAnew, asks]
      exact decide_eq_true fresh
    rw [admitRequestId_of_lt fresh]
    dsimp only
    have grants : ((state.enroll link frame.envelope.requestId).links link).grants =
        (state.links link).grants := by
      simp only [enroll, onLink, Function.update_self]
    rw [dispatchRequest_eq, grants]
    cases meant : catalog.requestHandler (state.links link).grants frame with
    | error error =>
      rw [requests_protocolError, requests_enroll]
      exact .declined anew kind error meant
    | ok handler =>
      have executed := (state.enroll link frame.envelope.requestId).executed_executeReserved handler
        (state.jobOf link frame) outcomes.answer
      rw [requests_enroll] at executed
      exact .requested anew kind handler meant _ executed
  · split
    · rename_i refused result
      exact processed_of_old asks fresh result
    · rename_i admitted result
      have refused := (requests_admitRequestId_of_not_lt fresh).1
      rw [result] at refused
      exact nomatch refused

theorem processed_processSubscription {enable : Bool}
    (kind : frame.envelope.kind = .subscribe ∨ frame.envelope.kind = .unsubscribe) :
    Processed state link frame outcomes
      (state.processSubscription link frame enable outcomes).requests := by
  have gate : state.asks link frame.envelope =
      (state.links link).granted (subscriptionPermission frame.envelope) := by
    obtain kind | kind := kind
    · rw [Application.asks, kind]
    · rw [Application.asks, kind]
  unfold processSubscription
  dsimp only
  split
  · rw [requests_protocolError]
    exact .quiet
  rename_i granted
  have asks : state.asks link frame.envelope = true := gate.trans (eq_true_of_ne_false granted)
  by_cases fresh : (state.links link).lastRequestId < frame.envelope.requestId
  · have anew : state.asksAnew link frame.envelope = true := by
      rw [asksAnew, asks]
      exact decide_eq_true fresh
    rw [admitRequestId_of_lt fresh]
    dsimp only
    have reservation := (state.enroll link frame.envelope.requestId).requests_reserve link
      frame.envelope
    rw [requests_enroll] at reservation
    refine .subscribed anew kind _ ?_
    split
    · rename_i full
      have full : (state.requests.enroll link frame.envelope.requestId).reservable link
          frame.envelope = false := by
        rw [← requests_enroll]
        exact full
      rw [requests_protocolError, reservation, ← requests_enroll,
        requests_reserve_of_full (by rw [requests_enroll]; exact full), requests_enroll]
      exact .refused full
    · rename_i available
      have available : (state.requests.enroll link frame.envelope.requestId).reservable link
          frame.envelope = true := by
        rw [← requests_enroll]
        exact eq_true_of_ne_false available
      split
      · rename_i inStream
        exact subscribed_processInStreamSubscription available reservation inStream
      · exact subscribed_processOutSubscription available reservation enable
  · split
    · rename_i refused result
      exact processed_of_old asks fresh result
    · rename_i admitted result
      have refused := (requests_admitRequestId_of_not_lt fresh).1
      rw [result] at refused
      exact nomatch refused

theorem processed_processCancel (kind : frame.envelope.kind = .cancel) :
    Processed state link frame outcomes (state.processCancel link frame.envelope).requests := by
  unfold processCancel cancelPendingRequest
  cases found : catalog.handlers.find? (state.handlerHolds link frame.envelope.requestId) with
  | none =>
    rw [requests_protocolError]
    exact .quiet
  | some handler =>
    dsimp only
    by_cases waits : holdsRequest link frame.envelope.requestId (state.pending handler) = true
    · rw [if_pos waits]
      rw [requests_reject, requests_retire, requests_setPending]
      exact .cancelled kind handler waits
    · rw [if_neg waits]
      rw [requests_reject, requests_retire, requests_setAsynchronous]
      have holds := List.find?_some found
      rw [handlerHolds, eq_false_of_ne_true waits, Bool.false_or, Bool.and_eq_true] at holds
      exact .recalled kind handler holds.2

theorem processed_processData (kind : frame.envelope.kind = .data) :
    Processed state link frame outcomes (state.processData link frame outcomes).requests := by
  unfold processData
  dsimp only
  split
  · rw [requests_protocolError]
    exact .quiet
  rename_i inStream
  split
  · rename_i index found
    unfold executeInStreamFrame
    dsimp only
    split
    · rw [requests_protocolError]
      exact .quiet
    rename_i granted
    split
    · rename_i absent
      rw [requests_protocolError, requests_releaseResponse]
      exact .dropped kind (Decidable.not_not.mp inStream) (eq_true_of_ne_false granted) index
        found absent
    · split
      · rw [requests_protocolError]
        exact .quiet
      · split
        · rw [requests_protocolError]
          split
          · rw [streamless_requests.restoreInStreamCredit]
            exact .quiet
          · exact .quiet
        · split
          · rw [streamless_requests.runPendingInStream]
            exact .quiet
          · exact .quiet
  · rw [requests_protocolError]
    exact .quiet

/-- Everything a frame can do to the requests. -/
theorem processed_processFrame (state : Application catalog) :
    Processed state link frame outcomes (state.processFrame link frame outcomes).requests := by
  unfold processFrame
  dsimp only
  split
  · rename_i kind
    rw [requests_acknowledgeResponse]
    exact .acknowledged kind
  · rename_i kind
    exact processed_processCancel kind
  · rename_i kind
    exact processed_processSubscription (Or.inl kind)
  · rename_i kind
    exact processed_processSubscription (Or.inr kind)
  · rename_i kind
    exact processed_processData kind
  · rename_i kind
    split
    · rw [requests_protocolError]
      exact .quiet
    · exact processed_processRequest kind
  · rw [requests_protocolError]
    exact .quiet

end Application

/-! ### Steps -/

/-- What a step does to the requests. -/
inductive Moved (state : Application catalog) :
    ApplicationLabel catalog → Requests catalog → Prop
  | quiet (label : ApplicationLabel catalog) : Moved state label state.requests
  | greeted (link : catalog.Link) (frame : Decoded) (outcomes : FrameOutcomes) :
      Moved state (.frame link frame outcomes)
        (state.requests.setLink link { state.requests.links link with session := .active })
  | processed (link : catalog.Link) (frame : Decoded) (outcomes : FrameOutcomes)
      (active : (state.links link).session = .active) (after : Requests catalog)
      (done : Processed state link frame outcomes after) :
      Moved state (.frame link frame outcomes) after
  | renewed (label : ApplicationLabel catalog) (link : catalog.Link)
      (entry : LinkRequests catalog.limits) (empty : entry.responses = {})
      (zero : entry.lastRequestId = 0) (idle : entry.session ≠ .active) :
      Moved state label ((state.requests.cancel link).renew link entry)
  | stopped :
      Moved state .stop
        ((List.finRange catalog.streams.linkCount).foldl Requests.cancel state.requests)
  | staged (link : catalog.Link) (encodes : Bool) (disposition : TxDisposition) :
      Moved state (.output link encodes disposition) (state.requests.stage link)
  | returned (handler : catalog.Handler) (job : Job catalog.streams.linkCount)
      (asked : state.submission = some (.request handler job)) :
      Moved state (.submitted false)
        ((state.requests.setPending handler none).release job.link job.envelope.requestId)
  | taken (handler : catalog.Handler) (job : Job catalog.streams.linkCount)
      (idle : state.worker handler = .idle) (waits : state.pending handler = some job) :
      Moved state (.take handler)
        ((state.requests.setPending handler none).setWorker handler (.taken job))
  | lapsed (handler : catalog.Handler) (job : Job catalog.streams.linkCount)
      (held : state.worker handler = .taken job) (stale : state.isCurrent job = false) :
      Moved state (.begin handler) (state.requests.setWorker handler .idle)
  | crowded (handler : catalog.Handler) (job : Job catalog.streams.linkCount)
      (held : state.worker handler = .taken job) (current : state.isCurrent job = true)
      (asynchronous : handler.isAsynchronous = true)
      (busy : (state.asynchronous handler).isSome = true) :
      Moved state (.begin handler) (state.requests.setWorker handler .idle)
  | retained (handler : catalog.Handler) (job : Job catalog.streams.linkCount)
      (held : state.worker handler = .taken job) (current : state.isCurrent job = true)
      (asynchronous : handler.isAsynchronous = true) (free : state.asynchronous handler = none) :
      Moved state (.begin handler)
        (((state.requests.setAsynchronous handler (some job)).setWorker handler .idle).invoke job)
  | started (handler : catalog.Handler) (job : Job catalog.streams.linkCount)
      (held : state.worker handler = .taken job) (current : state.isCurrent job = true) :
      Moved state (.begin handler) ((state.requests.setWorker handler (.running job)).invoke job)
  | expired (handler : catalog.Handler) (answer : Option Answer)
      (job : Job catalog.streams.linkCount) (held : state.worker handler = .running job)
      (stale : state.isCurrent job = false) :
      Moved state (.finish handler answer) (state.requests.setWorker handler .idle)
  | failed (handler : catalog.Handler) (job : Job catalog.streams.linkCount)
      (held : state.worker handler = .running job) (current : state.isCurrent job = true) :
      Moved state (.finish handler none) (state.requests.setWorker handler .idle)
  | computed (handler : catalog.Handler) (answer : Answer)
      (job : Job catalog.streams.linkCount) (held : state.worker handler = .running job) :
      Moved state (.finish handler (some answer))
        (state.requests.setWorker handler (.answering job answer))
  | answered (handler : catalog.Handler) (answer : Answer)
      (job : Job catalog.streams.linkCount)
      (held : state.worker handler = .answering job answer) :
      Moved state (.answer handler) ((state.requests.respond job answer).setWorker handler .idle)
  | outlived (thread : Nat) (handler : catalog.Handler)
      (token : ResponderToken catalog.streams.linkCount) (answer : Option Answer)
      (job : Job catalog.streams.linkCount) (held : state.asynchronous handler = some job)
      (stale : state.isCurrent job = false) :
      Moved state (.complete thread handler token answer)
        (state.requests.setAsynchronous handler none)
  | botched (thread : Nat) (handler : catalog.Handler)
      (token : ResponderToken catalog.streams.linkCount) (job : Job catalog.streams.linkCount)
      (claimed : state.claim? handler token = some job)
      (held : state.asynchronous handler = some job) :
      Moved state (.complete thread handler token none)
        (state.requests.setAsynchronous handler none)
  | claimed (thread : Nat) (handler : catalog.Handler)
      (token : ResponderToken catalog.streams.linkCount) (answer : Answer)
      (job : Job catalog.streams.linkCount) (held : state.asynchronous handler = some job)
      (free : state.completion thread = none) :
      Moved state (.complete thread handler token (some answer))
        ((state.requests.setAsynchronous handler none).setCompletion thread (some (job, answer)))
  | completed (thread : Nat) (answer : Answer) (job : Job catalog.streams.linkCount)
      (held : state.completion thread = some (job, answer)) :
      Moved state (.answerCompletion thread)
        ((state.requests.respond job answer).setCompletion thread none)
  | abandoned (handler : catalog.Handler) (token : ResponderToken catalog.streams.linkCount)
      (job : Job catalog.streams.linkCount) (claimed : state.claim? handler token = some job)
      (held : state.asynchronous handler = some job) :
      Moved state (.abandon handler token) (state.requests.setAsynchronous handler none)

theorem Moved.of_eq {label : ApplicationLabel catalog} {after other : Requests catalog}
    (moved : Moved state label after) (same : other = after) : Moved state label other :=
  same ▸ moved

variable {state next : Application catalog}

namespace Application

theorem moved_clientHello {outcomes : FrameOutcomes} :
    Moved state (.frame link frame outcomes)
      (state.onLink link (LinkState.clientHello · frame.payload)).requests := by
  cases accepted : acceptsHello frame.payload with
  | false =>
    refine (Moved.quiet _).of_eq (requests_onLink_of_same ?_)
    rw [LinkState.clientHello, accepted]
    rfl
  | true =>
    refine (Moved.greeted link frame outcomes).of_eq ?_
    rw [requests_onLink, LinkState.clientHello, accepted]
    rfl

theorem moved_renewSession {label : ApplicationLabel catalog} {reason : InStreamCloseReason}
    {change : LinkState catalog.limits → LinkState catalog.limits}
    (empty : ∀ entry, (change entry).responses = {})
    (zero : ∀ entry, (change entry).lastRequestId = 0)
    (idle : ∀ entry, (change entry).session ≠ .active) :
    Moved state label ((state.resetSession link reason).renewSession link change).requests := by
  rw [requests_renewSession, requests_resetSession]
  exact .renewed label link _ (empty _) (zero _) (idle _)

theorem moved_handleFrame {outcomes : FrameOutcomes} :
    Moved state (.frame link frame outcomes) (state.handleFrame link frame outcomes).requests := by
  have application : Moved state (.frame link frame outcomes)
      (if (state.links link).session = .active then state.processFrame link frame outcomes
        else state).requests := by
    split
    · rename_i active
      exact .processed link frame outcomes active _ state.processed_processFrame
    · exact .quiet _
  unfold handleFrame
  dsimp only
  split
  · exact moved_clientHello
  · split
    · rw [requests_transmit]
      exact .quiet _
    · exact .quiet _
  · split
    · split
      · rw [requests_transmit]
        exact .quiet _
      · exact .quiet _
    · exact .quiet _
  · split
    · split
      · rw [requests_transmit]
        exact .quiet _
      · exact .quiet _
    · exact .quiet _
  · exact moved_renewSession (fun _ => rfl) (fun _ => rfl)
      (fun _ => nofun)
  all_goals first
    | exact application
    | exact .quiet _

end Application

namespace Application

theorem moved_settleSubmission {accepted : Bool} :
    Moved state (.submitted accepted) (state.settleSubmission accepted).requests := by
  unfold settleSubmission
  split
  · exact .quiet _
  rename_i submission asked
  split
  · exact .quiet _
  rename_i refused
  obtain rfl : accepted = false := eq_false_of_ne_true refused
  split
  · rename_i handler job
    rw [requests_reject, requests_retire, requests_setPending]
    exact .returned handler job asked
  · rw [requests_protocolError, streamless_requests.returnInStreamCredit, streamless_requests.setRow]
    exact .quiet _

variable {handler : catalog.Handler}

theorem moved_takeRequest (taken : state.takeRequest handler = some next) :
    Moved state (.take handler) next.requests := by
  unfold takeRequest at taken
  split at taken
  · rename_i job idle waits
    rw [← some.inj taken]
    exact .taken handler job idle waits
  · exact nomatch taken

theorem moved_beginRequest (begun : state.beginRequest handler = some next) :
    Moved state (.begin handler) next.requests := by
  unfold beginRequest at begun
  split at begun
  · rename_i job held
    split at begun
    · rename_i stale
      rw [← some.inj begun]
      exact .lapsed handler job held stale
    rename_i current
    have current := eq_true_of_ne_false current
    split at begun
    · rename_i asynchronous
      split at begun
      · rename_i other busy
        rw [← some.inj begun, requests_dropRequest, requests_protocolError]
        exact .crowded handler job held current asynchronous (by rw [busy]; rfl)
      · rename_i free
        rw [← some.inj begun]
        exact .retained handler job held current asynchronous free
    · rw [← some.inj begun]
      exact .started handler job held current
  · exact nomatch begun

theorem moved_finishRequest {answer : Option Answer}
    (finished : state.finishRequest handler answer = some next) :
    Moved state (.finish handler answer) next.requests := by
  unfold finishRequest at finished
  split at finished
  · rename_i job held
    split at finished
    · rename_i stale
      rw [← some.inj finished]
      exact .expired handler answer job held stale
    rename_i current
    have current := eq_true_of_ne_false current
    split at finished
    · rw [← some.inj finished, requests_dropRequest, requests_protocolError]
      exact .failed handler job held current
    · rename_i result
      rw [← some.inj finished]
      exact .computed handler result job held
  · exact nomatch finished

theorem moved_answerRequest (responded : state.answerRequest handler = some next) :
    Moved state (.answer handler) next.requests := by
  unfold answerRequest at responded
  split at responded
  · rename_i job answer held
    rw [← some.inj responded, requests_dropRequest, requests_respond]
    exact .answered handler answer job held
  · exact nomatch responded

variable {token : ResponderToken catalog.streams.linkCount}

theorem moved_completeRequest {thread : Nat} {answer : Option Answer}
    (completed : state.completeRequest thread handler token answer = some next) :
    Moved state (.complete thread handler token answer) next.requests := by
  unfold completeRequest at completed
  split at completed
  · exact nomatch completed
  rename_i free
  split at completed
  · rw [← some.inj completed]
    exact .quiet _
  rename_i job claimed
  have held := asynchronous_of_claim? claimed
  split at completed
  · rename_i stale
    rw [← some.inj completed]
    exact .outlived thread handler token answer job held stale
  split at completed
  · rw [← some.inj completed, requests_retire, requests_protocolError]
    exact .botched thread handler token job claimed held
  · rename_i result
    rw [← some.inj completed]
    exact .claimed thread handler token result job held free

theorem moved_answerCompletion {thread : Nat}
    (responded : state.answerCompletion thread = some next) :
    Moved state (.answerCompletion thread) next.requests := by
  unfold answerCompletion at responded
  split at responded
  · rename_i job answer held
    rw [← some.inj responded, requests_retire, requests_setCompletion, requests_respond]
    exact .completed thread answer job held
  · exact nomatch responded

theorem moved_abandonRequest :
    Moved state (.abandon handler token) (state.abandonRequest handler token).requests := by
  unfold abandonRequest
  split
  · exact .quiet _
  · rename_i job claimed
    rw [requests_retire, requests_protocolError]
    exact .abandoned handler token job claimed (asynchronous_of_claim? claimed)

theorem moved_output {encodes : Bool} {disposition : TxDisposition} :
    Moved state (.output link encodes disposition)
      (state.onLink link (LinkState.tryStartTransmit · encodes disposition)).requests := by
  have same : (state.onLink link (LinkState.tryStartTransmit · encodes disposition)).requests =
      (state.onLink link LinkState.stageResponse).requests := by
    rw [requests_onLink, requests_onLink, mute_requests.tryStartTransmit]
  rw [same]
  obtain unstaged | staged := state.requests_stageResponse
  · rw [unstaged]
    exact .quiet _
  · rw [staged]
    exact .staged link encodes disposition

/-- Everything a step can do to the requests. -/
theorem moved_of_step {label : ApplicationLabel catalog} (stepped : state.step label = some next) :
    Moved state label next.requests := by
  cases label with
  | frame link frame outcomes =>
    obtain ⟨_, ⟨⟩⟩ := ite_none_right_eq_some.mp stepped
    exact moved_handleFrame
  | submitted accepted =>
    obtain ⟨_, ⟨⟩⟩ := ite_none_right_eq_some.mp stepped
    exact moved_settleSubmission
  | connected link =>
    obtain ⟨_, ⟨⟩⟩ := ite_none_right_eq_some.mp stepped
    exact moved_renewSession (fun _ => rfl) (fun _ => rfl) (fun _ => nofun)
  | disconnected link fault =>
    obtain ⟨_, ⟨⟩⟩ := ite_none_right_eq_some.mp stepped
    refine moved_renewSession (fun _ => rfl) (fun _ => rfl) (fun _ => ?_)
    cases fault
    · exact nofun
    · exact nofun
  | stop =>
    obtain ⟨_, ⟨⟩⟩ := ite_none_right_eq_some.mp stepped
    rw [requests_resetSessions]
    exact .stopped
  | output link encodes disposition =>
    rw [← some.inj stepped]
    exact moved_output
  | txComplete link handle =>
    rw [← some.inj stepped]
    exact (Moved.quiet _).of_eq (requests_onLink_of_same (mute_requests.txComplete _ handle))
  | take handler => exact moved_takeRequest stepped
  | begin handler => exact moved_beginRequest stepped
  | finish handler answer => exact moved_finishRequest stepped
  | answer handler => exact moved_answerRequest stepped
  | complete thread handler token answer => exact moved_completeRequest stepped
  | answerCompletion thread => exact moved_answerCompletion stepped
  | abandon handler token =>
    rw [← some.inj stepped]
    exact moved_abandonRequest
  | inStreamWork endpoint consumed =>
    rw [← some.inj stepped, streamless_requests.runPendingInStream]
    exact .quiet _

end Application

end Solar.Remote
