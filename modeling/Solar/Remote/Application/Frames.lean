/-
This file models how the application layer processes a frame: inbound streams,
subscriptions, the dispatch of requests, cancellation and acknowledgement, up to
`process_link_application_frame`, and above it the service's `handle_frame` and
link events. Every function follows its source function branch by branch.

The inbound-stream sections are those of the stream model; here a frame runs
through all of its sections in one go.
-/

import Solar.Remote.Application.State

namespace Solar.Remote

/-- The capability check of a subscription request. -/
def SubscriptionRequest.isSupported (request : SubscriptionRequest) (codec : Codec) : Bool :=
  request.flags = 0 && (request.codec = 0 || request.codec = codec.code)

/-- The handler a request is meant for, or the error it is turned away with. -/
def RemoteCatalog.requestHandler {Value : Type} (catalog : RemoteCatalog Value)
    (grants : Permissions) (frame : Decoded) : Except ErrorCode catalog.Handler :=
  match frame.envelope.operation with
  | some .action =>
      match catalog.action? frame.envelope.target with
      | none => .error .unknownTarget
      | some index =>
          if Permissions.allows grants (catalog.action index).access = false then
            .error .unauthorized
          else if (catalog.action index).decodes frame.payload = false then .error .decodeFailure
          else .ok (.action index)
  | some .query =>
      match catalog.datum? frame.envelope.target with
      | none => .error .unknownTarget
      | some index =>
          if Permissions.allows grants Permissions.observe = false then .error .unauthorized
          else if (catalog.datum index).query = false then .error .unsupportedOperation
          else .ok (.query index)
  | some .update =>
      match catalog.datum? frame.envelope.target with
      | none => .error .unknownTarget
      | some index =>
          if Permissions.allows grants Permissions.configure = false then .error .unauthorized
          else if (catalog.datum index).update = false then .error .unsupportedOperation
          else if (catalog.datum index).decodes frame.payload = false then .error .decodeFailure
          else .ok (.update index)
  | _ => .error .unsupportedOperation

namespace Application

variable {Value : Type} {catalog : RemoteCatalog Value}

/-! ### Inbound streams -/

/-- A frame about an inbound stream. -/
def streamFrame (kind : Kind) (payload : Bytes) (correlation target : UInt32) : OutboundSlot where
  kind
  requestId := correlation
  target
  reserved := 3
  payload

section

variable (state : Application catalog)

section

variable (endpoint : catalog.Endpoint)

def setRow (link : catalog.Link)
    (replacement : InStreamLink Value (catalog.streams.window endpoint)) : Application catalog :=
  { state with streams := state.streams.setRow endpoint link replacement }

def countStream (change : InStreamCounters → InStreamCounters) : Application catalog :=
  { state with streams := state.streams.count endpoint change }

section

variable (link : catalog.Link)

/-- The Credit frame of a grant. -/
def sendCredit (token : UInt32) (credits : UInt16) (correlation : UInt32) : Application catalog :=
  state.onLink link (LinkState.transmit · (streamFrame .credit (CreditGrant.encode {
      token
      credits
      window := UInt16.ofNat (catalog.streams.window endpoint) })
    correlation (catalog.endpointId endpoint)))

/-- `send_in_stream_credit`. -/
def sendInStreamCredit (credits : UInt16) (correlation : UInt32) : Application catalog :=
  let row := state.streams.rows endpoint link
  if credits = 0 ∨ row.active = false then state
  else state.sendCredit endpoint link row.token credits correlation

/-- `restore_in_stream_credit`. -/
def restoreInStreamCredit (token generation : UInt32) : Application catalog :=
  if (state.streams.rows endpoint link).matchesSample token generation then
    state.sendCredit endpoint link token 1 0
  else state

/-- `return_in_stream_credit`. -/
def returnInStreamCredit (token generation : UInt32) : Application catalog :=
  if (state.links link).session = .active then
    let account := (state.streams.rows endpoint link).returnCredit token generation
    let returned := state.setRow endpoint link account.1
    if account.2 then returned.sendInStreamCredit endpoint link 1 0 else returned
  else state

/-- `close_in_stream_link`. -/
def closeInStreamLink (reason : InStreamCloseReason) (notify : Bool) : Application catalog :=
  let row := state.streams.rows endpoint link
  if row.active then
    let closed := state.setRow endpoint link row.close
    if notify then
      closed.onLink link (LinkState.transmit · (streamFrame .inStreamClosed
        (InStreamClosed.encode { token := row.token, reason })
        0 (catalog.endpointId endpoint)))
    else closed
  else state

end

end

/-- Close a list of rows, one after the other. -/
def closeInStreamRows (rows : List catalog.streams.Row) (reason : InStreamCloseReason)
    (notify : Bool) : Application catalog :=
  rows.foldl (fun state row => state.closeInStreamLink row.1 row.2 reason notify) state

/-- The token `next_in_stream_token` returns: zero is skipped. -/
def issuedToken : UInt32 :=
  if state.nextToken = 0 then 1 else state.nextToken

/-- The end of `open_in_stream`: the stream is installed and its open callback is run. -/
def installInStream (link : catalog.Link) (endpoint : catalog.Endpoint)
    (request : SubscriptionRequest) (opened : Bool) :
    Application catalog × Except ErrorCode InStreamOpenResponse :=
  let traits := catalog.streams.traits endpoint
  let token := state.issuedToken
  let interval := max request.minimumIntervalUs traits.minimumIntervalUs
  let installed : Application catalog :=
    { state.setRow endpoint link ((state.streams.rows endpoint link).install token interval) with
      nextToken := token + 1 }
  if traits.hasOnOpen ∧ opened = false then
    (installed.closeInStreamLink endpoint link .configurationFailed true, .error .internalFailure)
  else
    (installed, .ok {
      policy := { minimumIntervalUs := interval, batchSize := 1, codec := traits.codec }
      token })

/-- `open_in_stream`. -/
def openInStream (link : catalog.Link) (endpoint : catalog.Endpoint) (request : SubscriptionRequest)
    (opened : Bool) : Application catalog × Except ErrorCode InStreamOpenResponse :=
  let traits := catalog.streams.traits endpoint
  if request.flags ≠ 0 ∨ request.batchSize > 1 ∨
      (request.codec ≠ 0 ∧ request.codec ≠ traits.codec.code) then
    (state, .error .unsupportedCapability)
  else
    match traits.exclusive with
    | some (name, .rejectExisting) =>
        if state.streams.groupIsActive name then (state, .error .busy)
        else state.installInStream link endpoint request opened
    | some (name, .replaceExisting) =>
        (state.closeInStreamRows (catalog.streams.groupRows name) .replaced true).installInStream
          link endpoint request opened
    | none =>
        (state.closeInStreamLink endpoint link .replaced true).installInStream
          link endpoint request opened

/-- One round of `run_pending_in_stream`, with the result of the consumer. -/
def drainStep (endpoint : catalog.Endpoint) (consumed : Bool) : Option (Application catalog) :=
  (state.streams.take? endpoint).map fun (link, index, slot, taken) =>
    let current := taken.isCurrent index slot.token slot.generation
    let emptied := (state.setRow endpoint link (taken.release index)).countStream endpoint
      fun counters =>
        if current then
          { counters with
            completed := counters.completed + 1
            consumerFailures :=
              if consumed then counters.consumerFailures else counters.consumerFailures + 1 }
        else { counters with rejected := counters.rejected + 1 }
    emptied.returnInStreamCredit endpoint link slot.token slot.generation

end

/-- `run_pending_in_stream`, for at most the given number of samples. -/
def drain (endpoint : catalog.Endpoint) (consumed : Bool) :
    Nat → Application catalog → Application catalog
  | 0, state => state
  | rounds + 1, state =>
      match state.drainStep endpoint consumed with
      | none => state
      | some next => drain endpoint consumed rounds next

/-- `run_pending_in_stream`: an endpoint holds at most a window of samples for each link. -/
def runPendingInStream (state : Application catalog) (endpoint : catalog.Endpoint)
    (consumed : Bool) : Application catalog :=
  drain endpoint consumed (catalog.streams.linkCount * catalog.streams.window endpoint) state

/-- `execute_in_stream_frame`. -/
def executeInStreamFrame (state : Application catalog) (link : catalog.Link)
    (index : catalog.DataIndex) (frame : Decoded) (outcomes : FrameOutcomes) :
    Application catalog :=
  let envelope := frame.envelope
  if (state.links link).granted Permissions.control = false then
    state.protocolError link 0 envelope.target .unauthorized
  else
    match (catalog.datum index).inStream with
    | none =>
        (state.releaseResponse link envelope.requestId).protocolError link 0 envelope.target
          .unsupportedOperation
    | some endpoint =>
        match (catalog.streams.traits endpoint).decode frame.payload with
        | none => state.protocolError link 0 envelope.target .decodeFailure
        | some value =>
            let row := state.streams.rows endpoint link
            match row.admitFrame catalog.streams.ticksPerSecond envelope value outcomes.now with
            | .error rejection =>
                let counted := state.countStream endpoint fun counters =>
                  { counters with rejected := counters.rejected + 1 }
                let restored := if rejection = .rate then
                    counted.restoreInStreamCredit endpoint link envelope.requestId row.generation
                  else counted
                restored.protocolError link 0 envelope.target rejection.errorCode
            | .ok admitted =>
                let stored := (state.setRow endpoint link admitted).countStream endpoint
                  fun counters => { counters with admitted := counters.admitted + 1 }
                if (catalog.streams.traits endpoint).inline then
                  stored.runPendingInStream endpoint outcomes.consumed
                else
                  { stored with
                    submission := some (.sample endpoint link envelope row.generation) }

/-! ### Subscriptions -/

section

variable (state : Application catalog) (link : catalog.Link)

/-- The slot of a link's subscription table is set or cleared, and the number of interested
sessions follows. -/
def setSubscription (slot : Nat) (enable : Bool) (policy : SubscriptionPolicy)
    (countsInterest : Bool) : Application catalog :=
  let changed := (state.links link).subscriptionChanges slot enable
  { state.onLink link (LinkState.setSubscription · slot enable policy.minimumIntervalUs) with
    interested := if countsInterest then
        Function.update state.interested slot
          (LinkState.countSubscription changed enable (state.interested slot))
      else state.interested }

/-- `update_data_subscription` for the endpoint its target names. -/
def updateDataSubscription (index : catalog.DataIndex) (enable stream : Bool)
    (request : SubscriptionRequest) : Application catalog × Except ErrorCode SubscriptionPolicy :=
  let datum := catalog.datum index
  let supported := if stream then datum.outStream.isSome else datum.watch
  if supported = false then (state, .error .unsupportedOperation)
  else if request.isSupported datum.codec = false then
    (state, .error .unsupportedCapability)
  else
    let minimum := if stream then
        (datum.outStream.map OutStreamTraits.minimumIntervalUs).getD 0
      else 0
    let policy : SubscriptionPolicy := {
      minimumIntervalUs := max request.minimumIntervalUs minimum
      batchSize := 1
      codec := datum.codec }
    let slot := if stream then catalog.streamSlot index else catalog.watchSlot index
    let countsInterest := if stream then
        (datum.outStream.map OutStreamTraits.countsInterest).getD false
      else true
    (state.setSubscription link slot enable policy countsInterest, .ok policy)

/-- `update_topic_subscription` for the topic its target names. -/
def updateTopicSubscription (index : catalog.TopicIndex) (enable : Bool)
    (request : SubscriptionRequest) : Application catalog × Except ErrorCode SubscriptionPolicy :=
  let topic := catalog.topic index
  if request.isSupported topic.codec = false then
    (state, .error .unsupportedCapability)
  else
    let policy : SubscriptionPolicy := {
      minimumIntervalUs := request.minimumIntervalUs
      batchSize := 1
      codec := topic.codec }
    (state.setSubscription link (catalog.topicSlot index) enable policy true, .ok policy)

/-- `update_subscription`: the kind decides where the target is looked up. A target that is not
found is unknown. -/
def updateSubscription (target : UInt32) (enable : Bool) (kind : Option SubscriptionKind)
    (request : SubscriptionRequest) : Application catalog × Except ErrorCode SubscriptionPolicy :=
  match kind with
  | some .dataStream =>
      match catalog.datum? target with
      | some index => state.updateDataSubscription link index enable true request
      | none => (state, .error .unknownTarget)
  | some .dataWatch =>
      match catalog.datum? target with
      | some index => state.updateDataSubscription link index enable false request
      | none => (state, .error .unknownTarget)
  | some .topic =>
      match catalog.topic? target with
      | some index => state.updateTopicSubscription link index enable request
      | none => (state, .error .unknownTarget)
  | _ => (state, .error .unknownTarget)

/-- `respond` on the link of a frame. -/
def respondTo (envelope : Envelope) (payload : Bytes) : Application catalog × Bool :=
  let written := (state.links link).respond envelope.requestId envelope.target { payload }
  (state.onLink link fun entry =>
    (entry.respond envelope.requestId envelope.target { payload }).1, written.2)

end

/-- A subscription request with an empty payload asks for the defaults. -/
def requestedPolicy (payload : Bytes) : Option SubscriptionRequest :=
  if payload = [] then some {} else decodeSubscriptionRequest payload

section

variable (state : Application catalog) (link : catalog.Link)

/-- `process_in_stream_subscription_for` with `enable`. -/
def openSubscription (endpoint : catalog.Endpoint) (frame : Decoded) (opened : Bool) :
    Application catalog :=
  let envelope := frame.envelope
  match requestedPolicy frame.payload with
  | none => state.reject link envelope .decodeFailure
  | some request =>
      match state.openInStream link endpoint request opened with
      | (failed, .error error) => failed.reject link envelope error
      | (installed, .ok response) =>
          let answered := installed.respondTo link envelope response.encode
          if answered.2 = false then
            (answered.1.closeInStreamLink endpoint link .fault true).reject link envelope
              .internalFailure
          else
            let staged := answered.1.onLink link LinkState.stageResponse
            staged.sendInStreamCredit endpoint link (staged.streams.rows endpoint link).credits
              envelope.requestId

/-- `process_in_stream_subscription_for` without `enable`. -/
def closeSubscription (endpoint : catalog.Endpoint) (frame : Decoded) : Application catalog :=
  let envelope := frame.envelope
  match decodeInStreamCloseRequest frame.payload with
  | none => state.reject link envelope .decodeFailure
  | some token =>
      let row := state.streams.rows endpoint link
      if row.active = false ∨ row.token ≠ token then state.reject link envelope .requestExpired
      else ((state.closeInStreamLink endpoint link .closed false).respondTo link envelope []).1

/-- `process_in_stream_subscription_target`. An endpoint without an inbound stream answers with
an error and keeps the reservation. -/
def processInStreamSubscription (frame : Decoded) (enable opened : Bool) : Application catalog :=
  let envelope := frame.envelope
  match catalog.datum? envelope.target with
  | none => state.reject link envelope .unknownTarget
  | some index =>
      match (catalog.datum index).inStream with
      | none =>
          state.protocolError link envelope.requestId envelope.target .unsupportedOperation
      | some endpoint =>
          if enable then state.openSubscription link endpoint frame opened
          else state.closeSubscription link endpoint frame

/-- The end of `process_subscription` for the other kinds. -/
def processOutSubscription (frame : Decoded) (enable : Bool) : Application catalog :=
  let envelope := frame.envelope
  let request := if enable then requestedPolicy frame.payload
    else if frame.payload = [] then some {} else none
  match request with
  | none => state.reject link envelope .decodeFailure
  | some request =>
      match state.updateSubscription link envelope.target enable envelope.subscription request with
      | (_, .error error) => state.reject link envelope error
      | (updated, .ok policy) => (updated.respondTo link envelope policy.encode).1

end

/-- The permission a subscription needs. -/
def subscriptionPermission (envelope : Envelope) : Permissions :=
  if envelope.subscription = some .dataInStream then Permissions.control else Permissions.observe

/-- `process_subscription`. -/
def processSubscription (state : Application catalog) (link : catalog.Link) (frame : Decoded)
    (enable : Bool) (outcomes : FrameOutcomes) : Application catalog :=
  let envelope := frame.envelope
  if (state.links link).granted (subscriptionPermission envelope) = false then
    state.protocolError link envelope.requestId envelope.target .unauthorized
  else
    match state.admitRequestId link envelope with
    | (refused, false) => refused
    | (admitted, true) =>
        let reserved := admitted.onLink link fun entry =>
          (entry.reserveResponse envelope.requestId envelope.target).1
        if ((admitted.links link).reserveResponse envelope.requestId envelope.target).2 = false then
          reserved.protocolError link envelope.requestId envelope.target .noCapacity
        else if envelope.subscription = some .dataInStream then
          reserved.processInStreamSubscription link frame enable outcomes.opened
        else reserved.processOutSubscription link frame enable

/-! ### Dispatch -/

section

variable (state : Application catalog)

section

variable (link : catalog.Link)

section

variable (frame : Decoded)

section

variable (outcomes : FrameOutcomes)

/-- The dispatch of an admitted request by its operation and target. -/
def dispatchRequest : Application catalog :=
  let envelope := frame.envelope
  let unknown := state.protocolError link envelope.requestId envelope.target .unknownTarget
  match envelope.operation with
  | some .action =>
      match catalog.action? envelope.target with
      | some index => state.executeActionRequest link index frame outcomes.answer
      | none => unknown
  | some .query =>
      match catalog.datum? envelope.target with
      | some index => state.executeQueryRequest link index frame outcomes.answer
      | none => unknown
  | some .update =>
      match catalog.datum? envelope.target with
      | some index => state.executeUpdateRequest link index frame outcomes.answer
      | none => unknown
  | _ => state.protocolError link envelope.requestId envelope.target .unsupportedOperation

/-- The request a frame makes in the present session of its link. -/
def jobOf : Job catalog.streams.linkCount :=
  ⟨link, frame.envelope, frame.payload, state.sessions link⟩

theorem dispatchRequest_eq :
    state.dispatchRequest link frame outcomes =
      match catalog.requestHandler (state.links link).grants frame with
      | .error error =>
          state.protocolError link frame.envelope.requestId frame.envelope.target error
      | .ok handler => state.executeReserved handler (state.jobOf link frame) outcomes.answer := by
  unfold dispatchRequest RemoteCatalog.requestHandler
  dsimp only
  cases frame.envelope.operation with
  | none => rfl
  | some operation =>
    cases operation with
    | inStream => rfl
    | action =>
      cases catalog.action? frame.envelope.target with
      | none => rfl
      | some index =>
        dsimp only [executeActionRequest, LinkState.granted]
        by_cases denied : Permissions.allows (state.links link).grants
            (catalog.action index).access = false
        · simp [denied]
        by_cases garbled : (catalog.action index).decodes frame.payload = false
        · simp [denied, garbled]
        · simp [denied, garbled, jobOf]
    | query =>
      cases catalog.datum? frame.envelope.target with
      | none => rfl
      | some index =>
        dsimp only [executeQueryRequest, LinkState.granted]
        by_cases denied : Permissions.allows (state.links link).grants Permissions.observe = false
        · simp [denied]
        by_cases absent : (catalog.datum index).query = false
        · simp [denied, absent]
        · simp [denied, absent, jobOf]
    | update =>
      cases catalog.datum? frame.envelope.target with
      | none => rfl
      | some index =>
        dsimp only [executeUpdateRequest, LinkState.granted]
        by_cases denied : Permissions.allows (state.links link).grants Permissions.configure = false
        · simp [denied]
        by_cases absent : (catalog.datum index).update = false
        · simp [denied, absent]
        by_cases garbled : (catalog.datum index).decodes frame.payload = false
        · simp [denied, absent, garbled]
        · simp [denied, absent, garbled, jobOf]

/-- A Request frame. -/
def processRequest : Application catalog :=
  match state.admitRequestId link frame.envelope with
  | (refused, false) => refused
  | (admitted, true) => admitted.dispatchRequest link frame outcomes

end

end

/-- A Cancel frame. -/
def processCancel (envelope : Envelope) : Application catalog :=
  match state.cancelPendingRequest link envelope.requestId with
  | (cancelled, true) => cancelled.reject link envelope .cancelled
  | (_, false) => state.protocolError link envelope.requestId envelope.target .requestExpired

/-- A Data frame. -/
def processData (frame : Decoded) (outcomes : FrameOutcomes) : Application catalog :=
  let envelope := frame.envelope
  if envelope.operation ≠ some .inStream then
    state.protocolError link 0 envelope.target .unsupportedOperation
  else
    match catalog.datum? envelope.target with
    | some index => state.executeInStreamFrame link index frame outcomes
    | none => state.protocolError link 0 envelope.target .unknownTarget

/-- `process_link_application_frame`, up to a submission that is still to be answered. -/
def processFrame (frame : Decoded) (outcomes : FrameOutcomes) : Application catalog :=
  let envelope := frame.envelope
  match envelope.kind with
  | .responseAck => state.onLink link (LinkState.acknowledgeResponse · envelope.requestId)
  | .cancel => state.processCancel link envelope
  | .subscribe => state.processSubscription link frame true outcomes
  | .unsubscribe => state.processSubscription link frame false outcomes
  | .data => state.processData link frame outcomes
  | .request =>
      if envelope.requestId = 0 then
        state.protocolError link envelope.requestId envelope.target .unsupportedOperation
      else state.processRequest link frame outcomes
  | _ => state.protocolError link envelope.requestId envelope.target .unsupportedOperation

end

/-- The execution system answers a submission. A refusal takes the request or the sample back,
without looking at what the cell holds by now. -/
def settleSubmission (accepted : Bool) : Application catalog :=
  match state.submission with
  | none => state
  | some submission =>
      let settled := { state with submission := none }
      if accepted then settled
      else
        match submission with
        | .request handler job => (settled.setPending handler none).retire.reject job.link
            job.envelope .busy
        | .sample endpoint link envelope generation =>
            ((settled.setRow endpoint link ((settled.streams.rows endpoint link).withdraw
                envelope.frameSequence)).returnInStreamCredit endpoint link envelope.requestId
                  generation).protocolError link 0 envelope.target .busy

end

/-! ### Sessions -/

section

variable (state : Application catalog) (link : catalog.Link)

/-- The Data and topic subscriptions of a link are cleared, as `reset_session_link` does. -/
def resetSubscriptions : Application catalog :=
  let streams := (List.finRange catalog.data.length).foldl
    (fun state index => (state.updateDataSubscription link index false true {}).1) state
  let watches := (List.finRange catalog.data.length).foldl
    (fun state index => (state.updateDataSubscription link index false false {}).1) streams
  (List.finRange catalog.topics.length).foldl
    (fun state index => (state.updateTopicSubscription link index false {}).1) watches

/-- `reset_session`. -/
def resetSession (reason : InStreamCloseReason) : Application catalog :=
  ((state.cancelSessionRequests link).closeInStreamRows (catalog.streams.linkRows link) reason
    false).resetSubscriptions link

/-- The link starts a new session. -/
def renewSession (change : LinkState catalog.limits → LinkState catalog.limits) :
    Application catalog :=
  { state.onLink link change with
    sessions := Function.update state.sessions link (state.sessions link + 1) }

/-- `handle_frame` for a complete frame. -/
def handleFrame (frame : Decoded) (outcomes : FrameOutcomes) : Application catalog :=
  let active := (state.links link).session = .active
  match frame.envelope.kind with
  | .clientHello => state.onLink link (LinkState.clientHello · frame.payload)
  | .keepalive =>
      if active then
        state.onLink link (LinkState.transmit · { kind := .keepalive, payload := frame.payload })
      else state
  | .ping | .introspection =>
      match outcomes.reply with
      | some reply => if active then state.onLink link (LinkState.transmit · reply) else state
      | none => state
  | .sessionReset =>
      (state.resetSession link .reset).renewSession link LinkState.sessionReset
  | .request | .responseAck | .cancel | .subscribe | .unsubscribe | .credit | .data | .pong =>
      if active then state.processFrame link frame outcomes else state
  | _ => state

end

/-! ### What inbound streams reach -/

/-- A view of the state that nothing inbound streams do reaches: they change their own rows,
counters and tokens, and they send. -/
structure Streamless {View : Type} (view : Application catalog → View) : Prop where
  transmit (state link slot) : view (state.onLink link (LinkState.transmit · slot)) = view state
  streams (state streams token) :
    view { state with streams, nextToken := token } = view state

namespace Streamless

variable {View : Type} {view : Application catalog → View} (streamless : Streamless view)
  (state : Application catalog) (endpoint : catalog.Endpoint) (link : catalog.Link)

include streamless

theorem setRow (row : InStreamLink Value (catalog.streams.window endpoint)) :
    view (state.setRow endpoint link row) = view state :=
  streamless.streams state _ state.nextToken

theorem sendInStreamCredit (credits : UInt16) (correlation : UInt32) :
    view (state.sendInStreamCredit endpoint link credits correlation) = view state := by
  unfold Application.sendInStreamCredit
  dsimp only
  split
  · rfl
  · exact streamless.transmit state link _

theorem restoreInStreamCredit (token generation : UInt32) :
    view (state.restoreInStreamCredit endpoint link token generation) = view state := by
  unfold Application.restoreInStreamCredit
  split
  · exact streamless.transmit state link _
  · rfl

theorem returnInStreamCredit (token generation : UInt32) :
    view (state.returnInStreamCredit endpoint link token generation) = view state := by
  unfold Application.returnInStreamCredit
  dsimp only
  split
  · split
    · rw [streamless.sendInStreamCredit, streamless.setRow]
    · exact streamless.setRow state endpoint link _
  · rfl

theorem closeInStreamLink (reason : InStreamCloseReason) (notify : Bool) :
    view (state.closeInStreamLink endpoint link reason notify) = view state := by
  unfold Application.closeInStreamLink
  dsimp only
  split
  · split
    · rw [streamless.transmit, streamless.setRow]
    · exact streamless.setRow state endpoint link _
  · rfl

theorem closeInStreamRows (rows : List catalog.streams.Row) (reason : InStreamCloseReason)
    (notify : Bool) : view (state.closeInStreamRows rows reason notify) = view state := by
  induction rows generalizing state with
  | nil => rfl
  | cons row rest ih =>
    exact (ih _).trans (streamless.closeInStreamLink state row.1 row.2 reason notify)

theorem installInStream (request : SubscriptionRequest) (opened : Bool) :
    view (state.installInStream link endpoint request opened).1 = view state := by
  unfold Application.installInStream
  dsimp only
  split
  · rw [streamless.closeInStreamLink]
    exact streamless.streams state _ _
  · exact streamless.streams state _ _

theorem openInStream (request : SubscriptionRequest) (opened : Bool) :
    view (state.openInStream link endpoint request opened).1 = view state := by
  unfold Application.openInStream
  dsimp only
  split
  · rfl
  split
  · split
    · rfl
    · exact streamless.installInStream state endpoint link request opened
  · rw [streamless.installInStream, streamless.closeInStreamRows]
  · rw [streamless.installInStream, streamless.closeInStreamLink]

theorem drain (consumed : Bool) (rounds : Nat) :
    view (Application.drain endpoint consumed rounds state) = view state := by
  induction rounds generalizing state with
  | zero => rfl
  | succ rounds ih =>
    rw [Application.drain]
    split
    · rfl
    · rename_i next drained
      obtain ⟨⟨link, index, slot, taken⟩, _, rfl⟩ := Option.map_eq_some_iff.mp drained
      rw [ih, streamless.returnInStreamCredit]
      exact streamless.streams state _ state.nextToken

theorem runPendingInStream (consumed : Bool) :
    view (state.runPendingInStream endpoint consumed) = view state :=
  streamless.drain state endpoint consumed _

end Streamless

end Application

end Solar.Remote
