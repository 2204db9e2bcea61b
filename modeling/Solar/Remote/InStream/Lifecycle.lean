/-
This file models how the lifecycle callbacks of the inbound streams are run. The service
invokes the callback of an inline endpoint itself. That of any other endpoint it leaves in
the endpoint's mailbox and submits the endpoint's work item; then it waits for a semaphore
that the worker gives after the callback. The worker looks into the mailbox before and
after it goes through the waiting samples.

The service handles one frame or event at a time, as a list of calls. The sections of a
hand-over, the stages of the worker and the callbacks are steps of their own. What the
samples do to the rows is left out; that they wake the worker is not.
-/

import Solar.Library.Transition
import Solar.Remote.InStream.Catalog

namespace Solar.Remote

/-- The inbound streams of a system, and which of them declare an OnClose callback. -/
structure LifecycleCatalog (Value : Type) extends InStreamCatalog Value where
  hasOnClose : toInStreamCatalog.Endpoint → Bool

variable {Value : Type} (catalog : LifecycleCatalog Value)

structure InStreamOpenContext where
  endpoint : catalog.Endpoint
  link : catalog.Link
  token : UInt32
  minimumIntervalUs : UInt32
  window : UInt16

structure InStreamCloseContext where
  endpoint : catalog.Endpoint
  link : catalog.Link
  token : UInt32
  reason : InStreamCloseReason

/-- A lifecycle operation other than None, with its context. -/
inductive LifecycleCallback
  | opened (context : InStreamOpenContext catalog)
  | closed (context : InStreamCloseContext catalog)

namespace LifecycleCallback

variable {catalog}

def endpoint : LifecycleCallback catalog → catalog.Endpoint
  | .opened context => context.endpoint
  | .closed context => context.endpoint

def link : LifecycleCallback catalog → catalog.Link
  | .opened context => context.link
  | .closed context => context.link

def row (callback : LifecycleCallback catalog) : catalog.Row := (callback.endpoint, callback.link)

def isOpened : LifecycleCallback catalog → Bool
  | .opened _ => true
  | .closed _ => false

end LifecycleCallback

/-- What happens on a row: a stream gets its token, or a callback is invoked. -/
inductive LifecycleMoment
  | started (token : UInt32)
  | invoked (callback : LifecycleCallback catalog)

/-- Where the worker of an endpoint is. `last` tells whether it is about to finish after this. -/
inductive LifecycleWorker
  | idle
  | looking (last : Bool)
  | invoking (callback : LifecycleCallback catalog) (last : Bool)
  | storing (result last : Bool)
  | giving (last : Bool)
  | draining

/-- The lifecycle fields of an `InStreamState`, and the work item of the endpoint. `operation` has
its context with it. -/
structure LifecycleMailbox where
  operation : Option (LifecycleCallback catalog) := none
  result : Bool := false
  done : Bool := false
  queued : Bool := false
  worker : LifecycleWorker catalog := .idle

section

variable {catalog}

/-- The worker holds a callback that it has not done yet. -/
def LifecycleWorker.holds : LifecycleWorker catalog → Bool
  | .invoking _ _ | .storing _ _ | .giving _ => true
  | _ => false

/-- Where the worker goes after `run_in_stream_lifecycle`. -/
def LifecycleWorker.after (last : Bool) : LifecycleWorker catalog :=
  if last then .idle else .draining

/-- The next stage of `process_in_stream_work`, and the callback that it invokes. -/
def LifecycleMailbox.work (mailbox : LifecycleMailbox catalog) (answer : Bool) :
    Option (LifecycleMailbox catalog × Option (LifecycleCallback catalog)) :=
  match mailbox.worker with
  | .idle =>
      if mailbox.queued then some ({ mailbox with queued := false, worker := .looking false }, none)
      else none
  | .looking last =>
      match mailbox.operation with
      | none => some ({ mailbox with worker := .after last }, none)
      | some callback =>
          some ({ mailbox with operation := none, worker := .invoking callback last }, none)
  | .invoking callback last =>
      some ({ mailbox with worker := .storing (answer || !callback.isOpened) last }, some callback)
  | .storing result last => some ({ mailbox with result, worker := .giving last }, none)
  | .giving last => some ({ mailbox with done := true, worker := .after last }, none)
  | .draining => some ({ mailbox with worker := .looking true }, none)

end

/-- The point of a hand-over that comes next. -/
inductive HandOver
  | invoke | reset | fill | submit | wait

inductive LifecyclePhase
  | ready
  | handing (stage : HandOver) (callback : LifecycleCallback catalog)

/-- What is left of the frame or event. -/
inductive LifecycleCall
  | close (row : catalog.Row) (reason : InStreamCloseReason)
  | start (row : catalog.Row) (minimumIntervalUs : UInt32)
  | respond (row : catalog.Row)

/-- `history` remembers what happened on each row. -/
structure LifecycleState where
  streams : Streams catalog.toInStreamCatalog := {}
  nextToken : UInt32 := 1
  mailbox : catalog.Endpoint → LifecycleMailbox catalog := fun _ => {}
  service : LifecyclePhase catalog := .ready
  pending : List (LifecycleCall catalog) := []
  history : catalog.Row → List (LifecycleMoment catalog) := fun _ => []

/-- A frame or event comes, or somebody goes on. The answer is that of the callback, the submission
or the response of the step. -/
inductive LifecycleLabel
  | subscribe (link : catalog.Link) (endpoint : catalog.Endpoint) (request : SubscriptionRequest)
  | unsubscribe (link : catalog.Link) (endpoint : catalog.Endpoint) (token : UInt32)
  | reset (link : catalog.Link) (reason : InStreamCloseReason)
  | stop
  | sample (endpoint : catalog.Endpoint)
  | serve (answer : Bool)
  | work (endpoint : catalog.Endpoint) (answer : Bool)

namespace LifecycleState

variable {catalog} (state : LifecycleState catalog)

/-- The token of the stream that a row has. -/
def stream (row : catalog.Row) : Option UInt32 :=
  let link := state.streams.rows row.1 row.2
  if link.active then some link.token else none

def setMailbox (endpoint : catalog.Endpoint) (mailbox : LifecycleMailbox catalog) :
    LifecycleState catalog :=
  { state with mailbox := Function.update state.mailbox endpoint mailbox }

def record (row : catalog.Row) (moment : LifecycleMoment catalog) : LifecycleState catalog :=
  { state with history := Function.update state.history row (state.history row ++ [moment]) }

section

variable (callback : LifecycleCallback catalog)

/-- The callback of the operation is invoked. -/
def invoke : LifecycleState catalog :=
  state.record callback.row (.invoked callback)

/-- `next_in_stream_token`. -/
def issuedToken : UInt32 := if state.nextToken = 0 then 1 else state.nextToken

/-! ### The service -/

/-- The end of `execute_in_stream_open_lifecycle` or `execute_in_stream_close_lifecycle`. -/
def finish (result : Bool) : LifecycleState catalog :=
  { state with
    service := .ready
    pending :=
      match callback with
      | .opened _ =>
          if result then .respond callback.row :: state.pending
          else .close callback.row .configurationFailed :: state.pending
      | .closed _ => state.pending }

/-- The beginning of either. Without a callback there is nothing to do. -/
def enter : LifecycleState catalog :=
  let declared := match callback with
    | .opened _ => (catalog.traits callback.endpoint).hasOnOpen
    | .closed _ => catalog.hasOnClose callback.endpoint
  if declared then
    let stage := if (catalog.traits callback.endpoint).inline then .invoke else .reset
    { state with service := .handing stage callback }
  else state.finish callback true

end

/-- `close_in_stream_link`, up to the lifecycle. -/
def close (row : catalog.Row) (reason : InStreamCloseReason) : LifecycleState catalog :=
  let link := state.streams.rows row.1 row.2
  if link.active then
    { state with streams := state.streams.setRow row.1 row.2 link.close }.enter
      (.closed { endpoint := row.1, link := row.2, token := link.token, reason })
  else state

/-- `open_in_stream` after it has closed what the stream replaces, up to the lifecycle. -/
def start (row : catalog.Row) (minimumIntervalUs : UInt32) : LifecycleState catalog :=
  let link := (state.streams.rows row.1 row.2).install state.issuedToken minimumIntervalUs
  ({ state with
    streams := state.streams.setRow row.1 row.2 link
    nextToken := state.issuedToken + 1 }.record row (.started state.issuedToken)).enter (.opened
        { endpoint := row.1
          link := row.2
          token := state.issuedToken
          minimumIntervalUs
          window := UInt16.ofNat (catalog.window row.1) })

/-- The next call. The stream of a response that finds no room is closed again. -/
def call (answer : Bool) : LifecycleCall catalog → LifecycleState catalog
  | .close row reason => state.close row reason
  | .start row minimumIntervalUs => state.start row minimumIntervalUs
  | .respond row =>
      if answer then state else { state with pending := .close row .fault :: state.pending }

/-- The next point of a hand-over. -/
def handOver (answer : Bool) (callback : LifecycleCallback catalog) :
    HandOver → Option (LifecycleState catalog)
  | .invoke => some ((state.invoke callback).finish callback answer)
  | .reset =>
      some { state.setMailbox callback.endpoint
          { state.mailbox callback.endpoint with done := false } with
        service := .handing .fill callback }
  | .fill =>
      if (state.mailbox callback.endpoint).operation = none then
        some { state.setMailbox callback.endpoint
            { state.mailbox callback.endpoint with operation := some callback } with
          service := .handing .submit callback }
      else some (state.finish callback false)
  | .submit =>
      if answer then
        some { state.setMailbox callback.endpoint
            { state.mailbox callback.endpoint with queued := true } with
          service := .handing .wait callback }
      else
        some ((state.setMailbox callback.endpoint
          { state.mailbox callback.endpoint with operation := none }).finish callback false)
  | .wait =>
      if (state.mailbox callback.endpoint).done then
        some ((state.setMailbox callback.endpoint
          { state.mailbox callback.endpoint with done := false }).finish callback
            (state.mailbox callback.endpoint).result)
      else none

def serve (answer : Bool) : Option (LifecycleState catalog) :=
  match state.service, state.pending with
  | .handing stage callback, _ => state.handOver answer callback stage
  | .ready, call :: rest => some ({ state with pending := rest }.call answer call)
  | .ready, [] => none

/-- The worker of an endpoint goes on, and maybe invokes a callback. -/
def work (endpoint : catalog.Endpoint) (answer : Bool) : Option (LifecycleState catalog) :=
  ((state.mailbox endpoint).work answer).map fun (mailbox, callback) =>
    let went := state.setMailbox endpoint mailbox
    match callback with
    | some callback => went.invoke callback
    | none => went

/-! ### Frames and events -/

/-- Every stream of a list of rows is closed. -/
def closing (rows : List catalog.Row) (reason : InStreamCloseReason) :
    List (LifecycleCall catalog) :=
  rows.map fun row => .close row reason

/-- `open_in_stream`: the calls that a request means. -/
def opening (link : catalog.Link) (endpoint : catalog.Endpoint) (request : SubscriptionRequest) :
    List (LifecycleCall catalog) :=
  let traits := catalog.traits endpoint
  let start : LifecycleCall catalog :=
    .start (endpoint, link) (max request.minimumIntervalUs traits.minimumIntervalUs)
  if request.flags ≠ 0 ∨ request.batchSize > 1 ∨
      (request.codec ≠ 0 ∧ request.codec ≠ traits.codec.code) then []
  else
    match traits.exclusive with
    | none => closing [(endpoint, link)] .replaced ++ [start]
    | some (name, .rejectExisting) => if state.streams.groupIsActive name then [] else [start]
    | some (name, .replaceExisting) => closing (catalog.groupRows name) .replaced ++ [start]

/-- Every row of the system, in the order `reset_sessions` visits them. -/
def allRows : List catalog.Row :=
  (List.finRange catalog.linkCount).flatMap catalog.linkRows

/-- The calls that a frame or an event means. -/
def calls : LifecycleLabel catalog → List (LifecycleCall catalog)
  | .subscribe link endpoint request => state.opening link endpoint request
  | .unsubscribe link endpoint token =>
      if state.stream (endpoint, link) = some token then closing [(endpoint, link)] .closed else []
  | .reset link reason => closing (catalog.linkRows link) reason
  | .stop => closing allRows .reset
  | _ => []

/-- The service is between two frames or events. -/
def isIdle : Bool :=
  match state.service, state.pending with
  | .ready, [] => true
  | _, _ => false

/-- One step. A sample submits the work item of its endpoint. -/
def step : LifecycleLabel catalog → Option (LifecycleState catalog)
  | .serve answer => state.serve answer
  | .work endpoint answer => state.work endpoint answer
  | label =>
      if state.isIdle then
        match label with
        | .sample endpoint =>
            if (catalog.traits endpoint).inline then some state
            else some (state.setMailbox endpoint { state.mailbox endpoint with queued := true })
        | _ => some { state with pending := state.calls label }
      else none

/-- The last thing that happened on the row is its OnOpen callback. -/
def isOpened (row : catalog.Row) : Bool :=
  match (state.history row).getLast? with
  | some (.invoked callback) => callback.isOpened
  | _ => false

/-- The condition of a step: if a submission is refused, the worker is not in the middle of the
callback, and unless it has done it, no OnClose is owed. -/
def spares : LifecycleLabel catalog → Bool
  | .serve false =>
      match state.service with
      | .handing .submit callback =>
          let mailbox := state.mailbox callback.endpoint
          !mailbox.worker.holds &&
            (mailbox.operation.isNone || callback.isOpened || !state.isOpened callback.row)
      | _ => true
  | _ => true

end LifecycleState

def lifecycleMachine : Transition.Machine (LifecycleState catalog) (LifecycleLabel catalog) :=
  ⟨LifecycleState.step⟩

end Solar.Remote
