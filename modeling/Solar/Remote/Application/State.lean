/-
This file models the shared state of the Remote application layer and the pieces
its frame handlers are made of: admission of request ids, execution of a request
on the service thread, the hand-over to a worker, cancellation, and the worker
and responder steps.

A request is handed to a worker in two sections of the service thread: the
request is stored in the handler's pending cell, then the execution system is
asked to run the worker, and a refusal takes the request back. Between the two
the worker may already run; `submission` says that the service stands there.

Three fields only remember the run: how often each link was reset, the request
ids the links admitted, and the requests whose handler was called.
-/

import Solar.Remote.Application.Catalog

namespace Solar.Remote

/-- A request on its way through a handler. The source keeps the decoded value; the model keeps
the payload it is decoded from, and remembers which session of the link admitted it. -/
structure Job (linkCount : Nat) where
  link : Fin linkCount
  envelope : Envelope
  payload : Bytes
  session : Nat
  deriving DecidableEq

/-- Where a worker stands in `run_pending_action` and its siblings. -/
inductive RequestWorker (linkCount : Nat)
  | idle
  | taken (job : Job linkCount)
  | running (job : Job linkCount)
  | answering (job : Job linkCount) (answer : Answer)

def RequestWorker.job? {linkCount : Nat} : RequestWorker linkCount → Option (Job linkCount)
  | .idle => none
  | .taken job => some job
  | .running job => some job
  | .answering job _ => some job

/-- What identifies a responder: `ResponderToken`. -/
structure ResponderToken (linkCount : Nat) where
  link : Fin linkCount
  request : UInt32
  epoch : UInt32
  deriving DecidableEq

def Job.token {linkCount : Nat} (job : Job linkCount) : ResponderToken linkCount :=
  ⟨job.link, job.envelope.requestId, job.envelope.sessionEpoch⟩

/-- A request of one session of a link. -/
structure Dispatch (linkCount : Nat) where
  link : Fin linkCount
  session : Nat
  request : UInt32

def Job.dispatch {linkCount : Nat} (job : Job linkCount) : Dispatch linkCount :=
  ⟨job.link, job.session, job.envelope.requestId⟩

/-- The execution system has been asked to run a worker and has not answered. -/
inductive Submission {Value : Type} (catalog : RemoteCatalog Value)
  | request (handler : catalog.Handler) (job : Job catalog.streams.linkCount)
  | sample (endpoint : catalog.Endpoint) (link : catalog.Link) (envelope : Envelope)
      (generation : UInt32)

/-- The shared state of the application layer. -/
structure Application {Value : Type} (catalog : RemoteCatalog Value) where
  links : catalog.Link → LinkState catalog.limits := fun _ => {}
  streams : Streams catalog.streams := {}
  nextToken : UInt32 := 1
  interested : Nat → UInt32 := fun _ => 0
  activeRequests : UInt32 := 0
  pending : catalog.Handler → Option (Job catalog.streams.linkCount) := fun _ => none
  asynchronous : catalog.Handler → Option (Job catalog.streams.linkCount) := fun _ => none
  worker : catalog.Handler → RequestWorker catalog.streams.linkCount := fun _ => .idle
  completion : Nat → Option (Job catalog.streams.linkCount × Answer) := fun _ => none
  submission : Option (Submission catalog) := none
  sessions : catalog.Link → Nat := fun _ => 0
  dispatched : List (Dispatch catalog.streams.linkCount) := []
  invoked : List (Dispatch catalog.streams.linkCount) := []

/-- What the environment decides while a frame is processed: the encoded result of an inline
handler, the results of an open callback and of an inline consumer, the time, and the answer to a
Ping or an Introspection frame. -/
structure FrameOutcomes where
  answer : Option Answer := none
  opened : Bool := true
  consumed : Bool := true
  now : Tick := 0
  reply : Option OutboundSlot := none

namespace Application

variable {Value : Type} {catalog : RemoteCatalog Value}

section

variable (state : Application catalog)

/-- Change the state of one link. -/
def onLink (link : catalog.Link) (change : LinkState catalog.limits → LinkState catalog.limits) :
    Application catalog :=
  { state with links := Function.update state.links link (change (state.links link)) }

section

variable (handler : catalog.Handler)

section

variable (job : Option (Job catalog.streams.linkCount))

def setPending : Application catalog :=
  { state with pending := Function.update state.pending handler job }

def setAsynchronous : Application catalog :=
  { state with asynchronous := Function.update state.asynchronous handler job }

end

def setWorker (phase : RequestWorker catalog.streams.linkCount) : Application catalog :=
  { state with worker := Function.update state.worker handler phase }

end

def setCompletion (thread : Nat) (completion : Option (Job catalog.streams.linkCount × Answer)) :
    Application catalog :=
  { state with completion := Function.update state.completion thread completion }

section

variable (link : catalog.Link)

def protocolError (request target : UInt32) (error : ErrorCode) : Application catalog :=
  state.onLink link (LinkState.protocolError · request target error)

def releaseResponse (request : UInt32) : Application catalog :=
  state.onLink link (LinkState.releaseResponse · request)

/-- Release the reservation and tell the peer why. -/
def reject (envelope : Envelope) (error : ErrorCode) : Application catalog :=
  (state.releaseResponse link envelope.requestId).protocolError link envelope.requestId
    envelope.target error

end

/-- `active_requests` goes down by one. -/
def retire : Application catalog :=
  { state with activeRequests := state.activeRequests - 1 }

section

variable (job : Job catalog.streams.linkCount)

/-- The handler of a request is called. -/
def invoke : Application catalog :=
  { state with invoked := state.invoked ++ [job.dispatch] }

/-- The session and epoch check of `execute_owned_action` and its siblings. -/
def isCurrent : Bool :=
  (state.links job.link).isCurrent job.envelope.sessionEpoch

/-- `respond` on the link of a request. -/
def respond (answer : Answer) : Application catalog :=
  state.onLink job.link fun link =>
    (link.respond job.envelope.requestId job.envelope.target answer).1

end

end

/-! ### Admission -/

/-- A new request id becomes the link's last one. -/
def enroll (state : Application catalog) (link : catalog.Link) (request : UInt32) :
    Application catalog :=
  { state.onLink link fun entry => { entry with lastRequestId := request } with
    dispatched := state.dispatched ++ [⟨link, state.sessions link, request⟩] }

/-- `admit_request_id`: the flag says whether the request is new. -/
def admitRequestId (state : Application catalog) (link : catalog.Link) (envelope : Envelope) :
    Application catalog × Bool :=
  let previous := (state.links link).lastRequestId
  if envelope.requestId = 0 then
    (state.protocolError link 0 envelope.target .decodeFailure, false)
  else if envelope.requestId = previous then
    let replayed := state.onLink link fun entry => (entry.replayResponse previous).1
    match ((state.links link).replayResponse previous).2 with
    | .replayed => (replayed, false)
    | .busy => (replayed.protocolError link previous envelope.target .busy, false)
    | .missing =>
        (replayed.protocolError link previous envelope.target .duplicateResponseExpired, false)
  else if envelope.requestId < previous then
    (state.protocolError link envelope.requestId envelope.target .requestExpired, false)
  else (state.enroll link envelope.requestId, true)

/-! ### Execution on the service thread -/

section

variable (state : Application catalog)

/-- `execute_owned_action`, `execute_query` and `execute_update` as the service thread runs them
for an inline handler. The flag says whether a responder keeps the request. -/
def executeInline (handler : catalog.Handler) (job : Job catalog.streams.linkCount)
    (answer : Option Answer) : Application catalog × Bool :=
  if state.isCurrent job = false then (state, false)
  else if handler.isAsynchronous then
    match state.asynchronous handler with
    | some _ =>
        (state.protocolError job.link job.envelope.requestId job.envelope.target .busy, false)
    | none => ((state.setAsynchronous handler (some job)).invoke job, true)
  else
    match answer with
    | none =>
        ((state.invoke job).protocolError job.link job.envelope.requestId job.envelope.target
          .internalFailure, false)
    | some answer => ((state.invoke job).respond job answer, false)

/-- The tail of `execute_action_request`, `execute_query_request` and `execute_update_request`:
a response is reserved, then the request is executed or stored for its worker. -/
def executeReserved (handler : catalog.Handler) (job : Job catalog.streams.linkCount)
    (answer : Option Answer) : Application catalog :=
  let envelope := job.envelope
  let reserved := state.onLink job.link fun link =>
    (link.reserveResponse envelope.requestId envelope.target).1
  if ((state.links job.link).reserveResponse envelope.requestId envelope.target).2 = false then
    reserved.protocolError job.link envelope.requestId envelope.target .noCapacity
  else if handler.isInline ∧ handler.isAsynchronous = false then
    (reserved.executeInline handler job answer).1
  else if state.activeRequests.toNat ≥ catalog.limits.maxRequests then
    reserved.reject job.link envelope .noCapacity
  else
    let counted := { reserved with activeRequests := reserved.activeRequests + 1 }
    if handler.isInline then
      let executed := counted.executeInline handler job answer
      if executed.2 then executed.1 else executed.1.retire
    else
      match state.pending handler with
      | some _ => counted.retire.reject job.link envelope .busy
      | none =>
          { counted.setPending handler (some job) with
            submission := some (.request handler job) }

section

variable (link : catalog.Link)

def executeActionRequest (index : catalog.ActionIndex) (frame : Decoded) (answer : Option Answer) :
    Application catalog :=
  let envelope := frame.envelope
  if (state.links link).granted (catalog.action index).access = false then
    state.protocolError link envelope.requestId envelope.target .unauthorized
  else if (catalog.action index).decodes frame.payload = false then
    state.protocolError link envelope.requestId envelope.target .decodeFailure
  else
    state.executeReserved (.action index) ⟨link, envelope, frame.payload, state.sessions link⟩
      answer

def executeQueryRequest (index : catalog.DataIndex) (frame : Decoded) (answer : Option Answer) :
    Application catalog :=
  let envelope := frame.envelope
  if (state.links link).granted Permissions.observe = false then
    state.protocolError link envelope.requestId envelope.target .unauthorized
  else if (catalog.datum index).query = false then
    state.protocolError link envelope.requestId envelope.target .unsupportedOperation
  else
    state.executeReserved (.query index) ⟨link, envelope, frame.payload, state.sessions link⟩ answer

def executeUpdateRequest (index : catalog.DataIndex) (frame : Decoded) (answer : Option Answer) :
    Application catalog :=
  let envelope := frame.envelope
  if (state.links link).granted Permissions.configure = false then
    state.protocolError link envelope.requestId envelope.target .unauthorized
  else if (catalog.datum index).update = false then
    state.protocolError link envelope.requestId envelope.target .unsupportedOperation
  else if (catalog.datum index).decodes frame.payload = false then
    state.protocolError link envelope.requestId envelope.target .decodeFailure
  else
    state.executeReserved (.update index) ⟨link, envelope, frame.payload, state.sessions link⟩
      answer

end

end

/-! ### Cancellation -/

/-- A cell holds a request of a link. -/
def holdsLink (link : catalog.Link) (job : Option (Job catalog.streams.linkCount)) : Bool :=
  job.any fun held => held.link = link

/-- A cell holds one request of a link. -/
def holdsRequest (link : catalog.Link) (request : UInt32)
    (job : Option (Job catalog.streams.linkCount)) : Bool :=
  job.any fun held => held.link = link && held.envelope.requestId = request

section

variable (state : Application catalog)

section

variable (link : catalog.Link)

/-- The handler holds one request of a link, waiting or with its responder. -/
def handlerHolds (request : UInt32) (handler : catalog.Handler) : Bool :=
  holdsRequest link request (state.pending handler) ||
    handler.isAsynchronous && holdsRequest link request (state.asynchronous handler)

/-- `cancel_pending_request`: the first handler that holds the request lets go of it. -/
def cancelPendingRequest (request : UInt32) : Application catalog × Bool :=
  match catalog.handlers.find? (state.handlerHolds link request) with
  | none => (state, false)
  | some handler =>
      if holdsRequest link request (state.pending handler) then
        ((state.setPending handler none).retire, true)
      else ((state.setAsynchronous handler none).retire, true)

/-- The number of requests of a link that a reset takes out of the cells. -/
def heldByLink : Nat :=
  catalog.handlers.countP (fun handler => holdsLink link (state.pending handler)) +
    catalog.handlers.countP (fun handler => holdsLink link (state.asynchronous handler))

/-- `cancel_session_requests`. -/
def cancelSessionRequests : Application catalog :=
  { state with
    pending := fun handler =>
      if holdsLink link (state.pending handler) then none else state.pending handler
    asynchronous := fun handler =>
      if holdsLink link (state.asynchronous handler) then none else state.asynchronous handler
    activeRequests := state.activeRequests - UInt32.ofNat (state.heldByLink link) }

end

end

/-! ### Workers and responders -/

section

variable (state : Application catalog) (handler : catalog.Handler)

/-- `run_pending_action` and its siblings, first section: the pending request is taken. -/
def takeRequest : Option (Application catalog) :=
  match state.worker handler, state.pending handler with
  | .idle, some job => some ((state.setPending handler none).setWorker handler (.taken job))
  | _, _ => none

/-- The worker gives up its request. -/
def dropRequest : Application catalog :=
  (state.setWorker handler .idle).retire

/-- The session check and the call of the handler. An asynchronous handler is left to its
responder. -/
def beginRequest : Option (Application catalog) :=
  match state.worker handler with
  | .taken job =>
      if state.isCurrent job = false then some (state.dropRequest handler)
      else if handler.isAsynchronous then
        match state.asynchronous handler with
        | some _ =>
            some ((state.protocolError job.link job.envelope.requestId job.envelope.target
              .busy).dropRequest handler)
        | none =>
            some (((state.setAsynchronous handler (some job)).setWorker handler .idle).invoke job)
      else some ((state.setWorker handler (.running job)).invoke job)
  | _ => none

/-- The handler has returned: the session is checked again and the result is encoded. -/
def finishRequest (answer : Option Answer) : Option (Application catalog) :=
  match state.worker handler with
  | .running job =>
      if state.isCurrent job = false then some (state.dropRequest handler)
      else
        match answer with
        | none =>
            some ((state.protocolError job.link job.envelope.requestId job.envelope.target
              .internalFailure).dropRequest handler)
        | some answer => some (state.setWorker handler (.answering job answer))
  | _ => none

/-- The worker's call of `respond`. -/
def answerRequest : Option (Application catalog) :=
  match state.worker handler with
  | .answering job answer => some ((state.respond job answer).dropRequest handler)
  | _ => none

/-- `claim_asynchronous_action`. -/
def claim? (token : ResponderToken catalog.streams.linkCount) :
    Option (Job catalog.streams.linkCount) :=
  if handler.isAsynchronous then
    (state.asynchronous handler).filter fun job => job.token = token
  else none

end

theorem asynchronous_of_claim? {state : Application catalog} {handler : catalog.Handler}
    {token : ResponderToken catalog.streams.linkCount}
    {job : Job catalog.streams.linkCount} (claimed : state.claim? handler token = some job) :
    state.asynchronous handler = some job := by
  unfold claim? at claimed
  split at claimed
  · exact (Option.filter_eq_some_iff.mp claimed).1
  · exact nomatch claimed

section

variable (state : Application catalog)

/-- `complete_asynchronous_action` up to its call of `respond`: the request is claimed, the
session is checked and the result is encoded. -/
def completeRequest (thread : Nat) (handler : catalog.Handler)
    (token : ResponderToken catalog.streams.linkCount) (answer : Option Answer) :
    Option (Application catalog) :=
  match state.completion thread with
  | some _ => none
  | none =>
      match state.claim? handler token with
      | none => some state
      | some job =>
          let claimed := state.setAsynchronous handler none
          if state.isCurrent job = false then some claimed.retire
          else
            match answer with
            | none =>
                some (claimed.protocolError job.link job.envelope.requestId job.envelope.target
                  .internalFailure).retire
            | some answer => some (claimed.setCompletion thread (some (job, answer)))

/-- The responder's call of `respond`. -/
def answerCompletion (thread : Nat) : Option (Application catalog) :=
  match state.completion thread with
  | some (job, answer) => some ((state.respond job answer).setCompletion thread none).retire
  | none => none

/-- `abandon_asynchronous_action`: a responder is destroyed without an answer. -/
def abandonRequest (handler : catalog.Handler) (token : ResponderToken catalog.streams.linkCount) :
    Application catalog :=
  match state.claim? handler token with
  | none => state
  | some job =>
      ((state.setAsynchronous handler none).protocolError job.link job.envelope.requestId
        job.envelope.target .internalFailure).retire

end

end Application

end Solar.Remote
