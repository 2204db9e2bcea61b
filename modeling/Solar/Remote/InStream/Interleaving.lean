/-
This file models how the service thread and the consumer workers interleave on
the inbound streams. Every lock-protected section of the source is one step, and
so is every read of a shared word outside a lock; whatever a thread computes
between two such points is part of the step before. What a thread does next is
its phase.

The service thread handles one frame or link event at a time; a frame starts
when the service is idle. A worker runs `run_pending_in_stream` for one
endpoint. An endpoint with inline execution has no worker of its own: the
service runs the same loop in its place, while its phase is `draining`.

Outcomes the streams do not determine are inputs of a step: a lifecycle
callback, a response, a submission, a consumer's result, room in the output
lane. Five fields only remember the run and are read by no step: the frames
handed to the output lanes, the Credit frames a full lane refused, the admitted
samples, the streams whose samples were turned away for their rate, and the
delivered values.
-/

import Solar.Library.Transition
import Solar.Remote.InStream.Catalog

namespace Solar.Remote

variable {Value : Type} {catalog : InStreamCatalog Value}

/-- A Credit frame, with what the run remembers of it: the token its credit was accounted
under, and whether it re-advertises a credit that a rate rejection left with the firmware. -/
structure CreditFrame (linkCount : Nat) where
  link : Fin linkCount
  grant : CreditGrant
  correlation : UInt32 := 0
  accountedFor : UInt32
  restored : Bool := false
  deriving DecidableEq

/-- A stream frame handed to the output lanes. -/
inductive StreamFrame (catalog : InStreamCatalog Value)
  | credit (endpoint : catalog.Endpoint) (frame : CreditFrame catalog.linkCount)
  | closed (endpoint : catalog.Endpoint) (link : catalog.Link) (notice : InStreamClosed)
  deriving DecidableEq

/-- A sample that was given a slot; `withdrawn` when a failed submission emptied it again. -/
structure Admission (catalog : InStreamCatalog Value) where
  endpoint : catalog.Endpoint
  link : catalog.Link
  token : UInt32
  sequence : UInt32
  value : Value
  withdrawn : Bool := false

/-- The admissions after a failed submission has taken one back. -/
def withdrawFrom
    (admissions : List (Admission catalog)) (endpoint : catalog.Endpoint) (link : catalog.Link)
    (envelope : Envelope) : List (Admission catalog) :=
  admissions.map fun admission =>
    if admission.endpoint = endpoint ∧ admission.link = link ∧
        admission.token = envelope.requestId ∧ admission.sequence = envelope.frameSequence then
      { admission with withdrawn := true }
    else admission

/-- A value passed to the consumer. -/
structure Delivery (catalog : InStreamCatalog Value) where
  endpoint : catalog.Endpoint
  link : catalog.Link
  token : UInt32
  value : Value

/-- The tail of a thread's work that hands credit to the peer: `return_in_stream_credit` with
its session check and its section, `restore_in_stream_credit`, and `send_in_stream_credit` with
its section and its transmission. -/
inductive CreditPhase (linkCount : Nat)
  | checking (link : Fin linkCount) (token generation : UInt32)
  | returning (link : Fin linkCount) (token generation : UInt32)
  | restoring (link : Fin linkCount) (token generation : UInt32)
  | sending (link : Fin linkCount) (credits : UInt16) (correlation accountedFor : UInt32)
  | transmitting (frame : CreditFrame linkCount)

/-- Where a consumer worker stands in `run_pending_in_stream`. -/
inductive WorkerPhase (Value : Type) (linkCount : Nat)
  | idle
  | scanning
  | holding (link : Fin linkCount) (index : Nat) (token generation : UInt32)
      (value : Option Value)
  | finishing (link : Fin linkCount) (index : Nat) (token generation : UInt32) (current : Bool)
  | crediting (phase : CreditPhase linkCount)

/-- The slot of the sample a worker is busy with, and the stream it was admitted under. -/
def WorkerPhase.sample {linkCount : Nat} :
    WorkerPhase Value linkCount → Option (Fin linkCount × Nat × UInt32 × UInt32)
  | .holding link index token generation _ => some (link, index, token, generation)
  | .finishing link index token generation _ => some (link, index, token, generation)
  | _ => none

def WorkerPhase.isIdle {linkCount : Nat} : WorkerPhase Value linkCount → Bool
  | .idle => true
  | _ => false

/-- What the service does when its list of rows to close is empty. -/
inductive AfterClose (catalog : InStreamCatalog Value)
  | install (endpoint : catalog.Endpoint) (link : catalog.Link) (minimumIntervalUs : UInt32)
      (correlation : UInt32)
  | deactivate (link : catalog.Link)
  | finish

/-- Where the service thread stands. -/
inductive ServicePhase (catalog : InStreamCatalog Value)
  | idle
  | closing (rows : List catalog.Row) (reason : InStreamCloseReason) (notify : Bool)
      (next : AfterClose catalog)
  | configuring (endpoint : catalog.Endpoint) (link : catalog.Link) (correlation : UInt32)
  | responding (endpoint : catalog.Endpoint) (link : catalog.Link) (correlation : UInt32)
  | granting (endpoint : catalog.Endpoint) (link : catalog.Link) (correlation : UInt32)
  | abandoning (endpoint : catalog.Endpoint) (link : catalog.Link) (reason : InStreamCloseReason)
  | submitting (endpoint : catalog.Endpoint) (link : catalog.Link) (envelope : Envelope)
      (generation : UInt32)
  | draining (endpoint : catalog.Endpoint)
  | crediting (endpoint : catalog.Endpoint) (phase : CreditPhase catalog.linkCount)

/-- The row whose newly installed stream the service has not granted its credit. -/
def ServicePhase.opening :
    ServicePhase catalog → Option catalog.Row
  | .configuring endpoint link _ => some (endpoint, link)
  | .responding endpoint link _ => some (endpoint, link)
  | .granting endpoint link _ => some (endpoint, link)
  | .abandoning endpoint link _ => some (endpoint, link)
  | _ => none

/-- The service is between two frames, or closes streams. -/
def ServicePhase.isQuiet :
    ServicePhase catalog → Bool
  | .idle => true
  | .closing _ _ _ _ => true
  | _ => false

/-- Why every stream of a link is closed. -/
inductive ResetCause
  | connected | disconnected | fault | sessionReset | stop
  deriving DecidableEq

def ResetCause.reason : ResetCause → InStreamCloseReason
  | .connected => .disconnect
  | .disconnected => .disconnect
  | .fault => .fault
  | .sessionReset => .reset
  | .stop => .reset

/-- Every cause but `stop` also takes the session out of `Active`. -/
def ResetCause.after (cause : ResetCause)
    (link : catalog.Link) : AfterClose catalog :=
  if cause = .stop then .finish else .deactivate link

/-- The shared state of all threads, their phases, and the run's memory. -/
structure InStreamRuntime (catalog : InStreamCatalog Value) where
  streams : Streams catalog := {}
  nextToken : UInt32 := 1
  sessionActive : catalog.Link → Bool := fun _ => false
  service : ServicePhase catalog := .idle
  worker : catalog.Endpoint → WorkerPhase Value catalog.linkCount := fun _ => .idle
  sent : List (StreamFrame catalog) := []
  dropped : List (StreamFrame catalog) := []
  admissions : List (Admission catalog) := []
  rateRejections : List (catalog.Row × UInt32) := []
  deliveries : List (Delivery catalog) := []

/-- What happens next: a frame or an event the service takes up, or a thread that goes on. The
flag of a thread's step is the outcome the environment gives it. -/
inductive InStreamLabel (catalog : InStreamCatalog Value)
  | subscribe (link : catalog.Link) (endpoint : catalog.Endpoint) (request : SubscriptionRequest)
      (correlation : UInt32)
  | unsubscribe (link : catalog.Link) (endpoint : catalog.Endpoint) (token : UInt32)
  | data (link : catalog.Link) (endpoint : catalog.Endpoint) (frame : Decoded) (now : Tick)
  | clientHello (link : catalog.Link)
  | reset (link : catalog.Link) (cause : ResetCause)
  | service (succeeds : Bool)
  | wake (endpoint : catalog.Endpoint)
  | worker (endpoint : catalog.Endpoint) (succeeds : Bool)

namespace InStreamRuntime

section

variable (state : InStreamRuntime catalog)

section

variable (endpoint : catalog.Endpoint)

/-- The state of one endpoint on one link. -/
def row (link : catalog.Link) : InStreamLink Value (catalog.window endpoint) :=
  state.streams.rows endpoint link

def setRow (link : catalog.Link) (replacement : InStreamLink Value (catalog.window endpoint)) :
    InStreamRuntime catalog :=
  { state with streams := state.streams.setRow endpoint link replacement }

def count (change : InStreamCounters → InStreamCounters) : InStreamRuntime catalog :=
  { state with streams := state.streams.count endpoint change }

def setWorker (phase : WorkerPhase Value catalog.linkCount) : InStreamRuntime catalog :=
  { state with worker := Function.update state.worker endpoint phase }

end

/-- The token `next_in_stream_token` returns: zero is skipped. -/
def issuedToken : UInt32 :=
  if state.nextToken = 0 then 1 else state.nextToken

end

/-! ### Credit -/

/-- One step of a credit phase; no phase is left when the call returns. -/
def creditStep (state : InStreamRuntime catalog) (endpoint : catalog.Endpoint) (succeeds : Bool) :
    CreditPhase catalog.linkCount → InStreamRuntime catalog × Option (CreditPhase catalog.linkCount)
  | .checking link token generation =>
      (state, if state.sessionActive link then some (.returning link token generation) else none)
  | .returning link token generation =>
      let account := (state.row endpoint link).returnCredit token generation
      (state.setRow endpoint link account.1,
        if account.2 then some (.sending link 1 0 token) else none)
  | .restoring link token generation =>
      (state,
        if (state.row endpoint link).matchesSample token generation then
          some (.transmitting {
            link
            grant := { token, credits := 1, window := UInt16.ofNat (catalog.window endpoint) }
            accountedFor := token
            restored := true })
        else none)
  | .sending link credits correlation accountedFor =>
      (state,
        if credits ≠ 0 ∧ (state.row endpoint link).active then
          some (.transmitting {
            link
            grant := {
              token := (state.row endpoint link).token
              credits
              window := UInt16.ofNat (catalog.window endpoint) }
            correlation
            accountedFor })
        else none)
  | .transmitting frame =>
      (if succeeds then { state with sent := state.sent ++ [.credit endpoint frame] }
        else { state with dropped := state.dropped ++ [.credit endpoint frame] }, none)

/-- The service after a credit phase has moved. -/
def afterCredit (endpoint : catalog.Endpoint) :
    Option (CreditPhase catalog.linkCount) → ServicePhase catalog
  | some phase => .crediting endpoint phase
  | none => .idle

/-- The worker after a credit phase has moved: it looks for the next sample. -/
def afterWorkerCredit :
    Option (CreditPhase catalog.linkCount) → WorkerPhase Value catalog.linkCount
  | some phase => .crediting phase
  | none => .scanning

/-! ### The worker -/

/-- `run_pending_in_stream`, one step. -/
def workerStep (state : InStreamRuntime catalog) (endpoint : catalog.Endpoint) (succeeds : Bool) :
    Option (InStreamRuntime catalog) :=
  match state.worker endpoint with
  | .idle => none
  | .scanning =>
      match state.streams.take? endpoint with
      | none => some (state.setWorker endpoint .idle)
      | some (link, index, slot, taken) =>
          some ((state.setRow endpoint link taken).setWorker endpoint
            (.holding link index slot.token slot.generation slot.value))
  | .holding link index token generation value =>
      let current := (state.row endpoint link).isCurrent index token generation
      let delivered := if current then value.toList else []
      some ({ state with
          deliveries := state.deliveries ++ delivered.map (Delivery.mk endpoint link token)
        }.setWorker endpoint (.finishing link index token generation current))
  | .finishing link index token generation current =>
      let emptied := state.setRow endpoint link ((state.row endpoint link).release index)
      let counted := emptied.count endpoint fun counters =>
        if current then
          { counters with
            completed := counters.completed + 1
            consumerFailures :=
              if succeeds then counters.consumerFailures else counters.consumerFailures + 1 }
        else { counters with rejected := counters.rejected + 1 }
      some (counted.setWorker endpoint (.crediting (.checking link token generation)))
  | .crediting phase =>
      let credited := state.creditStep endpoint succeeds phase
      some (credited.1.setWorker endpoint (afterWorkerCredit credited.2))

/-! ### The service -/

section

variable (state : InStreamRuntime catalog)

/-- The section of `open_in_stream` after the old streams are closed. -/
def installStep (endpoint : catalog.Endpoint) (link : catalog.Link)
    (minimumIntervalUs correlation : UInt32) : InStreamRuntime catalog :=
  { state.setRow endpoint link
      ((state.row endpoint link).install state.issuedToken minimumIntervalUs) with
    nextToken := state.issuedToken + 1
    service := .configuring endpoint link correlation }

/-- `close_in_stream_link` on one row. The lane may be full when the peer is told. -/
def closeRow (endpoint : catalog.Endpoint) (link : catalog.Link) (reason : InStreamCloseReason)
    (notified : Bool) : InStreamRuntime catalog :=
  if (state.row endpoint link).active then
    { state.setRow endpoint link (state.row endpoint link).close with
      sent := if notified then
          state.sent ++ [.closed endpoint link
            { token := (state.row endpoint link).token, reason }]
        else state.sent }
  else state

/-- The service goes on with the frame or event it works on. -/
def serviceStep (succeeds : Bool) : Option (InStreamRuntime catalog) :=
  match state.service with
  | .idle => none
  | .closing ((endpoint, link) :: rows) reason notify next =>
      some { state.closeRow endpoint link reason (notify && succeeds) with
        service := .closing rows reason notify next }
  | .closing [] _ _ (.install endpoint link minimumIntervalUs correlation) =>
      some (state.installStep endpoint link minimumIntervalUs correlation)
  | .closing [] _ _ (.deactivate link) =>
      some { state with
        sessionActive := Function.update state.sessionActive link false
        service := .idle }
  | .closing [] _ _ .finish => some { state with service := .idle }
  | .configuring endpoint link correlation =>
      if succeeds then some { state with service := .responding endpoint link correlation }
      else if (catalog.traits endpoint).hasOnOpen then
        some { state with service := .abandoning endpoint link .configurationFailed }
      else none
  | .responding endpoint link correlation =>
      if succeeds then some { state with service := .granting endpoint link correlation }
      else some { state with service := .abandoning endpoint link .fault }
  | .abandoning endpoint link reason =>
      some { state.closeRow endpoint link reason succeeds with service := .idle }
  | .granting endpoint link correlation =>
      some { state with
        service := .crediting endpoint (.sending link (state.row endpoint link).credits correlation
            (state.row endpoint link).token) }
  | .submitting endpoint link envelope generation =>
      if succeeds then some { state with service := .idle }
      else
        some { state.setRow endpoint link
            ((state.row endpoint link).withdraw envelope.frameSequence) with
          admissions :=
            if ((state.row endpoint link).submitted? envelope.frameSequence).isSome then
              withdrawFrom state.admissions endpoint link envelope
            else state.admissions
          service := .crediting endpoint (.checking link envelope.requestId generation) }
  | .draining endpoint =>
      match state.worker endpoint with
      | .idle => some { state with service := .idle }
      | _ => none
  | .crediting endpoint phase =>
      let credited := state.creditStep endpoint succeeds phase
      some { credited.1 with service := afterCredit endpoint credited.2 }

/-- `process_in_stream_subscription_for` with `enable`, up to the first section: the request is
checked against the endpoint's traits and the streams it replaces are listed. -/
def subscribeStep (link : catalog.Link) (endpoint : catalog.Endpoint)
    (request : SubscriptionRequest) (correlation : UInt32) : InStreamRuntime catalog :=
  let traits := catalog.traits endpoint
  let next := AfterClose.install endpoint link
    (max request.minimumIntervalUs traits.minimumIntervalUs) correlation
  if request.flags ≠ 0 ∨ request.batchSize > 1 ∨
      (request.codec ≠ 0 ∧ request.codec ≠ traits.codec.code) then state
  else
    match traits.exclusive with
    | none => { state with service := .closing [(endpoint, link)] .replaced true next }
    | some (name, .rejectExisting) =>
        if state.streams.groupIsActive name then state
        else { state with service := .closing [] .replaced true next }
    | some (name, .replaceExisting) =>
        { state with service := .closing (catalog.groupRows name) .replaced true next }

/-- `execute_in_stream_frame` up to the end of its first section. -/
def dataStep (link : catalog.Link) (endpoint : catalog.Endpoint) (frame : Decoded) (now : Tick) :
    InStreamRuntime catalog :=
  match (catalog.traits endpoint).decode frame.payload with
  | none => state
  | some value =>
      let envelope := frame.envelope
      match (state.row endpoint link).admitFrame catalog.ticksPerSecond envelope value now with
      | .error rejection =>
          let counted := state.count endpoint fun counters =>
            { counters with rejected := counters.rejected + 1 }
          if rejection = .rate then
            { counted with
              rateRejections := state.rateRejections ++ [((endpoint, link), envelope.requestId)]
              service := .crediting endpoint
                (.restoring link envelope.requestId (state.row endpoint link).generation) }
          else counted
      | .ok admitted =>
          let counted := (state.setRow endpoint link admitted).count endpoint fun counters =>
            { counters with admitted := counters.admitted + 1 }
          let admissions : List (Admission catalog) := state.admissions ++
            [⟨endpoint, link, envelope.requestId, envelope.frameSequence, value, false⟩]
          if (catalog.traits endpoint).inline then
            { counted.setWorker endpoint .scanning with
              admissions
              service := .draining endpoint }
          else
            { counted with
              admissions
              service := .submitting endpoint link envelope (state.row endpoint link).generation }

/-- Whether the service is between two frames. -/
def isIdle : Bool :=
  match state.service with
  | .idle => true
  | _ => false

/-- One step of the system. -/
def step : InStreamLabel catalog → Option (InStreamRuntime catalog)
  | .subscribe link endpoint request correlation =>
      if state.isIdle ∧ state.sessionActive link ∧ catalog.control link then
        some (state.subscribeStep link endpoint request correlation)
      else none
  | .unsubscribe link endpoint token =>
      if state.isIdle ∧ state.sessionActive link ∧ catalog.control link then
        if (state.row endpoint link).active ∧ (state.row endpoint link).token = token then
          some { state with service := .closing [(endpoint, link)] .closed false .finish }
        else some state
      else none
  | .data link endpoint frame now =>
      if state.isIdle ∧ state.sessionActive link ∧ catalog.control link then
        some (state.dataStep link endpoint frame now)
      else none
  | .clientHello link =>
      if state.isIdle then
        some { state with sessionActive := Function.update state.sessionActive link true }
      else none
  | .reset link cause =>
      if state.isIdle then
        some { state with
          service := .closing (catalog.linkRows link) cause.reason false (cause.after link) }
      else none
  | .service succeeds => state.serviceStep succeeds
  | .wake endpoint =>
      match state.worker endpoint with
      | .idle =>
          if (catalog.traits endpoint).inline then none
          else some (state.setWorker endpoint .scanning)
      | _ => none
  | .worker endpoint succeeds => state.workerStep endpoint succeeds

end

end InStreamRuntime

/-- The step system of the service thread and the consumer workers. -/
def inStreamMachine (catalog : InStreamCatalog Value) :
    Transition.Machine (InStreamRuntime catalog) (InStreamLabel catalog) :=
  ⟨InStreamRuntime.step⟩

/-- The smallest system: one link and one deferred endpoint whose samples are one byte. -/
def soloCatalog (window : Nat) (window_pos : 0 < window) (window_le : window ≤ 64) :
    InStreamCatalog UInt8 where
  linkCount := 1
  control := fun _ => true
  endpoints := [{ window, window_pos, window_le, decode := List.head? }]
  ticksPerSecond := 1000

namespace Solo

/-- One slot. -/
abbrev narrow : InStreamCatalog UInt8 := soloCatalog 1 (by decide) (by decide)

/-- Two slots. -/
abbrev wide : InStreamCatalog UInt8 := soloCatalog 2 Nat.two_pos (by decide)

variable {window : Nat} {window_pos : 0 < window} {window_le : window ≤ 64}

def link : (soloCatalog window window_pos window_le).Link := ⟨0, Nat.one_pos⟩

def endpoint : (soloCatalog window window_pos window_le).Endpoint := ⟨0, Nat.one_pos⟩

/-- The only row. -/
def row (state : InStreamRuntime (soloCatalog window window_pos window_le)) :
    InStreamLink UInt8 window :=
  state.row endpoint link

/-- The peer opens the stream and the service takes a number of steps to answer: seven, or six
when it finds no credit to grant. -/
def opens (correlation : UInt32) (steps : Nat) :
    List (InStreamLabel (soloCatalog window window_pos window_le)) :=
  .subscribe link endpoint {} correlation :: List.replicate steps (.service true)

/-- A sample arrives at a given time. -/
def data (token sequence : UInt32) (value : UInt8) (now : Tick) :
    InStreamLabel (soloCatalog window window_pos window_le) :=
  .data link endpoint ⟨{ requestId := token, frameSequence := sequence }, [value]⟩ now

/-- The service takes a number of steps. -/
def serves (steps : Nat) : List (InStreamLabel (soloCatalog window window_pos window_le)) :=
  List.replicate steps (.service true)

/-- The worker takes a number of steps. -/
def works (steps : Nat) : List (InStreamLabel (soloCatalog window window_pos window_le)) :=
  List.replicate steps (.worker endpoint true)

end Solo

end Solar.Remote
