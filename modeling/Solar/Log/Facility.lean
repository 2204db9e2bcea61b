/-
This file models the log facility from its captures to its routes: the runtime filters,
the admission to the ingress with its reserves, the loop that takes records out of the
ingress, and what each route does with a record. A capture is one step. A drain is many:
it pops a record, takes it to one route after another and counts it as processed, and
any other step may come between two of these.

The ingress and the history are lists of records whose sizes are those the rings would
store. Of a payload only what decides its encoded size and its rendering is used.
-/

import Solar.Library.Transition
import Solar.Remote.Schema

namespace Solar.Log

open Remote (Status)

/-! ### Records -/

inductive Level
  | trace | debug | info | notice | warning | error | fatal
  deriving DecidableEq

/-- `at_least`. -/
def Level.atLeast (value minimum : Level) : Bool := decide (minimum.ctorIdx ≤ value.ctorIdx)

inductive ContextKind
  | thread | isr | earlyBoot | panic

inductive Encoding
  | solarArguments | zephyrCbprintf | text | hexdump

structure RecordFlags where
  truncated : Bool := false
  elevated : Bool := false
  emergency : Bool := false
  precedingLoss : Bool := false

/-- A request: what a record takes over from its caller. -/
structure CaptureRequest (Payload : Type) where
  level : Level := .info
  context : ContextKind := .thread
  encoding : Encoding := .solarArguments
  payload : Payload
  flags : RecordFlags := {}

/-- A record: the header and the payload. -/
structure StoredRecord (Payload : Type) where
  sequence : Nat
  timestamp : Int
  source : Option Nat
  domain : Option Nat
  level : Level
  context : ContextKind
  encoding : Encoding
  flags : RecordFlags
  payload : Payload

inductive Operation
  | capture | tryCapture | isrCapture
  deriving DecidableEq

inductive Reason
  | captureClosed | invalidContext | recordTooLarge | contended | capacityExhausted

inductive Disposition
  | captured | runtimeFiltered | elevated | emergency
  deriving DecidableEq

structure Receipt where
  disposition : Disposition := .captured
  sequence : Nat := 0
  timestamp : Int := 0
  encodedSize : Nat := 0
  flags : RecordFlags := {}

structure Failure where
  status : Status
  reason : Reason
  operation : Operation
  source : Option Nat
  level : Level

/-- A call of `capture_resolved`, with what it finds: whether it is made in an interrupt, whether an
attempt for the lock succeeds, and the time. -/
structure Call (Payload : Type) where
  request : CaptureRequest Payload
  operation : Operation := .capture
  source : Option Nat := none
  domain : Option Nat := none
  inIsr : Bool := false
  acquired : Bool := true
  timestamp : Int := 0

def Call.failure {Payload : Type} (call : Call Payload) (status : Status) (reason : Reason) :
    Failure :=
  ⟨status, reason, call.operation, call.source, call.request.level⟩

/-! ### The architecture -/

/-- `route_traits`. `retained` marks the route into the retained history. -/
structure RouteTraits where
  minimum : Level := .trace
  panicSafe : Bool := false
  encoded : Bool := false
  retained : Bool := false

/-- The configuration. `hexdump` reads the sizes of the label and the data from the payload of a
hexdump; `formatted` is the size that the formatter of Solar's arguments, or of Zephyr's packages,
renders a payload to. -/
structure Architecture (Route Payload : Type) where
  routes : List Route
  distinct : routes.Nodup
  traits : Route → RouteTraits
  cancelPending : Bool := false
  sourceLevel : Nat → Level := fun _ => .trace
  domainLevel : Nat → Level := fun _ => .trace
  headerBytes : Nat
  maxRecordBytes : Nat
  ingressBytes : Nat
  elevatedReserveBytes : Nat
  emergencyBytes : Nat
  historyBytes : Nat
  renderBufferBytes : Nat
  payloadSize : Payload → Nat
  hexdump : Payload → Option (Nat × Nat)
  formatted : Encoding → Payload → Option Nat

variable {Route Payload : Type}

namespace Architecture

variable (architecture : Architecture Route Payload)

/-- The size of a record in a ring, with the word that holds its size. -/
def stride (payload : Payload) : Nat :=
  2 + (architecture.headerBytes + architecture.payloadSize payload)

def used (records : List (StoredRecord Payload)) : Nat :=
  (records.map fun record => architecture.stride record.payload).sum

/-- `admission_limit`. -/
def admissionLimit (level : Level) : Nat :=
  if level = .fatal then architecture.ingressBytes
  else if level.atLeast .warning then architecture.ingressBytes - architecture.emergencyBytes
  else architecture.ingressBytes - architecture.elevatedReserveBytes - architecture.emergencyBytes

/-- `render_message`: the size of the text, where there is room for it. -/
def renderMessage (record : StoredRecord Payload) : Option Nat :=
  let fits (size : Nat) := if size ≤ architecture.renderBufferBytes then some size else none
  match record.encoding with
  | .text => fits (architecture.payloadSize record.payload)
  | .hexdump => (architecture.hexdump record.payload).bind fun (label, data) =>
      fits ((if label = 0 then 0 else label + 2) + (3 * data - 1))
  | encoding => architecture.formatted encoding record.payload

/-- The records that `CompactHistory::append` keeps, and how many it evicts to make room. -/
def evict (size : Nat) : List (StoredRecord Payload) → List (StoredRecord Payload) × Nat
  | [] => ([], 0)
  | oldest :: rest =>
      if architecture.used (oldest :: rest) + size ≤ architecture.historyBytes then
        (oldest :: rest, 0)
      else ((evict size rest).1, (evict size rest).2 + 1)

end Architecture

/-! ### State -/

structure FacilityRecord where
  attempted : Nat := 0
  captured : Nat := 0
  processed : Nat := 0
  runtimeFiltered : Nat := 0
  dropped : Nat := 0
  sinkFailures : Nat := 0
  historyEvicted : Nat := 0
  historyUnstored : Nat := 0
  nextSequence : Nat := 1
  precedingLoss : Bool := false

structure SourceRecord where
  attempted : Nat := 0
  captured : Nat := 0
  filtered : Nat := 0
  dropped : Nat := 0

structure SinkRecord where
  accepted : Nat := 0
  filtered : Nat := 0
  failed : Nat := 0

/-- A record that a drain has popped, with the number of routes that it has been to and the size of
its text once it is rendered. -/
structure Processing (Payload : Type) where
  record : StoredRecord Payload
  position : Nat := 0
  rendered : Option Nat := none

structure State (Route Payload : Type) where
  ready : Bool := true
  accepting : Bool := true
  panicMode : Bool := false
  processRecord : Bool := false
  minimum : Route → Level
  sources : Nat → Level := fun _ => .trace
  domains : Nat → Level := fun _ => .trace
  ingress : List (StoredRecord Payload) := []
  history : List (StoredRecord Payload) := []
  record : FacilityRecord := {}
  sourceRecords : Nat → SourceRecord := fun _ => {}
  sinkRecords : Route → SinkRecord := fun _ => {}
  processing : List (Processing Payload) := []

/-- The state that `init` leaves. -/
def Architecture.initial (architecture : Architecture Route Payload) : State Route Payload where
  minimum route := (architecture.traits route).minimum

namespace State

variable (state : State Route Payload)

/-! ### Captures -/

/-- `any_runtime_route_accepts` and `RuntimeFilters::accepts`. -/
def accepts (architecture : Architecture Route Payload) (call : Call Payload) : Bool :=
  (architecture.routes.any fun route => call.request.level.atLeast (state.minimum route)) &&
    call.source.all (fun source => call.request.level.atLeast (state.sources source)) &&
    call.domain.all fun domain => call.request.level.atLeast (state.domains domain)

/-- The record of a source, where the source is valid, is updated. -/
def countSource (source : Option Nat) (count : SourceRecord → SourceRecord) :
    Nat → SourceRecord :=
  match source with
  | some source => Function.update state.sourceRecords source (count (state.sourceRecords source))
  | none => state.sourceRecords

section

variable (call : Call Payload)

/-- The exit of a call that the filters reject. -/
def filter : State Route Payload :=
  { state with
    record := { state.record with
      attempted := state.record.attempted + 1
      runtimeFiltered := state.record.runtimeFiltered + 1 }
    sourceRecords := state.countSource call.source fun record =>
      { record with attempted := record.attempted + 1, filtered := record.filtered + 1 } }

/-- The record of a call. -/
def header : StoredRecord Payload where
  sequence := state.record.nextSequence
  timestamp := call.timestamp
  source := call.source
  domain := call.domain
  level := call.request.level
  context := if call.inIsr then .isr else call.request.context
  encoding := call.request.encoding
  flags := { call.request.flags with
    precedingLoss := call.request.flags.precedingLoss || state.record.precedingLoss }
  payload := call.request.payload

/-- The exit of a call whose record finds no room. -/
def drop : State Route Payload :=
  { state with
    record := { state.record with
      attempted := state.record.attempted + 1
      dropped := state.record.dropped + 1
      precedingLoss := true }
    sourceRecords := state.countSource call.source fun record =>
      { record with attempted := record.attempted + 1, dropped := record.dropped + 1 } }

/-- The exit of a call whose record is stored. -/
def store : State Route Payload :=
  { state with
    ingress := state.ingress ++ [state.header call]
    record := { state.record with
      attempted := state.record.attempted + 1
      captured := state.record.captured + 1
      nextSequence := state.record.nextSequence + 1
      precedingLoss := false }
    sourceRecords := state.countSource call.source fun record =>
      { record with attempted := record.attempted + 1, captured := record.captured + 1 } }

end

/-- `ByteRing::push` takes the record. -/
def HasRoom (architecture : Architecture Route Payload) (request : CaptureRequest Payload) : Prop :=
  architecture.headerBytes + architecture.payloadSize request.payload < 2 ^ 16 ∧
    architecture.used state.ingress + architecture.stride request.payload ≤
      architecture.admissionLimit request.level

instance (architecture : Architecture Route Payload) (request : CaptureRequest Payload) :
    Decidable (state.HasRoom architecture request) :=
  inferInstanceAs (Decidable (_ ∧ _))

section

variable (architecture : Architecture Route Payload) (call : Call Payload)

def receipt : Receipt :=
  let elevated := call.request.level.atLeast .warning
  let emergency := decide (call.request.level = .fatal)
  { disposition := if emergency then .emergency else if elevated then .elevated else .captured
    sequence := state.record.nextSequence
    timestamp := call.timestamp
    encodedSize := architecture.headerBytes + architecture.payloadSize call.request.payload
    flags := { (state.header call).flags with
      elevated := call.request.flags.elevated || elevated
      emergency := call.request.flags.emergency || emergency } }

/-- `capture_resolved`. -/
def capture : State Route Payload × Except Failure Receipt :=
  if state.ready = false ∨ state.accepting = false then
    (state, .error (call.failure .notReady .captureClosed))
  else if decide (call.operation = .isrCapture) ≠ call.inIsr then
    (state, .error (call.failure .invalid .invalidContext))
  else if state.accepts architecture call = false then
    (state.filter call, .ok { disposition := .runtimeFiltered })
  else if architecture.maxRecordBytes <
      architecture.headerBytes + architecture.payloadSize call.request.payload then
    (state, .error (call.failure .messageTooLarge .recordTooLarge))
  else if call.operation ≠ .capture ∧ call.acquired = false then
    (state, .error (call.failure .wouldBlock .contended))
  else if state.HasRoom architecture call.request then
    (state.store call, .ok (state.receipt architecture call))
  else (state.drop call, .error (call.failure .noBuffer .capacityExhausted))

end

/-! ### The processor -/

/-- One turn of the loop of `drain`: the oldest record is popped, and lost where the function that
processes records is not set. The stored records are well formed, so none fails to decode. -/
def pop : State Route Payload :=
  match state.ingress with
  | [] => state
  | oldest :: rest =>
      { state with
        ingress := rest
        processing :=
          if state.processRecord then ⟨oldest, 0, none⟩ :: state.processing
          else state.processing }

/-- What a route does with a record. -/
inductive Verdict
  | filtered | skipped | retained | unrendered | accepted | failed
  deriving DecidableEq

section

variable (architecture : Architecture Route Payload)

/-- What a route that takes part does with a record that has this rendering. `consumed` is the
outcome of the sink. -/
def consume (route : Route) (rendered : Option Nat) (consumed : Bool) : Verdict :=
  if (architecture.traits route).retained then .retained
  else if (architecture.traits route).encoded = false ∧ rendered = none then .unrendered
  else if consumed then .accepted
  else .failed

/-- The verdict of a route, as `process_one` reaches it. -/
def verdict (route : Route) (processing : Processing Payload) (consumed : Bool) : Verdict :=
  if processing.record.level.atLeast (state.minimum route) = false then .filtered
  else if state.panicMode ∧ (architecture.traits route).panicSafe = false ∧
      (architecture.traits route).retained = false then .skipped
  else consume architecture route
    (processing.rendered <|> architecture.renderMessage processing.record) consumed

/-- A record is rendered for the first route that needs its text, and again as long as that
fails. -/
def rendering (route : Route) (verdict : Verdict) (processing : Processing Payload) : Option Nat :=
  match verdict with
  | .filtered | .skipped | .retained => processing.rendered
  | _ =>
      if (architecture.traits route).encoded then processing.rendered
      else processing.rendered <|> architecture.renderMessage processing.record

/-- `CompactHistory::append`, and its counters. -/
def retain (record : StoredRecord Payload) : State Route Payload :=
  let size := architecture.stride record.payload
  if architecture.historyBytes < size then
    { state with
      record := { state.record with historyUnstored := state.record.historyUnstored + 1 } }
  else
    { state with
      history := (architecture.evict size state.history).1 ++ [record]
      record := { state.record with
        historyEvicted :=
          state.record.historyEvicted + (architecture.evict size state.history).2 } }

end

section

variable [DecidableEq Route]

/-- The record of a route is updated. -/
def countSink (route : Route) (count : SinkRecord → SinkRecord) : State Route Payload :=
  { state with
    sinkRecords := Function.update state.sinkRecords route (count (state.sinkRecords route)) }

/-- What a verdict does to the records of the facility and of the route. -/
def settle (architecture : Architecture Route Payload) (route : Route)
    (record : StoredRecord Payload) : Verdict → State Route Payload
  | .filtered => state.countSink route fun record => { record with filtered := record.filtered + 1 }
  | .retained => state.retain architecture record
  | .accepted => state.countSink route fun record => { record with accepted := record.accepted + 1 }
  | .failed =>
      { state.countSink route (fun record => { record with failed := record.failed + 1 }) with
        record := { state.record with sinkFailures := state.record.sinkFailures + 1 } }
  | .skipped | .unrendered => state

/-- A record goes to its next route. -/
def visit (architecture : Architecture Route Payload) (number : Nat)
    (processing : Processing Payload) (route : Route) (consumed : Bool) : State Route Payload :=
  let verdict := state.verdict architecture route processing consumed
  { state.settle architecture route processing.record verdict with
    processing :=
      { processing with
        position := processing.position + 1
        rendered := rendering architecture route verdict processing } ::
        state.processing.eraseIdx number }

end

/-- The end of `process_one`. -/
def finish (number : Nat) : State Route Payload :=
  { state with
    record := { state.record with processed := state.record.processed + 1 }
    processing := state.processing.eraseIdx number }

/-! ### Steps -/

/-- A step. The records that are processed are numbered by their place; `consumed` is the outcome of
a sink. `flush`, and a stop that drains, are turns of `drain`. -/
inductive Label (Route Payload : Type)
  | capture (call : Call Payload)
  | pop
  | visit (number : Nat) (consumed : Bool)
  | finish (number : Nat)
  | setSourceLevel (source : Nat) (level : Level)
  | setDomainLevel (domain : Nat) (level : Level)
  | setSinkLevel (route : Route) (level : Level)
  | activate
  | panic
  | start
  | stop
  | cancel
  | deinit

/-- One step. -/
def step [DecidableEq Route] (architecture : Architecture Route Payload) :
    Label Route Payload → Option (State Route Payload)
  | .capture call => some (state.capture architecture call).1
  | .pop => some state.pop
  | .visit number consumed =>
      state.processing[number]?.bind fun processing =>
        architecture.routes[processing.position]?.map fun route =>
          state.visit architecture number processing route consumed
  | .finish number =>
      state.processing[number]?.bind fun processing =>
        if architecture.routes.length ≤ processing.position then some (state.finish number)
        else none
  | .setSourceLevel source level =>
      some { state with sources := Function.update state.sources source level }
  | .setDomainLevel domain level =>
      some { state with domains := Function.update state.domains domain level }
  | .setSinkLevel route level =>
      some { state with minimum := Function.update state.minimum route level }
  | .activate =>
      some { state with
        sources := architecture.sourceLevel
        domains := architecture.domainLevel
        sourceRecords := fun _ => {}
        processRecord := true }
  | .panic => some { state with panicMode := true }
  | .start => some { state with accepting := true }
  | .stop => some { state with accepting := false }
  | .cancel =>
      if architecture.cancelPending ∧ state.accepting = false then
        some { state with ingress := [] }
      else none
  | .deinit => some { state with ready := false, processRecord := false }

end State

end Solar.Log
