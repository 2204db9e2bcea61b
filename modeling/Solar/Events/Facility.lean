/-
This file models a running event facility: captures by any number of callers, the
processor, the flush of the aggregates and the cancelling stop. A record that has
left its ring or its aggregate is a task until `process_record` has been called for
it; tasks are worked on in any order, so the processor and a stop may drain at once.
-/

import Solar.Events.Capture
import Solar.Library.Transition

namespace Solar.Events

open Remote (Status)

variable {Payload Key : Type}

/-! ### State -/

/-- Where a capture stands: not begun, past the checks that stand before the lock, returned. -/
inductive Call (Payload : Type)
  | absent
  | entered (request : Request Payload)
  | returned (answer : Except Reason Receipt)

/-- A record on its way to `process_record`: out of a ring, or out of an aggregate. -/
inductive Task (Payload : Type)
  | popped (record : StoredRecord Payload)
  | taken (record : StoredRecord Payload)

def Task.record : Task Payload → StoredRecord Payload
  | .popped record | .taken record => record

def Task.isPopped : Task Payload → Bool
  | .popped _ => true
  | .taken _ => false

inductive Ingress
  | thread | isr
  | critical (event : Nat)
  deriving DecidableEq

/-- The state of the facility from `init` on. `processRecord` says that the function is set; the
tasks that came up while it was not are in `abandoned`. -/
structure State (Payload Key : Type) where
  threadIngress : List (StoredRecord Payload) := []
  isrIngress : List (StoredRecord Payload) := []
  nextSequence : Nat := 1
  events : Nat → EventState Payload Key
  accepting : Bool := true
  processRecord : Bool := false
  tasks : List (Task Payload) := []
  abandoned : List (Task Payload) := []
  calls : Nat → Call Payload := fun _ => .absent

/-- `init`. -/
def Facility.initial (facility : Facility Payload Key) : State Payload Key where
  events event :=
    { aggregation := List.replicate (facility.policies event).capture.slots {} }

/-- What a capture comes to, with the record that it has admitted. -/
structure Captured (Payload Key : Type) where
  state : State Payload Key
  answer : Except Reason Receipt
  record : Option (StoredRecord Payload) := none

namespace State

variable (state : State Payload Key)

def setEvent (event : Nat) (value : EventState Payload Key) : State Payload Key :=
  { state with events := Function.update state.events event value }

/-! ### Rings -/

def ring : Ingress → List (StoredRecord Payload)
  | .thread => state.threadIngress
  | .isr => state.isrIngress
  | .critical event => (state.events event).criticalIngress

def setRing (records : List (StoredRecord Payload)) : Ingress → State Payload Key
  | .thread => { state with threadIngress := records }
  | .isr => { state with isrIngress := records }
  | .critical event =>
      state.setEvent event { state.events event with criticalIngress := records }

/-- `push` of a ring. -/
def push (ingress : Ingress) (capacity : Nat) (record : StoredRecord Payload) :
    Option (State Payload Key) :=
  if (state.ring ingress).length = capacity then none
  else some (state.setRing (state.ring ingress ++ [record]) ingress)

section

variable (facility : Facility Payload Key)

/-- The admission of a record. -/
def enqueue (record : StoredRecord Payload) : Option (State Payload Key) :=
  let event := state.events record.event
  match (facility.policies record.event).retention with
  | .critical reservedSlots =>
      if event.criticalIngress.length + event.criticalHistory.length + event.criticalInflight <
          reservedSlots then
        state.push (.critical record.event) reservedSlots record
      else none
  | _ =>
      if record.isr then state.push .isr facility.isrDepth record
      else state.push .thread facility.threadDepth record

/-! ### Captures -/

/-- The record of an occurrence, before its sequence number. -/
def stored (policy : EventPolicy Payload Key) (event : EventState Payload Key)
    (request : Request Payload) (now : Int) : StoredRecord Payload :=
  let lostBefore := min event.policyCounter (2 ^ 32 - 1)
  { event := request.event
    source := request.source
    timestamp := now
    isr := request.operation = .observeIsr
    correlation := request.correlation
    logIntent := request.logIntent
    lostBefore
    flags :=
      { critical := policy.retention.isCritical
        lostBefore := lostBefore ≠ 0
        recovery := policy.resolves }
    payload := request.payload }

/-- A record gets the next sequence number. -/
def number (record : StoredRecord Payload) : StoredRecord Payload :=
  { record with
    sequence := state.nextSequence
    flags := { record.flags with
      aggregated := record.flags.aggregated || decide (1 < record.occurrenceCount) } }

/-- A record takes its sequence number. -/
def materialized (event : Nat) (record : StoredRecord Payload) : State Payload Key :=
  { state.setEvent event ((state.events event).materialize record) with
    nextSequence := state.nextSequence + 1 }

/-- The locked section of `capture_event` from the sequence number on. -/
def admission (event : Nat) (sifted : EventState Payload Key) (record : StoredRecord Payload)
    (now : Int) : Captured Payload Key :=
  match (state.setEvent event sifted).enqueue facility record with
  | none =>
      let reason := (facility.policies event).retention.exhausted
      { state := state.setEvent event (sifted.reject reason), answer := .error reason }
  | some admitted =>
      { state := admitted.materialized event record
        answer := .ok
          { sequence := record.sequence, timestamp := now
            occurrenceCount := record.occurrenceCount }
        record := some record }

/-- An attempt is counted. -/
def attempted (event : EventState Payload Key) : EventState Payload Key :=
  { event with record := { event.record with attempts := event.record.attempts + 1 } }

/-- The locked section of `capture_event` up to the sequence number. -/
def sifted [DecidableEq Key] (facility : Facility Payload Key) (request : Request Payload)
    (now : Int) : EventState Payload Key × Sifted Payload :=
  let policy := facility.policies request.event
  let event := attempted (state.events request.event)
  event.sift policy.capture (stored policy event request now) now

/-- The locked section of `capture_event`. -/
def capture [DecidableEq Key] (facility : Facility Payload Key) (request : Request Payload)
    (now : Int) : Captured Payload Key :=
  match state.sifted facility request now with
  | (event, .answered answer) => { state := state.setEvent request.event event, answer }
  | (event, .kept record) =>
      state.admission facility request.event event (state.number record) now

/-! ### Processing -/

/-- The rings in the order in which `pop_next` considers them. -/
def ingresses (count : Nat) : List Ingress :=
  .thread :: .isr :: (List.range count).map .critical

/-- `consider`: the ring with the lowest sequence number in front so far. -/
def consider (best : Option (Ingress × StoredRecord Payload)) (ingress : Ingress) :
    Option (Ingress × StoredRecord Payload) :=
  match (state.ring ingress).head? with
  | none => best
  | some front =>
      match best with
      | none => some (ingress, front)
      | some (other, record) =>
          if front.sequence < record.sequence then some (ingress, front) else some (other, record)

/-- The front of a ring is popped. A record of a critical event is counted as on its way. -/
def popFront (ingress : Ingress) (record : StoredRecord Payload) : State Payload Key :=
  let popped := state.setRing (state.ring ingress).tail ingress
  let counted :=
    match ingress with
    | .critical event =>
        popped.setEvent event { popped.events event with
          criticalInflight := (popped.events event).criticalInflight + 1 }
    | _ => popped
  { counted with tasks := counted.tasks ++ [.popped record] }

/-- `pop_next`. -/
def popNext (count : Nat) : Option (State Payload Key) :=
  ((ingresses count).foldl state.consider none).map fun (ingress, record) =>
    state.popFront ingress record

/-- `retain_record`. `kept` is the outcome of the history of buffered records, or of the store. -/
def retain (retention : RetentionPolicy) (event : EventState Payload Key)
    (record : StoredRecord Payload) (kept : Bool) : EventState Payload Key × Bool :=
  let retained := { event with record := { event.record with retained := event.record.retained + 1 } }
  let lost := { event with record := { event.record with
    knownLost := event.record.knownLost + 1, overflowLatched := true } }
  match retention with
  | .transient => (event, true)
  | .buffered => if kept then (retained, true) else (lost, false)
  | .critical reservedSlots =>
      let criticalInflight := event.criticalInflight - 1
      if event.criticalHistory.length = reservedSlots then ({ lost with criticalInflight }, false)
      else
        ({ retained with
            criticalHistory := event.criticalHistory ++ [record], criticalInflight }, true)
  | .persistent => if kept then (retained, true) else (event, false)

/-- `process_record` for a task, up to the retention of its record. -/
def process (position : Nat) (task : Task Payload) (kept : Bool) : State Payload Key :=
  let record := task.record
  let state := { state with tasks := state.tasks.eraseIdx position }
  if state.processRecord then
    state.setEvent record.event
      (retain (facility.policies record.event).retention (state.events record.event) record kept).1
  else { state with abandoned := state.abandoned ++ [task] }

/-- `take_pending_aggregate`: the first aggregate that counts something. -/
def takePending (event : Nat) : Option (State Payload Key) :=
  let before := state.events event
  let keyed := (facility.policies event).capture.keyed
  match before.aggregation.findIdx? fun entry =>
      (!keyed || entry.key.isSome) && decide (entry.count ≠ 0) with
  | none => none
  | some position =>
      let entry := before.aggregation.getD position {}
      match entry.representative with
      | none => none
      | some representative =>
          let record :=
            { representative with
              sequence := state.nextSequence
              occurrenceCount := entry.count
              flags := { representative.flags with aggregated := true } }
          let taken := { before with aggregation := before.aggregation.set position {} }
          some { (state.setEvent event taken).materialized event record with
            tasks := state.tasks ++ [.taken record] }

end

/-- The locked section of the cancelling stop. -/
def cancel : State Payload Key :=
  { state with
    threadIngress := []
    isrIngress := []
    events := fun event => (state.events event).cancel }

end State

/-! ### Steps -/

/-- A step. Captures are numbered by their callers. `acquired` says whether an attempt for the lock
succeeds; `observe` waits for it. -/
inductive Label (Payload : Type)
  | enter (number : Nat) (request : Request Payload) (inIsr : Bool)
  | capture (number : Nat) (now : Int) (acquired : Bool)
  | pop
  | process (position : Nat) (kept : Bool)
  | activate
  | stop
  | take (event : Nat)
  | cancel

namespace State

variable (state : State Payload Key)

def answer (number : Nat) (answer : Except Reason Receipt) : State Payload Key :=
  { state with calls := Function.update state.calls number (.returned answer) }

/-- The checks of `capture_event` before the lock. -/
def enter (number : Nat) (request : Request Payload) (inIsr : Bool) : State Payload Key :=
  if decide (request.operation = .observeIsr) ≠ inIsr then
    state.answer number (.error .invalidContext)
  else if state.accepting = false then state.answer number (.error .captureClosed)
  else { state with calls := Function.update state.calls number (.entered request) }

/-- One step. -/
def step [DecidableEq Key] (facility : Facility Payload Key) :
    Label Payload → Option (State Payload Key)
  | .enter number request inIsr =>
      match state.calls number with
      | .absent =>
          if request.event < facility.count then some (state.enter number request inIsr) else none
      | _ => none
  | .capture number now acquired =>
      match state.calls number with
      | .entered request =>
          if acquired then
            let captured := state.capture facility request now
            some (captured.state.answer number captured.answer)
          else if request.operation = .observe then none
          else some (state.answer number (.error .wouldBlock))
      | _ => none
  | .pop => state.popNext facility.count
  | .process position kept => state.tasks[position]?.map (state.process facility position · kept)
  | .activate => some { state with processRecord := true }
  | .stop => some { state with accepting := false }
  | .take event =>
      if state.accepting = false ∧ facility.stopPolicy = .drain ∧ event < facility.count then
        state.takePending facility event
      else none
  | .cancel =>
      if state.accepting = false ∧ facility.stopPolicy = .cancelPending then some state.cancel
      else none

end State

/-- The event facility. -/
def machine [DecidableEq Key] (facility : Facility Payload Key) :
    Transition.Machine (State Payload Key) (Label Payload) :=
  ⟨fun state label => state.step facility label⟩

end Solar.Events
