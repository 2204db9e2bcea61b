/-
This file models one queued route of the bus: the ring of its messages under the
storage lock, the semaphore of its free slots, its record under the record lock,
and the emitters, drainers and stops that work on it. Each of them goes through
its steps one by one, and a step is what the code does under one lock or with one
operation of the semaphore; between two steps anybody else may take one.

The word of the ring's count wraps. The semaphore counts up to the capacity: it is
given no further, and a reset leaves it empty and wakes who waits for a slot.
-/

import Solar.Library.Ring
import Solar.Library.Transition
import Solar.Remote.Schema

namespace Solar.Bus

open Remote (Status)

/-! ### Routes -/

inductive Overflow
  | reject | wait | dropNewest | dropOldest
  deriving DecidableEq

inductive EmitMode
  | normal | tryOnly | isr
  deriving DecidableEq

/-- The policy of a queued route. The ring counts its messages in a word. -/
structure QueuedRoute where
  capacity : Nat
  overflow : Overflow
  sizeBits : Nat
  positive : 1 ≤ capacity
  representable : capacity < 2 ^ sizeBits

/-- `RouteRecord`. -/
structure RouteRecord where
  accepted : Nat := 0
  rejected : Nat := 0
  timedOut : Nat := 0
  droppedNewest : Nat := 0
  droppedOldest : Nat := 0
  cancelled : Nat := 0
  delivered : Nat := 0
  handlerFailed : Nat := 0
  executorUnavailable : Nat := 0
  pending : Nat := 0
  pendingHighWater : Nat := 0
  inFlight : Nat := 0
  lastStatus : Status := .notReady
  quiescent : Bool := true

section

variable (record : RouteRecord)

/-- `accepted`. -/
def RouteRecord.accept (pending : Nat) : RouteRecord :=
  { record with
    accepted := record.accepted + 1
    pending
    lastStatus := .ok
    quiescent := false
    pendingHighWater := max pending record.pendingHighWater }

/-- `rejected`. -/
def RouteRecord.reject (status : Status) (timedOut : Bool) : RouteRecord :=
  { record with
    rejected := record.rejected + 1
    timedOut := if timedOut then record.timedOut + 1 else record.timedOut
    lastStatus := status }

/-- `cancelled`. -/
def RouteRecord.cancel (count inFlight : Nat) : RouteRecord :=
  { record with
    cancelled := record.cancelled + count
    pending := 0
    quiescent := inFlight = 0 }

/-- The record as the handler is called. -/
def RouteRecord.beginDelivery : RouteRecord :=
  { record with inFlight := record.inFlight + 1, quiescent := false }

/-- The record as the handler has returned. -/
def RouteRecord.endDelivery (result : Except Status Unit) : RouteRecord :=
  { record with
    delivered := record.delivered + 1
    handlerFailed := match result with
      | .ok _ => record.handlerFailed
      | .error _ => record.handlerFailed + 1
    lastStatus := match result with
      | .ok _ => .ok
      | .error status => status
    inFlight := record.inFlight - 1
    quiescent := record.pending = 0 ∧ record.inFlight - 1 = 0 }

end

/-- `RouteAcceptance`. -/
structure RouteAcceptance where
  status : Status := .ok
  accepted : Bool := false
  dropped : Bool := false
  needsSubmit : Bool := false
  timedOut : Bool := false

/-! ### Who works on the route -/

/-- Where an emitter stands: it has a slot and has not stored yet, it has none and will drop the
oldest message, it has stored and not been recorded, `accept` has returned, or its submission was
refused and it has cleared the ring, and recorded what it cleared. -/
inductive Emitter (Message : Type)
  | storing (message : Message)
  | dropping (message : Message)
  | stored (pending : Nat) (dropped : Bool)
  | returned (acceptance : RouteAcceptance)
  | cleared (removed : Nat) (status : Status)
  | withdrawn (status : Status)
  | finished

/-- Where a drainer stands: it has taken a message out and not given its slot back, it has given it,
it has recorded what is pending, or it is in the handler. -/
inductive Drainer (Message : Type)
  | popped (payload : Option Message) (pending : Nat)
  | given (payload : Option Message) (pending : Nat)
  | recorded (payload : Option Message)
  | delivering
  | finished

/-- `RouteState`, with those who work on it. `stops` are the stops that have cleared the ring and not
recorded it. -/
structure RouteState (Message : Type) where
  ring : Ring.Slots Message := {}
  available : Nat
  record : RouteRecord := {}
  inFlight : Nat := 0
  emitters : List (Emitter Message) := []
  drainers : List (Drainer Message) := []
  stops : List Nat := []

/-- A route as it is initialised. -/
def RouteState.initial {Message : Type} (route : QueuedRoute) : RouteState Message where
  available := route.capacity

section

variable {Message : Type}

section

variable (route : QueuedRoute)

/-- What `accept` returns when there is no slot. -/
def QueuedRoute.refusal (mode : EmitMode) : RouteAcceptance :=
  match route.overflow with
  | .dropNewest => { dropped := true }
  | .wait =>
      if mode = .normal then { status := .timeout, timedOut := true } else { status := .noSpace }
  | .reject | .dropOldest => { status := .noSpace }

section

variable (state : RouteState Message)

/-- The first step of `accept`: a slot is taken. Without one the message is refused, or the emitter
goes on to drop the oldest one. -/
def QueuedRoute.take (message : Message) (mode : EmitMode) : RouteState Message :=
  if 0 < state.available then
    { state with
      available := state.available - 1
      emitters := state.emitters ++ [.storing message] }
  else
    match route.overflow with
    | .dropOldest => { state with emitters := state.emitters ++ [.dropping message] }
    | .dropNewest =>
        { state with
          record := { state.record with droppedNewest := state.record.droppedNewest + 1 }
          emitters := state.emitters ++ [.returned (route.refusal mode)] }
    | .reject | .wait =>
        let refusal := route.refusal mode
        { state with
          record := state.record.reject refusal.status refusal.timedOut
          emitters := state.emitters ++ [.returned refusal] }

/-- A message goes into the ring, in the place of the oldest one if it is to be dropped. -/
def QueuedRoute.storeMessage (ring : Ring.Slots Message) (dropped : Bool) (message : Message) :
    Ring.Slots Message :=
  let freed := if dropped then ring.drop route.capacity (2 ^ route.sizeBits) else ring
  freed.push route.capacity (2 ^ route.sizeBits) message

/-- The storage section of `accept`. -/
def QueuedRoute.store (position : Nat) (dropped : Bool) (message : Message) : RouteState Message :=
  let ring := route.storeMessage state.ring dropped message
  { state with
    ring
    record := if dropped then
        { state.record with droppedOldest := state.record.droppedOldest + 1 }
      else state.record
    emitters := state.emitters.set position (.stored (ring.count % 2 ^ 32) dropped) }

/-- The storage section of `clear_pending`: the ring is emptied and all slots are given. -/
def QueuedRoute.clear : RouteState Message :=
  { state with ring := state.ring.clear, available := route.capacity }

/-- The storage section of `drain_one`. -/
def QueuedRoute.pop : RouteState Message :=
  let ring := state.ring.drop route.capacity (2 ^ route.sizeBits)
  { state with
    ring
    drainers := state.drainers ++
      [.popped (state.ring.storage state.ring.head) (ring.count % 2 ^ 32)] }

end

end

/-! ### The machine -/

/-- Who takes a step: an emitter begins, a waiting one is woken by a reset of the semaphore, an
emitter or a drainer goes on from where it stands, a drainer takes a message out, or a stop clears the
ring and records it. The answers of the executor and the handler come with the step. -/
inductive RouteStep (Message : Type)
  | take (message : Message) (mode : EmitMode)
  | wake
  | emitter (position : Nat) (result : Except Status Unit)
  | pop
  | drainer (position : Nat) (result : Except Status Unit)
  | stop
  | recordStop

section

variable (route : QueuedRoute)

/-- The next step of an emitter, by where it stands. -/
def QueuedRoute.stepEmitter (state : RouteState Message) (position : Nat)
    (result : Except Status Unit) : Emitter Message → Option (RouteState Message)
  | .storing message => some (route.store state position false message)
  | .dropping message => some (route.store state position true message)
  | .stored pending dropped =>
      some { state with
        record := state.record.accept pending
        emitters := state.emitters.set position
          (.returned { accepted := true, dropped, needsSubmit := true }) }
  | .returned acceptance =>
      if acceptance.needsSubmit then
        match result with
        | .ok _ => some { state with emitters := state.emitters.set position .finished }
        | .error status =>
            let removed := state.ring.count % 2 ^ 32
            let cleared := route.clear state
            some { cleared with emitters := state.emitters.set position (.cleared removed status) }
      else some { state with emitters := state.emitters.set position .finished }
  | .cleared removed status =>
      some { state with
        record := state.record.cancel removed state.inFlight
        emitters := state.emitters.set position (.withdrawn status) }
  | .withdrawn status =>
      some { state with
        record := { state.record with
          executorUnavailable := state.record.executorUnavailable + 1
          lastStatus := status }
        emitters := state.emitters.set position .finished }
  | .finished => none

/-- The next step of a drainer that has taken a message out. -/
def QueuedRoute.stepDrainer (state : RouteState Message) (position : Nat)
    (result : Except Status Unit) : Drainer Message → Option (RouteState Message)
  | .popped payload pending =>
      some { state with
        available := min (state.available + 1) route.capacity
        drainers := state.drainers.set position (.given payload pending) }
  | .given payload pending =>
      some { state with
        record := { state.record with pending }
        drainers := state.drainers.set position (.recorded payload) }
  | .recorded _ =>
      some { state with
        inFlight := state.inFlight + 1
        record := state.record.beginDelivery
        drainers := state.drainers.set position .delivering }
  | .delivering =>
      some { state with
        inFlight := state.inFlight - 1
        record := state.record.endDelivery result
        drainers := state.drainers.set position .finished }
  | .finished => none

/-- All steps on a route. -/
def routeMachine : Transition.Machine (RouteState Message) (RouteStep Message) where
  step state
    | .take message mode => some (route.take state message mode)
    | .wake =>
        if route.overflow = .wait then
          some { state with
            record := state.record.reject .timeout true
            emitters := state.emitters ++ [.returned (route.refusal .normal)] }
        else none
    | .emitter position result =>
        state.emitters[position]?.bind (route.stepEmitter state position result)
    | .pop => if state.ring.count = 0 then none else some (route.pop state)
    | .drainer position result =>
        state.drainers[position]?.bind (route.stepDrainer state position result)
    | .stop =>
        let cleared := route.clear state
        some { cleared with stops := state.stops ++ [state.ring.count % 2 ^ 32] }
    | .recordStop =>
        match state.stops with
        | [] => none
        | removed :: rest =>
            some { state with
              record := state.record.cancel removed state.inFlight
              stops := rest }

end

end

end Solar.Bus
