/-
This file models the output side of a link: five bounded lanes of encoded-to-be
frames, served in a fixed order, and a small pool of messages too long for one
frame, which are moved into the bulk lane a fragment at a time.

The source keeps each lane as a ring; the model keeps the queued slots from the
head on, with the bound on their number as a field of the lane. A full lane
refuses a frame, except that the telemetry lane replaces its newest one.
-/

import Solar.Library.Pool
import Solar.Remote.Protocol

namespace Solar.Remote

open Option

/-- The configured sizes of the service's fixed tables and frames, with the lower ends of their
configured ranges that matter. -/
structure ServiceLimits where
  maxRequests : Nat
  responseCacheBytes : Nat
  responseCacheBytes_ge : 64 ≤ responseCacheBytes
  maxMessageBytes : Nat
  maxMessageBytes_ge : 64 ≤ maxMessageBytes
  maxFrameBytes : Nat
  maxFrameBytes_ge : 64 ≤ maxFrameBytes
  laneDepth : Nat
  laneDepth_pos : 0 < laneDepth
  outboundMessageSlots : Nat
  features : UInt32 := 0x0F

/-- The payload one frame has room for. -/
def ServiceLimits.maxFramePayload (limits : ServiceLimits) : Nat :=
  limits.maxFrameBytes - envelopeSize - crcSize

/-- The lanes in the order they are served. -/
inductive OutputLane
  | control | response | important | telemetry | bulk
  deriving DecidableEq

def laneFor (kind : Kind) (requestId : UInt32) : OutputLane :=
  match kind with
  | .clientHello | .serverHello | .keepalive | .ping | .pong | .sessionReset => .control
  | .credit => if requestId = 0 then .control else .response
  | .response => .response
  | .error => if requestId = 0 then .control else .response
  | .data => .telemetry
  | _ => .important

/-- A frame that waits in a lane. -/
structure OutboundSlot where
  kind : Kind := .keepalive
  flags : Flags := Flags.none
  requestId : UInt32 := 0
  target : UInt32 := 0
  reserved : UInt32 := 0
  payload : Bytes := []
  fragmentId : UInt16 := 0
  fragmentIndex : UInt8 := 0
  fragmentCount : UInt8 := 1
  deriving DecidableEq

/-- A message that is sent in fragments. -/
structure OutboundMessage where
  active : Bool := false
  lane : OutputLane := .bulk
  kind : Kind := .data
  flags : Flags := Flags.none
  requestId : UInt32 := 0
  target : UInt32 := 0
  reserved : UInt32 := 0
  payload : Bytes := []
  offset : Nat := 0
  fragmentId : UInt16 := 0
  fragmentIndex : UInt8 := 0
  fragmentCount : UInt8 := 0

structure LaneRecord where
  occupied : Bool := false
  transmitting : Bool := false
  highWater : Nat := 0
  admitted : UInt32 := 0
  replaced : UInt32 := 0
  dropped : UInt32 := 0

/-- One lane: the waiting frames, oldest first. -/
structure OutboundLane (depth : Nat) where
  slots : List OutboundSlot := []
  bounded : slots.length ≤ depth := by exact Nat.zero_le _
  record : LaneRecord := {}

namespace OutboundLane

variable {depth : Nat}

def isFull (lane : OutboundLane depth) : Bool := lane.slots.length = depth

variable {lane : OutboundLane depth}

theorem length_lt_of_not_isFull (room : lane.isFull = false) : lane.slots.length < depth :=
  Nat.lt_of_le_of_ne lane.bounded (of_decide_eq_false room)

section

variable (lane : OutboundLane depth)

/-- Append a frame; a full lane refuses it. -/
def push? (slot : OutboundSlot) : Option (OutboundLane depth) :=
  if room : lane.isFull = false then
    some {
      slots := lane.slots ++ [slot]
      bounded := by
        rw [List.length_append]
        exact length_lt_of_not_isFull room
      record := { lane.record with
        admitted := lane.record.admitted + 1
        highWater := max lane.record.highWater (lane.slots.length + 1)
        occupied := true } }
  else none

/-- Overwrite the newest frame of a lane. -/
def replaceLast (slot : OutboundSlot) : OutboundLane depth where
  slots := lane.slots.set (lane.slots.length - 1) slot
  bounded := by
    rw [List.length_set]
    exact lane.bounded
  record := { lane.record with replaced := lane.record.replaced + 1, occupied := true }

/-- Count a refused frame. -/
def drop : OutboundLane depth :=
  { lane with record := { lane.record with dropped := lane.record.dropped + 1 } }

end

theorem push?_eq_some {pushed : OutboundLane depth} {slot : OutboundSlot}
    (queued : lane.push? slot = some pushed) : pushed.slots = lane.slots ++ [slot] := by
  unfold push? at queued
  split at queued
  · exact some.inj queued ▸ rfl
  · exact nomatch queued

theorem push?_isSome_of_not_isFull (slot : OutboundSlot) (room : lane.isFull = false) :
    (lane.push? slot).isSome = true := by
  unfold push?
  rw [dif_pos room]
  rfl

end OutboundLane

/-- The output side of a link. -/
structure Output (limits : ServiceLimits) where
  lanes : OutputLane → OutboundLane limits.laneDepth := fun _ => {}
  messages : Pool OutboundMessage limits.outboundMessageSlots := Pool.fill _ {}
  nextFragmentId : UInt16 := 0

namespace Output

variable {limits : ServiceLimits}

section

variable (output : Output limits)

def setLane (lane : OutputLane) (content : OutboundLane limits.laneDepth) : Output limits :=
  { output with lanes := fun other => if other = lane then content else output.lanes other }

/-- The message slot a long message is stored in: a free one, or for telemetry the first that
holds a Data message. The flag says whether an unsent message is lost. -/
def messageSlot? (lane : OutputLane) : Option (Nat × Bool) :=
  match output.messages.find? fun message => !message.active with
  | some (index, _) => some (index, false)
  | none =>
      if lane ≠ .telemetry then none
      else
        (output.messages.find? fun message => message.active && message.kind == .data).map
          fun found => (found.1, true)

/-- The id after the last one used; zero is skipped. -/
def followingFragmentId : UInt16 :=
  if output.nextFragmentId + 1 = 0 then output.nextFragmentId + 2 else output.nextFragmentId + 1

end

/-- The number of frames a payload needs. -/
def fragmentCount (limits : ServiceLimits) (payload : Bytes) : Nat :=
  (payload.length + limits.maxFramePayload - 1) / limits.maxFramePayload

section

variable (output : Output limits)

section

variable (slot : OutboundSlot)

/-- The long branch of `transmit`. -/
def transmitMessage : Output limits × Bool :=
  if fragmentCount limits slot.payload > 255 then (output, false)
  else
    match output.messageSlot? (laneFor slot.kind slot.requestId) with
    | none => (output, false)
    | some (index, replaced) =>
        let bulk := output.lanes .bulk
        let counted := if replaced then
            output.setLane .bulk { bulk with
              record := { bulk.record with replaced := bulk.record.replaced + 1 } }
          else output
        ({ counted with
            nextFragmentId := output.followingFragmentId
            messages := output.messages.put index {
              active := true
              lane := .bulk
              kind := slot.kind
              flags := slot.flags
              requestId := slot.requestId
              target := slot.target
              reserved := slot.reserved
              payload := slot.payload
              fragmentId := output.followingFragmentId
              fragmentCount := UInt8.ofNat (fragmentCount limits slot.payload) } }, true)

/-- The short branch of `transmit`. -/
def transmitFrame : Output limits × Bool :=
  let lane := laneFor slot.kind slot.requestId
  match (output.lanes lane).push? slot with
  | some pushed => (output.setLane lane pushed, true)
  | none =>
      if lane ≠ .telemetry then (output.setLane lane (output.lanes lane).drop, false)
      else (output.setLane lane ((output.lanes lane).replaceLast slot), true)

/-- `transmit`: the frame is queued on the lane of its kind; the flag says whether it was. -/
def transmit : Output limits × Bool :=
  if slot.payload.length > limits.maxMessageBytes then (output, false)
  else if slot.payload.length > limits.maxFramePayload then output.transmitMessage slot
  else output.transmitFrame slot

end

/-- `stage_fragment`: the first unsent message moves its next fragment into its lane. -/
def stageFragment : Output limits :=
  match output.messages.find? OutboundMessage.active with
  | none => output
  | some (index, message) =>
      let size := min (message.payload.length - message.offset) limits.maxFramePayload
      let slot : OutboundSlot := {
        kind := message.kind
        flags := message.flags ||| Flags.fragmented
        requestId := message.requestId
        target := message.target
        reserved := message.reserved
        payload := (message.payload.drop message.offset).take size
        fragmentId := message.fragmentId
        fragmentIndex := message.fragmentIndex
        fragmentCount := message.fragmentCount }
      match (output.lanes message.lane).push? slot with
      | none => output
      | some pushed =>
          { output.setLane message.lane pushed with
            messages := output.messages.put index { message with
              offset := message.offset + size
              fragmentIndex := message.fragmentIndex + 1
              active := message.offset + size ≠ message.payload.length } }

/-- The lanes and the messages are dropped; fragment ids are not reused. -/
def clear : Output limits :=
  { nextFragmentId := output.nextFragmentId }

end

/-! ### What a transmission queues -/

@[simp] theorem lanes_setLane_self (output : Output limits) (lane : OutputLane)
    (content : OutboundLane limits.laneDepth) : (output.setLane lane content).lanes lane = content :=
  if_pos rfl

theorem messageSlot?_lt {output : Output limits} {lane : OutputLane} {index : Nat}
    {replaced : Bool} (found : output.messageSlot? lane = some (index, replaced)) :
    index < limits.outboundMessageSlots := by
  unfold messageSlot? at found
  split at found
  · rename_i place _ free
    obtain ⟨rfl, _⟩ := Prod.mk.inj (some.inj found)
    exact Pool.get?_lt (Pool.find?_eq_some_iff.mp free).1
  · split at found
    · exact nomatch found
    · obtain ⟨⟨place, message⟩, held, same⟩ := map_eq_some_iff.mp found
      obtain ⟨rfl, _⟩ := Prod.mk.inj same
      exact Pool.get?_lt (Pool.find?_eq_some_iff.mp held).1

end Output

end Solar.Remote
