/-
This file models how the Python client cuts a message into fragments and puts
the fragments of the firmware together again. The slots of its reassembler are a
dictionary by fragment id; each fragment renews the deadline of its slot.
-/

import Solar.Remote.Frame.Host
import Solar.Remote.Service.Reassembly

namespace Solar.Remote.Client

/-- A `Message`. The `payload_size` of its envelope is kept beside it, for that of an assembled
message has no bound. -/
structure Message where
  envelope : HostEnvelope
  payloadSize : Nat
  payload : Bytes
  deriving DecidableEq

/-- The `FrameError` of `push`, by its text. -/
inductive PushError
  | invalidFragment
  | capacityExhausted
  | noActiveMessage
  | sequenceRejected

def PushError.text : PushError → String
  | .invalidFragment => "invalid fragmented message"
  | .capacityExhausted => "reassembly capacity exhausted"
  | .noActiveMessage => "fragment has no active message"
  | .sequenceRejected => "fragment sequence rejected"

structure FragmentSlot where
  envelope : HostEnvelope
  payload : Bytes := []
  nextIndex : Nat := 0
  deadline : Tick

structure Reassembler where
  maximumMessageSize : Nat
  maximumSlots : Nat
  timeout : Tick
  bounded : 0 < maximumMessageSize ∧ 0 < maximumSlots ∧ 0 < timeout
  slots : AList (fun _ : UInt16 => FragmentSlot) := ∅
  rejected : Nat := 0
  expired : Nat := 0

/-- The readings of the clock during one call. -/
abbrev Clock := Nat → Tick

namespace FragmentSlot

def isLast (envelope : HostEnvelope) : Bool :=
  envelope.fragmentIndex.toNat + 1 = envelope.fragmentCount.toNat

section

variable (slot : FragmentSlot)

/-- The checks of a fragment against its slot. -/
def takes (maximumMessageSize : Nat) (envelope : HostEnvelope) (payload : Bytes) : Bool :=
  envelope.kind = slot.envelope.kind && envelope.sessionEpoch = slot.envelope.sessionEpoch &&
    envelope.target = slot.envelope.target && envelope.requestId = slot.envelope.requestId &&
    envelope.reserved = slot.envelope.reserved &&
    envelope.fragmentCount = slot.envelope.fragmentCount &&
    envelope.fragmentIndex.toNat = slot.nextIndex &&
    Flags.has envelope.flags Flags.final = isLast envelope &&
    slot.payload.length + payload.length ≤ maximumMessageSize

def extend (payload : Bytes) (deadline : Tick) : FragmentSlot :=
  { slot with
    payload := slot.payload ++ payload
    nextIndex := slot.nextIndex + 1
    deadline }

/-- The message of a slot with all fragments. -/
def complete : Message where
  envelope := { slot.envelope with
    flags := (slot.envelope.flags &&& ~~~Flags.fragmented) ||| Flags.final
    payloadSize := UInt16.ofNat slot.payload.length
    fragmentId := 0
    fragmentIndex := 0
    fragmentCount := 1 }
  payloadSize := slot.payload.length
  payload := slot.payload

end

end FragmentSlot

namespace Reassembler

section

variable (reassembler : Reassembler)

/-- The ids of the slots that are due. -/
def due (now : Tick) : List UInt16 :=
  (reassembler.slots.entries.filter fun entry => entry.2.deadline ≤ now).map Sigma.fst

/-- `expire`. -/
def expire (now : Tick) : Reassembler :=
  { reassembler with
    slots := (reassembler.due now).foldl (fun slots key => slots.erase key) reassembler.slots
    expired := reassembler.expired + (reassembler.due now).length }

def reject : Reassembler :=
  { reassembler with rejected := reassembler.rejected + 1 }

/-- The slot a fragment goes to. A first fragment opens one. -/
def place (clock : Clock) (envelope : HostEnvelope) : Except PushError FragmentSlot :=
  match reassembler.slots.lookup envelope.fragmentId with
  | none =>
      if envelope.fragmentIndex ≠ 0 then .error .noActiveMessage
      else if reassembler.slots.entries.length = reassembler.maximumSlots then
        .error .capacityExhausted
      else .ok { envelope, deadline := clock 1 + reassembler.timeout }
  | some slot => if envelope.fragmentIndex = 0 then .error .capacityExhausted else .ok slot

/-- `push`, with what it returns or raises. -/
def push (clock : Clock) (envelope : HostEnvelope) (payload : Bytes) :
    Reassembler × Except PushError (Option Message) :=
  let live := reassembler.expire (clock 0)
  let fragmented := Flags.has envelope.flags Flags.fragmented
  if fragmented = false ∧ envelope.fragmentCount = 1 then
    (live, .ok (some ⟨envelope, envelope.payloadSize.toNat, payload⟩))
  else if fragmented = false ∨ envelope.fragmentCount ≤ 1 ∨ envelope.fragmentId = 0 ∨
      envelope.fragmentCount ≤ envelope.fragmentIndex then
    (live.reject, .error .invalidFragment)
  else
    match live.place clock envelope with
    | .error reason => (live.reject, .error reason)
    | .ok slot =>
        if slot.takes live.maximumMessageSize envelope payload = false then
          ({ live with slots := live.slots.erase envelope.fragmentId }.reject,
            .error .sequenceRejected)
        else
          let extended := slot.extend payload (clock 2 + live.timeout)
          if FragmentSlot.isLast envelope = false then
            ({ live with slots := live.slots.insert envelope.fragmentId extended }, .ok none)
          else
            ({ live with slots := live.slots.erase envelope.fragmentId },
              .ok (some extended.complete))

end

end Reassembler

/-! ### The queue -/

/-- The `FrameError` of `_queue`, by its text. -/
inductive QueueError
  | messageTooLarge
  | frameTooSmall
  | tooManyFragments
  | payloadTooLarge
  deriving DecidableEq

def QueueError.text : QueueError → String
  | .messageTooLarge => "logical message exceeds negotiated maximum"
  | .frameTooSmall => "negotiated frame size cannot carry a payload"
  | .tooManyFragments => "logical message requires too many fragments"
  | .payloadTooLarge => "payload too large"

/-- What `_queue` uses of a client. The frames wait as they are before they are encoded. -/
structure Sender where
  maximumFrameSize : Nat := 1024
  maximumMessageSize : Nat := 4096
  frameSequence : UInt32 := 0
  fragmentId : UInt16 := 0
  outgoing : List Decoded := []

namespace Sender

section

variable (sender : Sender)

def nextFrame : Sender :=
  { sender with frameSequence := sender.frameSequence + 1 }

def nextFragment : Sender :=
  { sender with fragmentId := if sender.fragmentId + 1 = 0 then 1 else sender.fragmentId + 1 }

def maximumPayload : Nat := sender.maximumFrameSize - envelopeSize - crcSize

/-- `encode_frame` and the queue. -/
def append (envelope : Envelope) (payload : Bytes) : Except QueueError Sender :=
  if payload.length > 0xFFFF then .error .payloadTooLarge
  else
    .ok { sender with outgoing := sender.outgoing ++
      [⟨{ envelope with payloadSize := UInt16.ofNat payload.length }, payload⟩] }

/-- The envelope of a fragment. -/
def physical (envelope : Envelope) (count index : Nat) : Envelope :=
  let flags := envelope.flags ||| Flags.fragmented
  { envelope with
    flags := if index + 1 = count then flags ||| Flags.final else flags
    frameSequence := if index = 0 then envelope.frameSequence else sender.frameSequence
    fragmentId := sender.fragmentId
    fragmentIndex := UInt8.ofNat index
    fragmentCount := UInt8.ofNat count }

end

/-- One round of the loop of `_queue`. -/
def appendPart (envelope : Envelope) (payload : Bytes) (count : Nat) (sender : Sender)
    (index : Nat) : Except QueueError Sender :=
  let numbered := if index = 0 then sender else sender.nextFrame
  numbered.append (numbered.physical envelope count index)
    ((payload.drop (index * sender.maximumPayload)).take sender.maximumPayload)

/-- `_queue`. -/
def queue (sender : Sender) (envelope : Envelope) (payload : Bytes) : Except QueueError Sender :=
  if payload.length > sender.maximumMessageSize then .error .messageTooLarge
  else if sender.maximumPayload = 0 then .error .frameTooSmall
  else if payload.length ≤ sender.maximumPayload then sender.append envelope payload
  else
    let count := (payload.length + sender.maximumPayload - 1) / sender.maximumPayload
    if count > 0xFF then .error .tooManyFragments
    else (List.range count).foldlM (appendPart envelope payload count) sender.nextFragment

end Sender

end Solar.Remote.Client
