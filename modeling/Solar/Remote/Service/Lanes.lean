/-
This file accounts for the frames in the output lanes of a link. The service selects
and encodes the head of a lane under the lock, hands the frame to the link without
it, and pops the head when the link has answered; meanwhile other threads transmit.

A lane that is full turns a frame away, except that the telemetry lane overwrites
its newest frame. If the lane has room for one frame only, that may be the frame
the link is being handed: then the link sends the frame that is counted as
replaced, and the new frame is popped in its place and sent by nobody.
-/

import Solar.Library.Custody
import Solar.Library.Transition
import Solar.Remote.Fragments.Sending

namespace Solar.Remote

open List

/-! ### What happens to a lane -/

/-- What an operation does to the frames of a lane. -/
inductive LaneEffect
  | accept (slot : OutboundSlot)
  | replace (slot : OutboundSlot)
  | refuse
  | displace (message : OutboundMessage)
  | drop
  | leave (number : Nat) (frame : TxFrame)

variable {limits : ServiceLimits}

section

/-- The effect of `transmit`, and the lane it is on. -/
def Output.effect? (output : Output limits) (slot : OutboundSlot) :
    Option (OutputLane × LaneEffect) :=
  let lane := laneFor slot.kind slot.requestId
  if slot.payload.length > limits.maxMessageBytes then none
  else if slot.payload.length > limits.maxFramePayload then
    if fragmentCount limits slot.payload > 255 then none
    else
      match output.messageSlot? lane with
      | some (index, true) =>
          (output.messages.get? index).map fun message => (.bulk, .displace message)
      | _ => none
  else if (output.lanes lane).isFull = false then some (lane, .accept slot)
  else if lane ≠ .telemetry then some (lane, .refuse)
  else some (lane, .replace slot)

/-- The effect of `stage_fragment`. -/
def Output.stageEffect? (output : Output limits) : Option (OutputLane × LaneEffect) :=
  match output.messages.find? OutboundMessage.active with
  | none => none
  | some (_, message) =>
      if (output.lanes message.lane).isFull = false then
        some (message.lane, .accept (message.fragment limits))
      else none

/-- The effect of the first section of `try_start_transmit`. -/
def LinkState.selectEffect? (link : LinkState limits) (encodes : Bool) :
    Option (OutputLane × LaneEffect) :=
  if link.transmitter.inFlight ∨ link.connected = false ∨ encodes = true then none
  else link.selectedLane?.map fun lane => (lane, .drop)

end

/-! ### Histories -/

/-- Where the frames of a lane are, the frames that the link accepted, the frames that were popped
for them, the transmissions that were turned away, and the messages that were overwritten before
all of their fragments were admitted. -/
structure LaneHistory where
  ledger : Custody.Ledger OutboundSlot := {}
  accepted : List TxFrame := []
  popped : List Nat := []
  refused : Nat := 0
  displaced : List OutboundMessage := []

def LaneHistory.record (history : LaneHistory) : LaneEffect → LaneHistory
  | .accept slot => { history with ledger := history.ledger.accept slot }
  | .replace slot => { history with ledger := history.ledger.replaceLast slot }
  | .refuse => { history with refused := history.refused + 1 }
  | .displace message => { history with displaced := history.displaced ++ [message] }
  | .drop => { history with ledger := history.ledger.drop }
  | .leave number frame =>
      { history with
        ledger := history.ledger.hand number
        accepted := history.accepted ++ [frame]
        popped := history.popped ++ history.ledger.waiting.head?.toList }

/-- The frame is the encoding of this slot. -/
structure TxFrame.Carries (frame : TxFrame) (slot : OutboundSlot) : Prop where
  payload : frame.payload = slot.payload
  kind : frame.envelope.kind = slot.kind
  target : frame.envelope.target = slot.target
  requestId : frame.envelope.requestId = slot.requestId
  reserved : frame.envelope.reserved = slot.reserved
  fragmentId : frame.envelope.fragmentId = slot.fragmentId
  fragmentIndex : frame.envelope.fragmentIndex = slot.fragmentIndex
  fragmentCount : frame.envelope.fragmentCount = slot.fragmentCount

/-- Every frame of a lane is accounted for: it waits, was handed to the link, or is counted as
replaced or dropped; the link got what was admitted, in order, and what was popped for it. -/
structure LaneHistory.Accounts {depth : Nat} (history : LaneHistory) (name : OutputLane)
    (lane : OutboundLane depth) : Prop where
  ledger : history.ledger.Accounts lane.slots
  carried : Forall₂ (fun number (frame : TxFrame) => ∃ slot,
    history.ledger.admitted[number]? = some slot ∧ frame.Carries slot)
    history.ledger.handed history.accepted
  popped : history.popped = history.ledger.handed
  replaced : lane.record.replaced =
    UInt32.ofNat (history.ledger.replaced.length + history.displaced.length)
  dropped : lane.record.dropped = UInt32.ofNat (history.ledger.dropped.length + history.refused)
  telemetry : name ≠ .telemetry → history.ledger.replaced = []
  displaced : ∀ message ∈ history.displaced, laneFor message.kind message.requestId = .telemetry

/-! ### The system -/

/-- The frame that the link is handed, the number of its slot, and whether the slot has been
overwritten since it was encoded. -/
structure Sending where
  frame : TxFrame
  number : Nat
  overwritten : Bool := false

/-- A link whose lanes are filled by other threads while the service sends. -/
structure OutputSystem (limits : ServiceLimits) where
  link : LinkState limits := { connected := true }
  sending : Option Sending := none
  history : OutputLane → LaneHistory := fun _ => {}

inductive OutputLabel (limits : ServiceLimits)
  | transmit (slot : OutboundSlot)
  | answer (responses : Responses limits.maxRequests)
  | stageResponse
  | stageFragment
  | select (encodes : Bool)
  | settle (disposition : TxDisposition)
  | complete (handle : LeaseHandle)

namespace OutputSystem

variable (state : OutputSystem limits)

def recorded : Option (OutputLane × LaneEffect) → OutputLane → LaneHistory
  | none => state.history
  | some (lane, effect) => Function.update state.history lane ((state.history lane).record effect)

/-- The transmission overwrites the slot of the frame that the link is handed: it is the only one
of a full telemetry lane. -/
def overwrites (slot : OutboundSlot) (sending : Sending) : Bool :=
  match state.link.output.effect? slot with
  | some (_, .replace _) =>
      sending.frame.lane = .telemetry && (state.link.output.lanes .telemetry).slots.length = 1
  | _ => false

/-- A call of `transmit` from any thread. -/
def transmit (slot : OutboundSlot) : OutputSystem limits where
  link := state.link.transmit slot
  sending := state.sending.map fun sending =>
    { sending with overwritten := sending.overwritten || state.overwrites slot sending }
  history := state.recorded (state.link.output.effect? slot)

/-- `stage_response`. -/
def stageResponse : OutputSystem limits where
  link := state.link.stageResponse
  sending := none
  history := state.recorded <| state.link.responses.unstaged?.bind fun unstaged =>
      state.link.output.effect? (LinkState.responseFrame unstaged.2)

/-- `stage_fragment`. -/
def stageFragment : OutputSystem limits where
  link := { state.link with output := state.link.output.stageFragment }
  sending := none
  history := state.recorded state.link.output.stageEffect?

/-- The first section of `try_start_transmit`. -/
def select (encodes : Bool) : OutputSystem limits :=
  let selected := state.link.selectFrame encodes
  { link := selected.1
    sending := selected.2.map fun frame =>
      { frame, number := (state.history frame.lane).ledger.waiting.headD 0 }
    history := state.recorded (state.link.selectEffect? encodes) }

/-- What the last section of `try_start_transmit` does to the lane. -/
def settleEffect? (sending : Sending) : TxDisposition → Option (OutputLane × LaneEffect)
  | .accepted => some (sending.frame.lane, .leave sending.number sending.frame)
  | .busy => none
  | .refused => some (sending.frame.lane, .drop)

/-- The last section of `try_start_transmit`. -/
def settle (sending : Sending) (disposition : TxDisposition) : OutputSystem limits where
  link := state.link.settleTransmit sending.frame.lane disposition
  sending := none
  history := state.recorded (settleEffect? sending disposition)

/-- One step. The service does one thing after another; the other threads transmit and answer
requests at any time. -/
def step : OutputLabel limits → Option (OutputSystem limits)
  | .transmit slot => some (state.transmit slot)
  | .answer responses => some { state with link := { state.link with responses } }
  | .stageResponse => if state.sending.isSome then none else some state.stageResponse
  | .stageFragment => if state.sending.isSome then none else some state.stageFragment
  | .select encodes => if state.sending.isSome then none else some (state.select encodes)
  | .settle disposition => state.sending.map fun sending => state.settle sending disposition
  | .complete handle =>
      if state.sending.isSome then none
      else some { state with link := state.link.txComplete handle }

/-- The link does not accept a frame whose slot was overwritten while it was handed over. -/
def spares : OutputLabel limits → Bool
  | .settle .accepted => state.sending.all fun sending => !sending.overwritten
  | _ => true

/-- Every frame of every lane is accounted for. -/
def Accounted : Prop :=
  ∀ lane, (state.history lane).Accounts lane (state.link.output.lanes lane)

end OutputSystem

/-- The step system of a link's output. -/
def outputMachine (limits : ServiceLimits) :
    Transition.Machine (OutputSystem limits) (OutputLabel limits) :=
  ⟨OutputSystem.step⟩

/-! ### The effects on the lanes -/

variable {depth : Nat}

namespace OutboundLane

/-- The same frames wait, and as many are counted as lost. -/
structure Same (lane next : OutboundLane depth) : Prop where
  slots : next.slots = lane.slots
  replaced : next.record.replaced = lane.record.replaced
  dropped : next.record.dropped = lane.record.dropped

theorem Same.refl (lane : OutboundLane depth) : lane.Same lane := ⟨rfl, rfl, rfl⟩

/-- What an effect does to the frames and the counts of a lane. -/
inductive Applies (name : OutputLane) (lane next : OutboundLane depth) : LaneEffect → Prop
  | accept (slot : OutboundSlot) (slots : next.slots = lane.slots ++ [slot])
      (replaced : next.record.replaced = lane.record.replaced)
      (dropped : next.record.dropped = lane.record.dropped) : Applies name lane next (.accept slot)
  | replace (before : List OutboundSlot) (last slot : OutboundSlot) (telemetry : name = .telemetry)
      (here : lane.slots = before ++ [last]) (slots : next.slots = before ++ [slot])
      (replaced : next.record.replaced = lane.record.replaced + 1)
      (dropped : next.record.dropped = lane.record.dropped) : Applies name lane next (.replace slot)
  | refuse (slots : next.slots = lane.slots)
      (replaced : next.record.replaced = lane.record.replaced)
      (dropped : next.record.dropped = lane.record.dropped + 1) : Applies name lane next .refuse
  | displace (message : OutboundMessage)
      (data : laneFor message.kind message.requestId = .telemetry)
      (slots : next.slots = lane.slots)
      (replaced : next.record.replaced = lane.record.replaced + 1)
      (dropped : next.record.dropped = lane.record.dropped) :
      Applies name lane next (.displace message)
  | drop (slot : OutboundSlot) (here : lane.slots = slot :: next.slots)
      (replaced : next.record.replaced = lane.record.replaced)
      (dropped : next.record.dropped = lane.record.dropped + 1) : Applies name lane next .drop
  | leave (slot : OutboundSlot) (number : Nat) (frame : TxFrame)
      (here : lane.slots = slot :: next.slots)
      (replaced : next.record.replaced = lane.record.replaced)
      (dropped : next.record.dropped = lane.record.dropped) :
      Applies name lane next (.leave number frame)

variable {lane next after : OutboundLane depth}

theorem Same.trans (first : lane.Same next) (second : next.Same after) : lane.Same after :=
  ⟨second.slots.trans first.slots, second.replaced.trans first.replaced,
    second.dropped.trans first.dropped⟩

theorem Applies.trans {name : OutputLane} {effect : LaneEffect}
    (applies : lane.Applies name next effect) (same : next.Same after) :
    lane.Applies name after effect := by
  obtain ⟨slots, replaced, dropped⟩ := same
  cases applies with
  | accept slot here one two =>
    exact .accept slot (slots.trans here) (replaced.trans one) (dropped.trans two)
  | replace before last slot telemetry start here one two =>
    exact .replace before last slot telemetry start (slots.trans here) (replaced.trans one)
      (dropped.trans two)
  | refuse here one two => exact .refuse (slots.trans here) (replaced.trans one) (dropped.trans two)
  | displace message data here one two =>
    exact .displace message data (slots.trans here) (replaced.trans one) (dropped.trans two)
  | drop slot here one two =>
    exact .drop slot (slots ▸ here) (replaced.trans one) (dropped.trans two)
  | leave slot number frame here one two =>
    exact .leave slot number frame (slots ▸ here) (replaced.trans one) (dropped.trans two)

end OutboundLane

namespace LaneHistory.Accounts

variable {history : LaneHistory} {name : OutputLane} {lane next : OutboundLane depth}
  {effect : LaneEffect}

section

variable (accounts : history.Accounts name lane)

include accounts

theorem congr (same : lane.Same next) :
    history.Accounts name next where
  ledger := same.slots ▸ accounts.ledger
  __ := accounts
  replaced := same.replaced.trans accounts.replaced
  dropped := same.dropped.trans accounts.dropped

theorem carried_append (item : OutboundSlot) :
    Forall₂ (fun number (frame : TxFrame) => ∃ slot,
      (history.ledger.admitted ++ [item])[number]? = some slot ∧ frame.Carries slot)
      history.ledger.handed history.accepted :=
  accounts.carried.imp fun _ _ ⟨slot, here, carries⟩ =>
    ⟨slot, (List.getElem?_append_left (List.getElem?_eq_some_iff.mp here).1).trans here, carries⟩

/-- An effect keeps the accounts, if a frame that leaves is the head. -/
theorem record (applies : lane.Applies name next effect)
    (leaves : ∀ number frame, effect = .leave number frame →
      history.ledger.waiting.head? = some number ∧
        ∃ slot, history.ledger.admitted[number]? = some slot ∧ frame.Carries slot) :
    (history.record effect).Accounts name next := by
  cases applies with
  | accept slot slots replaced dropped =>
    refine ⟨?_, accounts.carried_append slot, accounts.popped, replaced.trans accounts.replaced,
      dropped.trans accounts.dropped, accounts.telemetry, accounts.displaced⟩
    rw [slots]
    exact accounts.ledger.accept slot
  | replace before last slot telemetry here slots replaced dropped =>
    have ledger := accounts.ledger
    rw [here] at ledger
    refine ⟨?_, accounts.carried_append slot, accounts.popped, ?_,
      dropped.trans accounts.dropped, fun other => absurd telemetry other, accounts.displaced⟩
    · rw [slots]
      exact ledger.replaceLast slot
    · obtain ⟨waiting, number, split, -⟩ := ledger.exists_last
      rw [replaced, accounts.replaced]
      show _ = UInt32.ofNat ((history.ledger.replaced ++
        history.ledger.waiting.getLast?.toList).length + history.displaced.length)
      rw [split, getLast?_concat, length_append, Nat.add_right_comm]
      exact (UInt32.ofNat_add _ 1).symm
  | refuse slots replaced dropped =>
    refine ⟨?_, accounts.carried, accounts.popped, replaced.trans accounts.replaced, ?_,
      accounts.telemetry, accounts.displaced⟩
    · rw [slots]
      exact accounts.ledger
    · rw [dropped, accounts.dropped]
      exact (UInt32.ofNat_add _ 1).symm
  | displace message data slots replaced dropped =>
    refine ⟨?_, accounts.carried, accounts.popped, ?_, dropped.trans accounts.dropped,
      accounts.telemetry, ?_⟩
    · rw [slots]
      exact accounts.ledger
    · rw [replaced, accounts.replaced]
      show _ = UInt32.ofNat (_ + (history.displaced ++ [message]).length)
      rw [length_append]
      exact (UInt32.ofNat_add _ 1).symm
    · exact forall_mem_append.mpr ⟨accounts.displaced, forall_mem_singleton.mpr data⟩
  | drop slot here replaced dropped =>
    have ledger := accounts.ledger
    rw [here] at ledger
    refine ⟨ledger.drop, accounts.carried, accounts.popped, replaced.trans accounts.replaced, ?_,
      accounts.telemetry, accounts.displaced⟩
    obtain ⟨number, rest, split, -, -⟩ := ledger.exists_head
    rw [dropped, accounts.dropped]
    show _ = UInt32.ofNat ((history.ledger.dropped ++
      history.ledger.waiting.head?.toList).length + history.refused)
    rw [split, length_append, Nat.add_right_comm]
    exact (UInt32.ofNat_add _ 1).symm
  | leave slot number frame here replaced dropped =>
    obtain ⟨first, carries⟩ := leaves number frame rfl
    have ledger := accounts.ledger
    rw [here] at ledger
    refine ⟨ledger.hand first, ?_, ?_, replaced.trans accounts.replaced,
      dropped.trans accounts.dropped, accounts.telemetry, accounts.displaced⟩
    · exact rel_append accounts.carried (.cons carries .nil)
    · show history.popped ++ history.ledger.waiting.head?.toList = history.ledger.handed ++ [number]
      rw [accounts.popped, first]
      rfl

theorem not_record_leave {number : Nat} {frame : TxFrame}
    (applies : lane.Applies name next (.leave number frame))
    (other : history.ledger.waiting.head? ≠ some number) :
    ¬ (history.record (.leave number frame)).Accounts name next := by
  cases applies with
  | leave slot _ _ here replaced dropped =>
    have ledger := accounts.ledger
    rw [here] at ledger
    exact fun after => ledger.not_hand other after.ledger

end

end LaneHistory.Accounts

end Solar.Remote
