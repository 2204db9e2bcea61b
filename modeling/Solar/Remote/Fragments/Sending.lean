/-
This file follows one message through the output side of the firmware, from the
call of `transmit` to the frames that the link accepts, among whatever else is
transmitted. A message of one frame is known by its place in its lane; a longer
one by its fragment id. The fragments that are sent, those that wait in the
bulk lane and those still to be cut are at all times the whole message, in
order, unless the message is displaced or its id is given out again.
-/

import Solar.Remote.Fragments.Parts
import Solar.Remote.Service.Link

namespace Solar.Remote

open List hiding map_map
open Option hiding map map_map

/-! ### Events -/

/-- The arguments of `transmit`, as a frame in a lane. -/
def LogicalMessage.slot (message : LogicalMessage) : OutboundSlot where
  kind := message.kind
  flags := message.flags
  requestId := message.requestId
  target := message.target
  reserved := message.reserved
  payload := message.payload

/-- What happens on the output side of a link within a session: a message is handed over, a frame
is offered to the link, which accepts it or is busy, or the link has sent a frame. -/
inductive SendEvent
  | transmit (message : LogicalMessage)
  | start (accepted : Bool)
  | complete (handle : LeaseHandle)

/-- How the frames of a message are known: by their fragment id, or by the place in a lane. -/
inductive Trace
  | fragments (id : UInt16)
  | place (lane : OutputLane) (ahead : Nat)
  | done

/-- The frame as it is decoded. -/
def TxFrame.decoded (frame : TxFrame) : Decoded where
  envelope := { frame.envelope with payloadSize := UInt16.ofNat frame.payload.length }
  payload := frame.payload

/-- The frame is one of the message. -/
def Trace.owns (trace : Trace) (frame : TxFrame) : Bool :=
  match trace with
  | .fragments id => frame.envelope.fragmentId = id
  | .place lane ahead => frame.lane = lane && ahead = 0
  | .done => false

/-- The trace once a frame has left, if one has. -/
def Trace.after (trace : Trace) (frame : Option TxFrame) : Trace :=
  match trace with
  | .fragments id => .fragments id
  | .place lane ahead =>
      if (frame.map TxFrame.lane) ≠ some lane then .place lane ahead
      else if ahead = 0 then .done
      else .place lane (ahead - 1)
  | .done => .done

variable {limits : ServiceLimits}

namespace LinkState

section

variable (link : LinkState limits)

/-- The link once responses and fragments are staged. -/
def staged : LinkState limits :=
  { link.stageResponse with output := link.stageResponse.output.stageFragment }

/-- The trace of a message that is transmitted next. -/
def traceOf (message : LogicalMessage) : Trace :=
  if message.payload.length > limits.maxFramePayload then
    .fragments link.output.followingFragmentId
  else
    let lane := laneFor message.kind message.requestId
    .place lane (min (link.output.lanes lane).slots.length (limits.laneDepth - 1))

/-- An event, with the frame that the link accepts. -/
def send (link : LinkState limits) : SendEvent → LinkState limits × Option TxFrame
  | .transmit message => (link.transmit message.slot, none)
  | .start accepted =>
      (link.tryStartTransmit true (if accepted then .accepted else .busy),
        if accepted then (link.staged.selectFrame true).2 else none)
  | .complete handle => (link.txComplete handle, none)

/-- The state after a list of events, the trace, and the accepted frames with a mark on those of
the message. -/
def sendAll (link : LinkState limits) (trace : Trace) :
    List SendEvent → LinkState limits × Trace × List (Bool × TxFrame)
  | [] => (link, trace, [])
  | event :: rest =>
      let sent := link.send event
      let later := sent.1.sendAll (trace.after sent.2) rest
      (later.1, later.2.1, sent.2.toList.map (fun frame => (trace.owns frame, frame)) ++ later.2.2)

/-- The event overwrites the message, or gives its id to another one. -/
def Disturbs (event : SendEvent) : Trace → Prop
  | .fragments id =>
      ((link.send event).1.output.nextFragmentId = id ∧ link.output.nextFragmentId ≠ id) ∨
        ∃ message index held, event = .transmit message ∧
          message.payload.length > limits.maxFramePayload ∧
          link.output.messageSlot? (laneFor message.kind message.requestId) = some (index, true) ∧
          link.output.messages.get? index = some held ∧ held.fragmentId = id
  | .place lane ahead =>
      ∃ message, event = .transmit message ∧ lane = .telemetry ∧
        laneFor message.kind message.requestId = lane ∧ (link.output.lanes lane).isFull = true ∧
        ahead + 1 = (link.output.lanes lane).slots.length
  | .done => False

/-- No event of a run disturbs the message. -/
def Undisturbed (link : LinkState limits) (trace : Trace) : List SendEvent → Prop
  | [] => True
  | event :: rest =>
      ¬link.Disturbs event trace ∧
        (link.send event).1.Undisturbed (trace.after (link.send event).2) rest

/-- No frame with the id waits, and no message with it is being cut. -/
def Unused (id : UInt16) : Prop :=
  (∀ lane, ∀ slot ∈ (link.output.lanes lane).slots, slot.fragmentId ≠ id) ∧
    ∀ index held, link.output.messages.get? index = some held → held.active = true →
      held.fragmentId ≠ id

/-- The sender holds nothing of the message any more. -/
def Finished : Trace → Prop
  | .fragments id => link.Unused id
  | .place _ _ => False
  | .done => True

end

end LinkState

/-! ### What the operations of the output do -/

variable {output next : Output limits}

namespace Output

variable {slot : OutboundSlot}

/-- The message that `transmit` stores. -/
def outbound (output : Output limits) (slot : OutboundSlot) : OutboundMessage where
  active := true
  lane := .bulk
  kind := slot.kind
  flags := slot.flags
  requestId := slot.requestId
  target := slot.target
  reserved := slot.reserved
  payload := slot.payload
  fragmentId := output.followingFragmentId
  fragmentCount := UInt8.ofNat (fragmentCount limits slot.payload)

/-- The same frames wait and the same messages are being cut. -/
structure Same (output next : Output limits) : Prop where
  lanes : ∀ lane, (next.lanes lane).slots = (output.lanes lane).slots
  messages : next.messages = output.messages
  nextFragmentId : next.nextFragmentId = output.nextFragmentId

/-- The frames of one lane change, and nothing else. -/
structure Changes (output next : Output limits) (lane : OutputLane) (slots : List OutboundSlot) :
    Prop where
  here : (next.lanes lane).slots = slots
  others : ∀ other, other ≠ lane → (next.lanes other).slots = (output.lanes other).slots
  messages : next.messages = output.messages
  nextFragmentId : next.nextFragmentId = output.nextFragmentId

/-- What `transmit` does, and whether it succeeds. -/
inductive Queued (output : Output limits) (slot : OutboundSlot) (next : Output limits) : Bool → Prop
  | refused (same : Same output next) : Queued output slot next false
  | pushed (short : slot.payload.length ≤ limits.maxFramePayload)
      (room : (output.lanes (laneFor slot.kind slot.requestId)).isFull = false)
      (changes : Changes output next (laneFor slot.kind slot.requestId)
        ((output.lanes (laneFor slot.kind slot.requestId)).slots ++ [slot])) :
      Queued output slot next true
  | replaced (short : slot.payload.length ≤ limits.maxFramePayload)
      (telemetry : laneFor slot.kind slot.requestId = .telemetry)
      (full : (output.lanes .telemetry).isFull = true)
      (changes : Changes output next .telemetry
        ((output.lanes .telemetry).slots.set ((output.lanes .telemetry).slots.length - 1) slot)) :
      Queued output slot next true
  | stored (long : slot.payload.length > limits.maxFramePayload)
      (few : fragmentCount limits slot.payload ≤ 255) (index : Nat) (lost : Bool)
      (found : output.messageSlot? (laneFor slot.kind slot.requestId) = some (index, lost))
      (lanes : ∀ lane, (next.lanes lane).slots = (output.lanes lane).slots)
      (messages : next.messages = output.messages.put index (output.outbound slot))
      (nextFragmentId : next.nextFragmentId = output.followingFragmentId) :
      Queued output slot next true

theorem changes_setLane (output : Output limits) (lane : OutputLane)
    (content : OutboundLane limits.laneDepth) :
    Changes output (output.setLane lane content) lane content.slots where
  here := by rw [lanes_setLane_self]
  others other different := congrArg OutboundLane.slots (if_neg different)
  messages := rfl
  nextFragmentId := rfl

theorem same_setLane {lane : OutputLane} {content : OutboundLane limits.laneDepth}
    (slots : content.slots = (output.lanes lane).slots) :
    Same output (output.setLane lane content) where
  lanes other := by
    by_cases equal : other = lane
    · subst equal
      rw [lanes_setLane_self, slots]
    · exact (changes_setLane output lane content).others other equal
  messages := rfl
  nextFragmentId := rfl

theorem queued_transmitFrame (short : slot.payload.length ≤ limits.maxFramePayload) :
    Queued output slot (output.transmitFrame slot).1 (output.transmitFrame slot).2 := by
  unfold transmitFrame
  dsimp only
  cases room : (output.lanes (laneFor slot.kind slot.requestId)).isFull with
  | false =>
    obtain ⟨pushed, queued⟩ :=
      isSome_iff_exists.mp (OutboundLane.push?_isSome_of_not_isFull slot room)
    rw [queued]
    refine .pushed short room ?_
    rw [← OutboundLane.push?_eq_some queued]
    exact changes_setLane _ _ _
  | true =>
    have refused : (output.lanes (laneFor slot.kind slot.requestId)).push? slot = none := by
      rw [OutboundLane.push?, dif_neg (by rw [room]; exact nofun)]
    rw [refused]
    dsimp only
    split
    · exact .refused (same_setLane rfl)
    · rename_i telemetry
      rw [not_not] at telemetry
      rw [telemetry] at room ⊢
      exact .replaced short telemetry room (changes_setLane _ _ _)

theorem queued_transmitMessage (long : slot.payload.length > limits.maxFramePayload) :
    Queued output slot (output.transmitMessage slot).1 (output.transmitMessage slot).2 := by
  unfold transmitMessage
  split
  · exact .refused ⟨fun _ => rfl, rfl, rfl⟩
  · rename_i few
    cases found : output.messageSlot? (laneFor slot.kind slot.requestId) with
    | none => exact .refused ⟨fun _ => rfl, rfl, rfl⟩
    | some entry =>
      obtain ⟨index, lost⟩ := entry
      refine .stored long (Nat.not_lt.mp few) index lost found ?_ rfl rfl
      intro lane
      cases lost with
      | false => rfl
      | true =>
        refine (same_setLane ?_).lanes lane
        rfl

theorem queued_transmit (output : Output limits) (slot : OutboundSlot) :
    Queued output slot (output.transmit slot).1 (output.transmit slot).2 := by
  unfold transmit
  split
  · exact .refused ⟨fun _ => rfl, rfl, rfl⟩
  · split
    · rename_i long
      exact queued_transmitMessage long
    · rename_i short
      exact queued_transmitFrame (Nat.not_lt.mp short)

end Output

namespace OutboundMessage

variable (limits : ServiceLimits) (message : OutboundMessage)

/-- The size of the next fragment. -/
def fragmentSize : Nat := min (message.payload.length - message.offset) limits.maxFramePayload

/-- The next fragment of a message, as a frame in a lane. -/
def fragment : OutboundSlot where
  kind := message.kind
  flags := message.flags ||| Flags.fragmented
  requestId := message.requestId
  target := message.target
  reserved := message.reserved
  payload := (message.payload.drop message.offset).take (message.fragmentSize limits)
  fragmentId := message.fragmentId
  fragmentIndex := message.fragmentIndex
  fragmentCount := message.fragmentCount

/-- The message without its next fragment. -/
def advance : OutboundMessage :=
  { message with
    offset := message.offset + message.fragmentSize limits
    fragmentIndex := message.fragmentIndex + 1
    active := message.offset + message.fragmentSize limits ≠ message.payload.length }

end OutboundMessage

namespace Output

/-- What `stage_fragment` does. -/
inductive Staged (output next : Output limits) : Prop
  | waits (same : Same output next)
  | moves (index : Nat) (message : OutboundMessage)
      (found : output.messages.find? OutboundMessage.active = some (index, message))
      (here : (next.lanes message.lane).slots =
        (output.lanes message.lane).slots ++ [message.fragment limits])
      (others : ∀ other, other ≠ message.lane →
        (next.lanes other).slots = (output.lanes other).slots)
      (messages : next.messages = output.messages.put index (message.advance limits))
      (nextFragmentId : next.nextFragmentId = output.nextFragmentId)

theorem staged_stageFragment (output : Output limits) : Staged output output.stageFragment := by
  unfold stageFragment
  cases found : output.messages.find? OutboundMessage.active with
  | none => exact .waits ⟨fun _ => rfl, rfl, rfl⟩
  | some entry =>
    obtain ⟨index, message⟩ := entry
    dsimp only
    cases room : (output.lanes message.lane).push? (message.fragment limits) with
    | none =>
      have refused := room
      unfold OutboundMessage.fragment OutboundMessage.fragmentSize at refused
      rw [refused]
      exact .waits ⟨fun _ => rfl, rfl, rfl⟩
    | some pushed =>
      have queued := room
      unfold OutboundMessage.fragment OutboundMessage.fragmentSize at queued
      rw [queued]
      have changes := changes_setLane output message.lane pushed
      rw [OutboundLane.push?_eq_some room] at changes
      exact .moves index message found changes.here changes.others rfl rfl

end Output

variable {link : LinkState limits}

namespace LinkState

theorem queued_stageResponse (link : LinkState limits) :
    Output.Same link.output link.stageResponse.output ∨ ∃ slot accepted,
        Output.Queued link.output (responseFrame slot) link.stageResponse.output accepted := by
  unfold stageResponse
  cases link.responses.unstaged? with
  | none => exact Or.inl ⟨fun _ => rfl, rfl, rfl⟩
  | some entry =>
    obtain ⟨index, slot⟩ := entry
    exact Or.inr ⟨slot, _, Output.queued_transmit link.output (responseFrame slot)⟩

theorem epoch_staged (link : LinkState limits) : link.staged.epoch = link.epoch := by
  unfold staged stageResponse
  cases link.responses.unstaged? with
  | none | some => rfl

/-- What is left of `try_start_transmit` once responses and fragments are staged: nothing, or the
oldest frame of a lane goes to the link. -/
inductive Started (staged next : LinkState limits) : Option TxFrame → Prop
  | idle (same : Output.Same staged.output next.output) : Started staged next none
  | sent (lane : OutputLane) (handle : LeaseHandle) (slot : OutboundSlot)
      (rest : List OutboundSlot) (head : (staged.output.lanes lane).slots = slot :: rest)
      (changes : Output.Changes staged.output next.output lane rest) :
      Started staged next (some ⟨lane, handle, staged.envelopeFor slot, slot.payload⟩)

section

variable (link) (lane)

theorem same_markTransmitting (transmitting : Bool) :
    Output.Same link.output (link.markTransmitting lane transmitting).output := by
  refine Output.same_setLane ?_
  rfl

theorem changes_popLane (dropped : Bool) :
    Output.Changes link.output (link.popLane lane dropped).output lane
      (link.output.lanes lane).slots.tail :=
  Output.changes_setLane link.output lane _

/-- What the first section of `try_start_transmit` does. -/
inductive Selected (link next : LinkState limits) : Option TxFrame → Prop
  | idle (same : Output.Same link.output next.output) : Selected link next none
  | claimed (lane : OutputLane) (handle : LeaseHandle) (slot : OutboundSlot)
      (rest : List OutboundSlot) (head : (link.output.lanes lane).slots = slot :: rest)
      (same : Output.Same link.output next.output) :
      Selected link next (some ⟨lane, handle, link.envelopeFor slot, slot.payload⟩)

theorem selected_selectFrame :
    Selected link (link.selectFrame true).1 (link.selectFrame true).2 := by
  unfold selectFrame
  split
  · exact .idle ⟨fun _ => rfl, rfl, rfl⟩
  · cases link.selectedLane? with
    | none => exact .idle ⟨fun _ => rfl, rfl, rfl⟩
    | some lane =>
      cases slots : (link.output.lanes lane).slots with
      | nil =>
        simp only [slots]
        exact .idle ⟨fun _ => rfl, rfl, rfl⟩
      | cons slot rest =>
        simp only [slots, if_true]
        exact .claimed lane _ slot rest slots (same_markTransmitting link lane true)

theorem started_send (accepted : Bool) :
    Started link.staged (link.send (.start accepted)).1 (link.send (.start accepted)).2 := by
  have unfolded : link.tryStartTransmit true (if accepted then .accepted else .busy) =
      (link.staged.selectFrame true).2.elim (link.staged.selectFrame true).1 fun frame =>
        (link.staged.selectFrame true).1.settleTransmit frame.lane
          (if accepted then .accepted else .busy) := by
    unfold tryStartTransmit staged
    dsimp only
    split
    all_goals
      rename_i result
      rw [result]
      rfl
  rw [send, unfolded]
  cases frame : (link.staged.selectFrame true).2 with
  | none =>
    have selected := selected_selectFrame link.staged
    rw [frame] at selected
    cases selected with
    | idle same => cases accepted <;> exact .idle same
  | some frame =>
    have selected := selected_selectFrame link.staged
    rw [frame] at selected
    cases selected with
    | claimed lane handle slot rest head same =>
      cases accepted with
      | false =>
        have marked := same_markTransmitting (link.staged.selectFrame true).1 lane false
        refine .idle ⟨fun other => ?_, ?_, ?_⟩
        · exact (marked.lanes other).trans (same.lanes other)
        · exact marked.messages.trans same.messages
        · exact marked.nextFragmentId.trans same.nextFragmentId
      | true =>
        have popped := changes_popLane (link.staged.selectFrame true).1 lane false
        rw [same.lanes lane, head] at popped
        refine .sent lane handle slot rest head ⟨popped.here, fun other different => ?_, ?_, ?_⟩
        · exact (popped.others other different).trans (same.lanes other)
        · exact popped.messages.trans same.messages
        · exact popped.nextFragmentId.trans same.nextFragmentId

theorem same_txComplete {handle : LeaseHandle} :
    Output.Same link.output (link.txComplete handle).output := by
  unfold txComplete
  split
  · exact ⟨fun _ => rfl, rfl, rfl⟩
  · split
    · exact same_markTransmitting link _ false
    · exact ⟨fun _ => rfl, rfl, rfl⟩

theorem mute_epoch : Mute (@epoch limits) := fun _ _ _ => rfl

theorem epoch_send (event : SendEvent) : (link.send event).1.epoch = link.epoch := by
  cases event with
  | transmit message => rfl
  | complete handle => exact mute_epoch.txComplete link handle
  | start accepted =>
    have selected := mute_epoch.selectFrame link.staged true
    rw [epoch_staged] at selected
    unfold send tryStartTransmit
    dsimp only
    split
    all_goals
      rename_i result
      rw [staged, result] at selected
    · exact selected
    · exact (mute_epoch.settleTransmit _ _ _).trans selected

end

end LinkState

/-! ### A message of several frames -/

namespace LogicalMessage

variable (message : LogicalMessage) (limits : ServiceLimits) (id : UInt16)

/-- The stored message before the fragment with the given index is cut. -/
def record (index : Nat) : OutboundMessage where
  active := true
  lane := .bulk
  kind := message.kind
  flags := message.flags
  requestId := message.requestId
  target := message.target
  reserved := message.reserved
  payload := message.payload
  offset := index * limits.maxFramePayload
  fragmentId := id
  fragmentIndex := UInt8.ofNat index
  fragmentCount := UInt8.ofNat (message.count limits.maxFramePayload)

/-- The fragment with the given index, as a frame in a lane. -/
def fragmentSlot (index : Nat) : OutboundSlot where
  kind := message.kind
  flags := message.flags ||| Flags.fragmented
  requestId := message.requestId
  target := message.target
  reserved := message.reserved
  payload := message.part limits.maxFramePayload index
  fragmentId := id
  fragmentIndex := UInt8.ofNat index
  fragmentCount := UInt8.ofNat (message.count limits.maxFramePayload)

variable {message limits id} {index : Nat}

theorem fragment_record (message : LogicalMessage) (limits : ServiceLimits) (id : UInt16)
    (index : Nat) :
    (message.record limits id index).fragment limits = message.fragmentSlot limits id index := by
  have payload : (message.payload.drop (index * limits.maxFramePayload)).take
      (min (message.payload.length - index * limits.maxFramePayload) limits.maxFramePayload) =
        message.part limits.maxFramePayload index := by
    rw [part, ← length_drop, Nat.min_comm, ← take_take, take_length]
  simp only [OutboundMessage.fragment, OutboundMessage.fragmentSize, record, fragmentSlot, payload]

theorem advance_record (divides : message.Divides id limits.maxFramePayload)
    (more : index + 1 < message.count limits.maxFramePayload) :
    (message.record limits id index).advance limits = message.record limits id (index + 1) := by
  have bounds := (count_bounds divides.positive divides.long).2.1
  have offset : index * limits.maxFramePayload + limits.maxFramePayload =
      (index + 1) * limits.maxFramePayload := (Nat.succ_mul _ _).symm
  have upper : (index + 1) * limits.maxFramePayload ≤
      (message.count limits.maxFramePayload - 1) * limits.maxFramePayload :=
    Nat.mul_le_mul_right _ (by omega)
  have size : min (message.payload.length - index * limits.maxFramePayload)
      limits.maxFramePayload = limits.maxFramePayload := Nat.min_eq_right (by omega)
  have unfinished : (index + 1) * limits.maxFramePayload ≠ message.payload.length := by omega
  have number : UInt8.ofNat index + 1 = UInt8.ofNat (index + 1) := (UInt8.ofNat_add index 1).symm
  simp only [OutboundMessage.advance, OutboundMessage.fragmentSize, record, size, offset, number,
    ne_eq, unfinished, not_false_eq_true, decide_true]

theorem active_advance_record (divides : message.Divides id limits.maxFramePayload)
    (last : index + 1 = message.count limits.maxFramePayload) :
    ((message.record limits id index).advance limits).active = false := by
  obtain ⟨-, lower, upper⟩ := count_bounds divides.positive divides.long
  rw [← last, Nat.add_sub_cancel] at lower
  rw [← last, Nat.succ_mul] at upper
  have size : min (message.payload.length - index * limits.maxFramePayload)
      limits.maxFramePayload = message.payload.length - index * limits.maxFramePayload :=
    Nat.min_eq_left (by omega)
  have whole : index * limits.maxFramePayload +
      (message.payload.length - index * limits.maxFramePayload) = message.payload.length := by omega
  simp [OutboundMessage.advance, OutboundMessage.fragmentSize, record, size, whole]

end LogicalMessage

variable {message : LogicalMessage} {sent : List OutboundSlot} {place index : Nat} {id : UInt16}

namespace Output

theorem followingFragmentId_ne (output : Output limits) :
    output.followingFragmentId ≠ output.nextFragmentId := by
  intro same
  have equal := congrArg UInt16.toNat same
  have one : (1 : UInt16).toNat = 1 := rfl
  have two : (2 : UInt16).toNat = 2 := rfl
  unfold followingFragmentId at equal
  split at equal
  · rw [UInt16.toNat_add] at equal
    omega
  · rw [UInt16.toNat_add] at equal
    omega

/-- The frame is a fragment with the given id. -/
def isFragmentOf (id : UInt16) (slot : OutboundSlot) : Bool := slot.fragmentId = id

/-- The fragments that are sent and those in the bulk lane are those before an index, and the rest
of the message is stored. -/
structure Sends (message : LogicalMessage) (id : UInt16) (place : Nat) (sent : List OutboundSlot)
    (index : Nat) (output : Output limits) : Prop where
  inside : index ≤ message.count limits.maxFramePayload
  cut : sent ++ (output.lanes .bulk).slots.filter (isFragmentOf id) =
    (range index).map (message.fragmentSlot limits id)
  elsewhere : ∀ lane, lane ≠ .bulk → ∀ slot ∈ (output.lanes lane).slots, slot.fragmentId ≠ id
  held : index < message.count limits.maxFramePayload →
    output.messages.get? place = some (message.record limits id index)
  only : ∀ other held, output.messages.get? other = some held → held.active = true →
    held.fragmentId = id → other = place ∧ index < message.count limits.maxFramePayload

namespace Sends

theorem congr (sends : Sends message id place sent index output) (same : Same output next) :
    Sends message id place sent index next where
  inside := sends.inside
  cut := by
    rw [same.lanes]
    exact sends.cut
  elsewhere lane different := by
    rw [same.lanes]
    exact sends.elsewhere lane different
  held := by
    rw [same.messages]
    exact sends.held
  only := by
    rw [same.messages]
    exact sends.only

/-- Frames of other messages come and go. -/
theorem changes (sends : Sends message id place sent index output) {lane : OutputLane}
    {slots : List OutboundSlot} (changes : Changes output next lane slots)
    (bulk : lane = .bulk → slots.filter (isFragmentOf id) =
      (output.lanes .bulk).slots.filter (isFragmentOf id))
    (other : lane ≠ .bulk → ∀ slot ∈ slots, slot.fragmentId ≠ id) :
    Sends message id place sent index next where
  inside := sends.inside
  cut := by
    by_cases here : lane = .bulk
    · subst here
      rw [changes.here, bulk rfl]
      exact sends.cut
    · rw [changes.others .bulk (Ne.symm here)]
      exact sends.cut
  elsewhere elsewhere different slot member := by
    by_cases here : elsewhere = lane
    · subst here
      rw [changes.here] at member
      exact other different slot member
    · rw [changes.others elsewhere here] at member
      exact sends.elsewhere elsewhere different slot member
  held := by
    rw [changes.messages]
    exact sends.held
  only := by
    rw [changes.messages]
    exact sends.only

theorem laneFor_ne_bulk (kind : Kind) (request : UInt32) : laneFor kind request ≠ .bulk := by
  by_cases unasked : request = 0
  · cases kind <;> simp [laneFor, unasked]
  · cases kind <;> simp [laneFor, unasked]

section

variable (sends : Sends message id place sent index output)

include sends

/-- Another message is transmitted. -/
theorem queued {slot : OutboundSlot} {accepted : Bool} (queued : Queued output slot next accepted)
    (whole : slot.fragmentId ≠ id) (fresh : next.nextFragmentId = id → output.nextFragmentId = id)
    (kept : ∀ other held, slot.payload.length > limits.maxFramePayload →
      output.messageSlot? (laneFor slot.kind slot.requestId) = some (other, true) →
      output.messages.get? other = some held → held.fragmentId ≠ id) :
    Sends message id place sent index next := by
  cases queued with
  | refused same => exact sends.congr same
  | pushed short room changes =>
    have different := laneFor_ne_bulk slot.kind slot.requestId
    refine sends.changes changes (fun bulk => absurd bulk different) ?_
    intro _ other member
    rcases mem_append.mp member with old | new
    · exact sends.elsewhere _ different other old
    · exact mem_singleton.mp new ▸ whole
  | replaced short telemetry full changes =>
    refine sends.changes changes (fun bulk => nomatch bulk) ?_
    intro different other member
    rcases mem_or_eq_of_mem_set member with old | rfl
    · exact sends.elsewhere _ different other old
    · exact whole
  | stored long few other lost found lanes messages following =>
    have unnamed : output.followingFragmentId ≠ id := fun same =>
      output.followingFragmentId_ne (same.trans (fresh (following.trans same)).symm)
    have apart : index < message.count limits.maxFramePayload → place ≠ other := by
      rintro inside rfl
      have stored := sends.held inside
      cases lost with
      | true => exact kept _ _ long found stored rfl
      | false =>
        unfold messageSlot? at found
        cases free : output.messages.find? fun message => !message.active with
        | none =>
          rw [free] at found
          dsimp only at found
          split at found
          · exact nomatch found
          · obtain ⟨entry, -, same⟩ := map_eq_some_iff.mp found
            exact nomatch (Prod.mk.inj same).2
        | some entry =>
          obtain ⟨index', content⟩ := entry
          rw [free] at found
          obtain ⟨rfl, -⟩ := Prod.mk.inj (some.inj found)
          obtain ⟨storedFree, unused, -⟩ := Pool.find?_eq_some_iff.mp free
          cases some.inj (stored.symm.trans storedFree)
          exact nomatch unused
    refine ⟨sends.inside, ?_, ?_, ?_, ?_⟩
    · rw [lanes]
      exact sends.cut
    · intro lane different
      rw [lanes]
      exact sends.elsewhere lane different
    · intro inside
      rw [messages, Pool.get?_put_of_ne (apart inside)]
      exact sends.held inside
    · intro elsewhere held stored active same
      rw [messages] at stored
      rcases Pool.get?_put stored with ⟨-, rfl⟩ | ⟨-, kept⟩
      · exact absurd same unnamed
      · exact sends.only elsewhere held kept active same

/-- Another message moves a fragment into its lane. -/
theorem staged_other {other : Nat} {held : OutboundMessage}
    (stored : output.messages.get? other = some held) (foreign : held.fragmentId ≠ id)
    (here : (next.lanes held.lane).slots = (output.lanes held.lane).slots ++ [held.fragment limits])
    (others : ∀ lane, lane ≠ held.lane → (next.lanes lane).slots = (output.lanes lane).slots)
    (messages : next.messages = output.messages.put other (held.advance limits)) :
    Sends message id place sent index next := by
  have strange : isFragmentOf id (held.fragment limits) = false := decide_eq_false foreign
  refine ⟨sends.inside, ?_, ?_, ?_, ?_⟩
  · by_cases bulk : held.lane = .bulk
    · rw [bulk] at here
      rw [here, filter_append, filter_singleton, strange, cond_false, append_nil]
      exact sends.cut
    · rw [others .bulk (Ne.symm bulk)]
      exact sends.cut
  · intro lane different slot member
    by_cases same : lane = held.lane
    · subst same
      rw [here] at member
      rcases mem_append.mp member with old | new
      · exact sends.elsewhere _ different slot old
      · exact mem_singleton.mp new ▸ foreign
    · rw [others lane same] at member
      exact sends.elsewhere lane different slot member
  · intro inside
    have mine := sends.held inside
    have apart : place ≠ other := by
      rintro rfl
      cases some.inj (mine.symm.trans stored)
      exact foreign rfl
    rw [messages, Pool.get?_put_of_ne apart]
    exact mine
  · intro elsewhere content found active same
    rw [messages] at found
    rcases Pool.get?_put found with ⟨-, rfl⟩ | ⟨-, kept⟩
    · exact absurd same foreign
    · exact sends.only elsewhere content kept active same

/-- The message moves its next fragment into the bulk lane. -/
theorem staged_own (divides : message.Divides id limits.maxFramePayload)
    (inside : index < message.count limits.maxFramePayload)
    (here : (next.lanes .bulk).slots =
      (output.lanes .bulk).slots ++ [(message.record limits id index).fragment limits])
    (others : ∀ lane, lane ≠ .bulk → (next.lanes lane).slots = (output.lanes lane).slots)
    (messages : next.messages =
      output.messages.put place ((message.record limits id index).advance limits)) :
    Sends message id place sent (index + 1) next := by
  have bound := Pool.get?_lt (sends.held inside)
  have mine : isFragmentOf id (message.fragmentSlot limits id index) = true := decide_eq_true rfl
  refine ⟨inside, ?_, ?_, ?_, ?_⟩
  · rw [here, LogicalMessage.fragment_record, filter_append, filter_singleton, mine,
      cond_true, ← append_assoc, sends.cut, range_succ, map_append,
      map_singleton]
  · intro lane different
    rw [others lane different]
    exact sends.elsewhere lane different
  · intro more
    rw [messages, Pool.get?_put_self _ bound, LogicalMessage.advance_record divides more]
  · intro elsewhere content found active same
    rw [messages] at found
    rcases Pool.get?_put found with ⟨rfl, rfl⟩ | ⟨different, kept⟩
    · refine ⟨rfl, Nat.lt_of_le_of_ne inside fun last => ?_⟩
      rw [LogicalMessage.active_advance_record divides last] at active
      exact nomatch active
    · exact absurd (sends.only elsewhere content kept active same).1 different

theorem staged (divides : message.Divides id limits.maxFramePayload) (staged : Staged output next) :
    ∃ further, Sends message id place sent further next := by
  cases staged with
  | waits same => exact ⟨index, sends.congr same⟩
  | moves other held found here others messages =>
    obtain ⟨stored, active, -⟩ := Pool.find?_eq_some_iff.mp found
    by_cases same : held.fragmentId = id
    · obtain ⟨rfl, inside⟩ := sends.only other held stored active same
      cases some.inj ((sends.held inside).symm.trans stored)
      exact ⟨index + 1, sends.staged_own divides inside here others messages⟩
    · exact ⟨index, sends.staged_other stored same here others messages⟩

/-- The oldest frame of a lane leaves it. -/
theorem popped {lane : OutputLane} {slot : OutboundSlot} {rest : List OutboundSlot}
    (head : (output.lanes lane).slots = slot :: rest) (changes : Changes output next lane rest) :
    Sends message id place (if slot.fragmentId = id then sent ++ [slot] else sent) index next := by
  by_cases mine : slot.fragmentId = id
  · have bulk : lane = .bulk := by
      by_contra different
      exact sends.elsewhere lane different slot (head ▸ mem_cons_self) mine
    subst bulk
    have belongs : isFragmentOf id slot = true := decide_eq_true mine
    have cut := sends.cut
    rw [head, filter_cons_of_pos belongs, append_cons] at cut
    rw [if_pos mine]
    refine ⟨sends.inside, ?_, ?_, ?_, ?_⟩
    · rw [changes.here]
      exact cut
    · intro lane different
      rw [changes.others lane different]
      exact sends.elsewhere lane different
    · rw [changes.messages]
      exact sends.held
    · rw [changes.messages]
      exact sends.only
  · rw [if_neg mine]
    refine sends.changes changes ?_ ?_
    · rintro rfl
      rw [head, filter_cons_of_neg (by simp [isFragmentOf, mine])]
    · intro different other member
      exact sends.elsewhere lane different other (head ▸ mem_cons_of_mem _ member)

end

end Sends

end Output

namespace LinkState

variable {epoch : UInt32}

/-- The frame was made of the waiting one in the given epoch. -/
def Stamped (limits : ServiceLimits) (epoch : UInt32) (frame : TxFrame) (slot : OutboundSlot) :
    Prop :=
  frame.payload = slot.payload ∧ ∃ link : LinkState limits, link.epoch = epoch ∧
    frame.envelope = link.envelopeFor slot

theorem messageSlot?_response {other : Nat} {slot : ResponseSlot} :
    output.messageSlot? (laneFor (responseFrame slot).kind (responseFrame slot).requestId) ≠
      some (other, true) := by
  intro found
  unfold Output.messageSlot? at found
  split at found
  · exact nomatch (Prod.mk.inj (some.inj found)).2
  · exact nomatch found

theorem nextFragmentId_start (link : LinkState limits) (accepted : Bool) :
    (link.send (.start accepted)).1.output.nextFragmentId =
      link.stageResponse.output.nextFragmentId := by
  have staged : link.staged.output.nextFragmentId = link.stageResponse.output.nextFragmentId := by
    cases Output.staged_stageFragment link.stageResponse.output with
    | waits same => exact same.nextFragmentId
    | moves _ _ _ _ _ _ nextFragmentId => exact nextFragmentId
  refine Eq.trans ?_ staged
  have started := link.started_send accepted
  generalize (link.send (.start accepted)).2 = frame at started
  cases started with
  | idle same | sent _ _ _ _ _ same => exact same.nextFragmentId

section

variable (sends : Output.Sends message id place sent index link.output)

include sends

section

variable (divides : message.Divides id limits.maxFramePayload)

include divides

theorem sends_staged
    (fresh : link.stageResponse.output.nextFragmentId = id → link.output.nextFragmentId = id) :
    ∃ further, Output.Sends message id place sent further link.staged.output := by
  have answered : Output.Sends message id place sent index link.stageResponse.output := by
    rcases link.queued_stageResponse with same | ⟨slot, _, queued⟩
    · exact sends.congr same
    · refine sends.queued queued (Ne.symm divides.nonzero) fresh ?_
      exact fun other held _ lost => absurd lost messageSlot?_response
  exact answered.staged divides (Output.staged_stageFragment _)

/-- An event that does not disturb the message keeps its fragments, and a fragment that leaves is
the next one. -/
theorem sends_send {event : SendEvent} (undisturbed : ¬link.Disturbs event (.fragments id)) :
    ∃ more further,
      Output.Sends message id place (sent ++ more) further (link.send event).1.output ∧
      Forall₂ (Stamped limits link.epoch)
        ((link.send event).2.toList.filter (Trace.fragments id).owns) more := by
  obtain ⟨kept, undisplaced⟩ := not_or.mp undisturbed
  have fresh : (link.send event).1.output.nextFragmentId = id → link.output.nextFragmentId = id :=
    fun given => by_contra fun other => kept ⟨given, other⟩
  cases event with
  | transmit other =>
    refine ⟨[], index, ?_, Forall₂.nil⟩
    rw [append_nil]
    refine sends.queued (Output.queued_transmit link.output other.slot) (Ne.symm divides.nonzero)
      fresh ?_
    exact fun place held long found stored same =>
      undisplaced ⟨other, place, held, rfl, long, found, stored, same⟩
  | complete handle =>
    refine ⟨[], index, ?_, Forall₂.nil⟩
    rw [append_nil]
    exact sends.congr link.same_txComplete
  | start accepted =>
    rw [nextFragmentId_start] at fresh
    obtain ⟨further, staged⟩ := sends_staged sends divides fresh
    have epoch := link.epoch_staged
    have started := link.started_send accepted
    generalize (link.send (.start accepted)).2 = frame at started ⊢
    cases started with
    | idle same =>
      refine ⟨[], further, ?_, Forall₂.nil⟩
      rw [append_nil]
      exact staged.congr same
    | sent lane handle slot rest head changes =>
      have popped := staged.popped head changes
      by_cases mine : slot.fragmentId = id
      · rw [if_pos mine] at popped
        refine ⟨[slot], further, popped, ?_⟩
        have owned : (Trace.fragments id).owns
            ⟨lane, handle, link.staged.envelopeFor slot, slot.payload⟩ = true := decide_eq_true mine
        rw [toList_some, filter_cons_of_pos owned]
        exact .cons ⟨rfl, link.staged, epoch, rfl⟩ .nil
      · rw [if_neg mine] at popped
        refine ⟨[], further, by rwa [append_nil], ?_⟩
        have foreign : (Trace.fragments id).owns
            ⟨lane, handle, link.staged.envelopeFor slot, slot.payload⟩ = false :=
          decide_eq_false mine
        rw [toList_some, filter_cons_of_neg (by rw [foreign]; exact nofun)]
        exact .nil

omit divides in
omit sends in
theorem sendAll_marks (link : LinkState limits) (id : UInt16) (events : List SendEvent) :
    (link.sendAll (.fragments id) events).2.1 = .fragments id ∧
      ∀ pair ∈ (link.sendAll (.fragments id) events).2.2,
        pair.1 = (Trace.fragments id).owns pair.2 := by
  induction events generalizing link with
  | nil => exact ⟨rfl, fun _ => not_mem_nil.elim⟩
  | cons event rest ih =>
    obtain ⟨trace, marks⟩ := ih (link.send event).1
    refine ⟨trace, fun pair member => ?_⟩
    rcases mem_append.mp member with now | later
    · obtain ⟨frame, -, rfl⟩ := mem_map.mp now
      rfl
    · exact marks pair later

/-- The fragments that a run sends are the next ones. -/
theorem sendAll_sends (events : List SendEvent)
    (undisturbed : link.Undisturbed (.fragments id) events) :
    ∃ more further, Output.Sends message id place (sent ++ more) further
        (link.sendAll (.fragments id) events).1.output ∧
      Forall₂ (Stamped limits link.epoch)
        (((link.sendAll (.fragments id) events).2.2.filter Prod.fst).map Prod.snd) more := by
  induction events generalizing link sent index with
  | nil => exact ⟨[], index, by rwa [append_nil], Forall₂.nil⟩
  | cons event rest ih =>
    obtain ⟨now, later⟩ := undisturbed
    obtain ⟨first, _, sends, stamped⟩ := sends_send sends divides now
    obtain ⟨more, further, final, following⟩ := ih sends later
    rw [epoch_send] at following
    refine ⟨first ++ more, further, ?_, ?_⟩
    · rw [← append_assoc]
      exact final
    · have marked : ((link.send event).2.toList.map fun frame =>
          ((Trace.fragments id).owns frame, frame)).filter Prod.fst =
            ((link.send event).2.toList.filter (Trace.fragments id).owns).map fun frame =>
              ((Trace.fragments id).owns frame, frame) := filter_map
      rw [sendAll, filter_append, map_append, marked, List.map_map]
      refine rel_append ?_ following
      convert stamped
      exact map_id _

end

end

theorem followingFragmentId_ne_zero (output : Output limits) :
    output.followingFragmentId ≠ 0 := by
  unfold Output.followingFragmentId
  split
  · intro zero
    rename_i full
    have carried : output.nextFragmentId + 1 + 1 = 0 := by
      rw [UInt16.add_assoc]
      exact zero
    rw [full] at carried
    exact absurd carried (by decide)
  · assumption

/-- A message of several frames is stored whole. -/
theorem sends_transmit (long : message.payload.length > limits.maxFramePayload)
    (accepted : (link.output.transmit message.slot).2 = true)
    (unused : link.Unused link.output.followingFragmentId) :
    message.Divides link.output.followingFragmentId limits.maxFramePayload ∧
      ∃ place, Output.Sends message link.output.followingFragmentId place [] 0
        (link.transmit message.slot).output := by
  have positive : 0 < limits.maxFramePayload :=
    Nat.lt_of_lt_of_le (by decide : 0 < 28)
      (Nat.sub_le_sub_right (Nat.sub_le_sub_right limits.maxFrameBytes_ge envelopeSize) crcSize)
  have queued := Output.queued_transmit link.output message.slot
  rw [accepted] at queued
  show _ ∧ ∃ place, Output.Sends message _ place [] 0 (link.output.transmit message.slot).1
  generalize (link.output.transmit message.slot).1 = next at queued ⊢
  cases queued with
  | pushed short | replaced short => exact absurd long short.not_gt
  | stored _ few place lost found lanes messages =>
    have divides : message.Divides link.output.followingFragmentId limits.maxFramePayload :=
      ⟨followingFragmentId_ne_zero link.output, positive, long, few⟩
    have record : link.output.outbound message.slot =
        message.record limits link.output.followingFragmentId 0 := by
      simp only [LogicalMessage.record, Nat.zero_mul]
      rfl
    obtain ⟨waiting, active⟩ := unused
    refine ⟨divides, place, Nat.zero_le _, ?_, ?_, ?_, ?_⟩
    · rw [lanes, nil_append, range_zero, map_nil, filter_eq_nil_iff]
      exact fun slot member => by
        simpa [Output.isFragmentOf] using waiting .bulk slot member
    · intro lane _ slot member
      exact waiting lane slot (lanes lane ▸ member)
    · intro _
      rw [messages, Pool.get?_put_self _ (Output.messageSlot?_lt found), record]
    · intro elsewhere held stored live same
      rw [messages] at stored
      rcases Pool.get?_put stored with ⟨rfl, -⟩ | ⟨-, kept⟩
      · exact ⟨rfl, Nat.lt_of_succ_lt divides.several⟩
      · exact absurd same (active elsewhere held kept live)

/-- What is sent of a stored message are its fragments. -/
theorem isPart_of_stamped (divides : message.Divides id limits.maxFramePayload)
    (inside : index < message.count limits.maxFramePayload) {frame : TxFrame}
    (stamped : Stamped limits epoch frame (message.fragmentSlot limits id index)) :
    message.IsPart id epoch limits.maxFramePayload index frame.decoded := by
  obtain ⟨payload, stamping, rfl, envelope⟩ := stamped
  have few := divides.few
  have several := divides.several
  have counted : (UInt8.ofNat (message.count limits.maxFramePayload)).toNat =
      message.count limits.maxFramePayload := LogicalMessage.toNat_ofNat_small few
  have positioned : (UInt8.ofNat index).toNat = index :=
    LogicalMessage.toNat_ofNat_small (by omega)
  have one : UInt8.ofNat (message.count limits.maxFramePayload) ≠ 1 := by
    intro single
    rw [single] at counted
    exact absurd counted.symm several.ne'
  have flags : frame.envelope.flags =
      if decide (index + 1 = message.count limits.maxFramePayload) then
        (message.flags ||| Flags.fragmented).stable ||| Flags.final
      else (message.flags ||| Flags.fragmented).stable := by
    rw [envelope]
    simp only [envelopeFor, LogicalMessage.fragmentSlot, counted, positioned, one, false_or,
      decide_eq_true_eq]
    rfl
  obtain ⟨final, fragmented, stable⟩ := (message.flags ||| Flags.fragmented).has_stamped
    (decide (index + 1 = message.count limits.maxFramePayload))
  rw [← flags] at final fragmented stable
  refine ⟨?_, ?_, ?_, ?_, ?_, ?_, ?_, ?_, ?_, final, stable, payload⟩
  · exact congrArg Envelope.kind envelope
  · exact congrArg Envelope.target envelope
  · exact congrArg Envelope.requestId envelope
  · exact congrArg Envelope.reserved envelope
  · exact congrArg Envelope.sessionEpoch envelope
  · exact congrArg Envelope.fragmentId envelope
  · exact congrArg Envelope.fragmentIndex envelope
  · exact congrArg Envelope.fragmentCount envelope
  · exact fragmented.trans (Flags.has_fragmented_of_or message.flags)

section

variable (sends : Output.Sends message id place sent index link.output)

include sends

theorem isPart_sent (divides : message.Divides id limits.maxFramePayload) {frames : List TxFrame}
    (stamped : Forall₂ (Stamped limits epoch) frames sent) {offset : Nat} {frame : TxFrame}
    (found : frames[offset]? = some frame) :
    message.IsPart id epoch limits.maxFramePayload offset frame.decoded := by
  obtain ⟨inside, rfl⟩ := List.getElem?_eq_some_iff.mp found
  have within : offset < sent.length := stamped.length_eq ▸ inside
  have cut := congrArg (fun slots => slots[offset]?) sends.cut
  simp only [getElem?_append_left within, getElem?_map] at cut
  rw [getElem?_eq_getElem within] at cut
  obtain ⟨number, ranged, same⟩ := map_eq_some_iff.mp cut.symm
  obtain ⟨small, equal⟩ := List.getElem?_eq_some_iff.mp ranged
  rw [getElem_range] at equal
  rw [length_range] at small
  subst equal
  refine isPart_of_stamped divides (small.trans_le sends.inside) ?_
  rw [same]
  exact stamped.get inside within

theorem length_sent_le : sent.length ≤ message.count limits.maxFramePayload := by
  have length := congrArg length sends.cut
  rw [length_append, length_map, length_range] at length
  have := sends.inside
  omega

theorem length_sent_of_unused (unused : link.Unused id) :
    sent.length = message.count limits.maxFramePayload := by
  obtain ⟨waiting, active⟩ := unused
  have none : (link.output.lanes .bulk).slots.filter (Output.isFragmentOf id) = [] := by
    rw [filter_eq_nil_iff]
    exact fun slot member => by simpa [Output.isFragmentOf] using waiting .bulk slot member
  have length := congrArg length sends.cut
  rw [none, append_nil, length_map, length_range] at length
  rw [length]
  refine Nat.le_antisymm sends.inside (Nat.not_lt.mp fun more => ?_)
  exact active place _ (sends.held more) rfl rfl

end

end LinkState

/-! ### A message of one frame -/

variable {lane : OutputLane} {ahead : Nat}

namespace Output

/-- The message is the frame with the given number of others ahead of it in its lane. -/
def Waits (message : LogicalMessage) (lane : OutputLane) (ahead : Nat) (output : Output limits) :
    Prop :=
  (output.lanes lane).slots[ahead]? = some message.slot

namespace Waits

section

variable (waits : Waits message lane ahead output)

include waits

theorem lt_length : ahead < (output.lanes lane).slots.length :=
  (List.getElem?_eq_some_iff.mp waits).1

theorem congr (same : (next.lanes lane).slots = (output.lanes lane).slots) :
    Waits message lane ahead next := by
  rw [Waits, same]
  exact waits

theorem behind {other : OutputLane} {slot : OutboundSlot}
    (here : (next.lanes other).slots = (output.lanes other).slots ++ [slot])
    (others : ∀ elsewhere, elsewhere ≠ other →
      (next.lanes elsewhere).slots = (output.lanes elsewhere).slots) :
    Waits message lane ahead next := by
  by_cases same : lane = other
  · subst same
    rw [Waits, here, getElem?_append_left waits.lt_length]
    exact waits
  · exact waits.congr (others lane same)

theorem queued {slot : OutboundSlot} {accepted : Bool} (queued : Queued output slot next accepted)
    (kept : lane = .telemetry → laneFor slot.kind slot.requestId = .telemetry →
      (output.lanes .telemetry).isFull = true →
        ahead + 1 ≠ (output.lanes .telemetry).slots.length) : Waits message lane ahead next := by
  cases queued with
  | refused same => exact waits.congr (same.lanes lane)
  | pushed short room changes => exact waits.behind changes.here changes.others
  | stored long few index lost found lanes => exact waits.congr (lanes lane)
  | replaced short telemetry full changes =>
    by_cases same : lane = .telemetry
    · subst same
      have apart := kept rfl telemetry full
      have inside := waits.lt_length
      rw [Waits, changes.here, getElem?_set_ne (by omega)]
      exact waits
    · exact waits.congr (changes.others lane same)

theorem staged (staged : Staged output next) : Waits message lane ahead next := by
  cases staged with
  | waits same => exact waits.congr (same.lanes lane)
  | moves index held found here others => exact waits.behind here others

end

end Waits

/-- A message of one frame waits in its lane. -/
theorem waits_transmit (short : message.payload.length ≤ limits.maxFramePayload)
    (accepted : (output.transmit message.slot).2 = true) :
    Waits message (laneFor message.kind message.requestId)
      (min (output.lanes (laneFor message.kind message.requestId)).slots.length
        (limits.laneDepth - 1)) (output.transmit message.slot).1 := by
  have queued := Output.queued_transmit output message.slot
  rw [accepted] at queued
  generalize (output.transmit message.slot).1 = next at queued ⊢
  cases queued with
  | stored long => exact absurd long short.not_gt
  | pushed _ room changes =>
    have free := OutboundLane.length_lt_of_not_isFull room
    have room : (output.lanes (laneFor message.kind message.requestId)).slots.length ≤
        limits.laneDepth - 1 := Nat.le_sub_one_of_lt free
    have here : (next.lanes (laneFor message.kind message.requestId)).slots =
        (output.lanes (laneFor message.kind message.requestId)).slots ++ [message.slot] :=
      changes.here
    rw [Waits, Nat.min_eq_left room, here, getElem?_append_right le_rfl,
      Nat.sub_self, getElem?_cons_zero]
  | replaced _ telemetry full changes =>
    have telemetry : laneFor message.kind message.requestId = .telemetry := telemetry
    have length : (output.lanes .telemetry).slots.length = limits.laneDepth :=
      of_decide_eq_true full
    have positive := limits.laneDepth_pos
    rw [telemetry, Waits, changes.here, length, Nat.min_eq_right (Nat.sub_le _ _),
      getElem?_set_self (by omega)]

end Output

namespace LinkState

/-- An event that does not disturb the message leaves it in its lane, or sends it. -/
theorem waits_send (waits : Output.Waits message lane ahead link.output) {event : SendEvent}
    (undisturbed : ¬link.Disturbs event (.place lane ahead)) :
    (∃ further, (Trace.place lane ahead).after (link.send event).2 = .place lane further ∧
      Output.Waits message lane further (link.send event).1.output ∧
      ∀ frame ∈ (link.send event).2, (Trace.place lane ahead).owns frame = false) ∨
    ∃ frame, (link.send event).2 = some frame ∧ (Trace.place lane ahead).owns frame = true ∧
      (Trace.place lane ahead).after (some frame) = .done ∧
      Stamped limits link.epoch frame message.slot := by
  cases event with
  | transmit other =>
    refine Or.inl ⟨ahead, rfl, ?_, fun frame => (Option.not_mem_none frame).elim⟩
    refine waits.queued (Output.queued_transmit link.output other.slot) ?_
    rintro rfl telemetry full last
    exact undisturbed ⟨other, rfl, rfl, telemetry, full, last⟩
  | complete handle =>
    exact Or.inl ⟨ahead, rfl, waits.congr (link.same_txComplete.lanes lane),
      fun frame => (Option.not_mem_none frame).elim⟩
  | start accepted =>
    have answered : Output.Waits message lane ahead link.stageResponse.output := by
      rcases link.queued_stageResponse with same | ⟨slot, _, queued⟩
      · exact waits.congr (same.lanes lane)
      · exact waits.queued queued fun _ telemetry => nomatch telemetry
    have staged : Output.Waits message lane ahead link.staged.output :=
      answered.staged (Output.staged_stageFragment _)
    have epoch := link.epoch_staged
    have started := link.started_send accepted
    generalize (link.send (.start accepted)).2 = frame at started ⊢
    cases started with
    | idle same =>
      exact Or.inl ⟨ahead, rfl, staged.congr (same.lanes lane),
        fun frame => (Option.not_mem_none frame).elim⟩
    | sent other handle slot rest head changes =>
      by_cases here : other = lane
      · subst here
        unfold Output.Waits at staged
        rw [head] at staged
        cases ahead with
        | zero =>
          obtain ⟨⟩ := staged
          refine Or.inr ⟨_, rfl, ?_, ?_, rfl, link.staged, epoch, rfl⟩
          · simp [Trace.owns]
          · simp [Trace.after]
        | succ further =>
          refine Or.inl ⟨further, ?_, ?_, ?_⟩
          · simp [Trace.after]
          · rw [Output.Waits, changes.here]
            exact staged
          · rintro frame ⟨⟩
            simp [Trace.owns]
      · refine Or.inl ⟨ahead, ?_, staged.congr (changes.others lane (Ne.symm here)), ?_⟩
        · simp [Trace.after, here]
        · rintro frame ⟨⟩
          simp [Trace.owns, here]

theorem sendAll_done (link : LinkState limits) {events : List SendEvent} :
    (link.sendAll .done events).2.1 = .done ∧
      (link.sendAll .done events).2.2.filter Prod.fst = [] := by
  induction events generalizing link with
  | nil => exact ⟨rfl, rfl⟩
  | cons event rest ih =>
    obtain ⟨trace, none⟩ := ih (link.send event).1
    refine ⟨trace, ?_⟩
    rw [sendAll, filter_append]
    refine append_eq_nil_iff.mpr ⟨?_, none⟩
    cases (link.send event).2 <;> rfl

/-- A run sends the message once, or leaves it in its lane. -/
theorem sendAll_waits (events : List SendEvent)
    (waits : Output.Waits message lane ahead link.output)
    (undisturbed : link.Undisturbed (.place lane ahead) events) :
    (((link.sendAll (.place lane ahead) events).2.2.filter Prod.fst = []) ∧
      ∃ further, (link.sendAll (.place lane ahead) events).2.1 = .place lane further) ∨
    ((link.sendAll (.place lane ahead) events).2.1 = .done ∧
      ∃ frame, (link.sendAll (.place lane ahead) events).2.2.filter Prod.fst = [(true, frame)] ∧
        Stamped limits link.epoch frame message.slot) := by
  induction events generalizing link ahead with
  | nil => exact Or.inl ⟨rfl, ahead, rfl⟩
  | cons event rest ih =>
    obtain ⟨now, later⟩ := undisturbed
    have epoch := link.epoch_send event
    rcases waits_send waits now with
      ⟨further, after, waits, foreign⟩ | ⟨frame, sent, mine, after, stamped⟩
    · have unmarked : ((link.send event).2.toList.map fun frame =>
          ((Trace.place lane ahead).owns frame, frame)).filter Prod.fst = [] := by
        refine filter_eq_nil_iff.mpr fun pair member => ?_
        obtain ⟨frame, there, rfl⟩ := mem_map.mp member
        simp [foreign frame (mem_toList.mp there)]
      rw [after] at later
      rw [sendAll, after, filter_append, unmarked, ← epoch]
      exact ih waits later
    · obtain ⟨trace, none⟩ := (link.send event).1.sendAll_done
      refine Or.inr ?_
      rw [sendAll, sent, after]
      refine ⟨trace, frame, ?_, stamped⟩
      simp only [toList_some, map_singleton, mine, filter_append, none, append_nil]
      rfl

end LinkState

end Solar.Remote
