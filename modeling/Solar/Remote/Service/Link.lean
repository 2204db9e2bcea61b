/-
This file models the state the service keeps for one link and what link events
and session frames do to it: the session, its epoch and grants, the request
high-water mark, the response table, the output lanes, the transmitter and the
subscriptions. What the application layer does when a session is reset comes
before these handlers and is modelled with the application.
-/

import Solar.Remote.Service.Output
import Solar.Remote.Service.Responses

namespace Solar.Remote

inductive SessionState
  | disconnected | negotiating | active | closing | faulted
  deriving DecidableEq

structure LeaseHandle where
  slot : UInt16 := 0
  generation : UInt16 := 0
  deriving DecidableEq

/-- The permission masks a link's grants are tested against. -/
abbrev Permissions := UInt8

namespace Permissions

def observe : Permissions := 1
def configure : Permissions := 2
def control : Permissions := 4

/-- Every required permission is granted. -/
def allows (grants required : Permissions) : Bool := grants &&& required = required

end Permissions

structure SubscriptionSlot where
  active : Bool := false
  minimumIntervalUs : UInt32 := 0
  nextDelivery : Tick := 0

/-- The words that say what the link is sending. -/
structure Transmitter where
  inFlight : Bool := false
  lane : Option OutputLane := none
  handle : LeaseHandle := {}
  generation : UInt16 := 0
  sequence : UInt32 := 0

structure LinkState (limits : ServiceLimits) where
  connected : Bool := false
  epoch : UInt32 := 0
  session : SessionState := .disconnected
  grants : Permissions := 0
  lastRequestId : UInt32 := 0
  responses : Responses limits.maxRequests := {}
  output : Output limits := {}
  transmitter : Transmitter := {}
  subscriptions : Nat → SubscriptionSlot := fun _ => {}
  subscriptionCount : UInt32 := 0

/-- A frame in the hands of the link. -/
structure TxFrame where
  lane : OutputLane
  handle : LeaseHandle
  envelope : Envelope
  payload : Bytes

/-- What the link answers to `try_transmit`. -/
inductive TxDisposition
  | accepted | busy | refused

/-- The hello payload: versions, sizes and features. -/
def helloPayload (limits : ServiceLimits) : Bytes :=
  [1, 2, 0, 0] ++ putU32 (UInt32.ofNat limits.maxFrameBytes) ++
    putU32 (UInt32.ofNat limits.maxMessageBytes) ++ putU32 limits.features

/-- The check of a ClientHello: the right size and the major version. -/
def acceptsHello (payload : Bytes) : Bool :=
  payload.length = helloSize && payload.head? == some 1

namespace LinkState

variable {limits : ServiceLimits}

def granted (link : LinkState limits) (required : Permissions) : Bool :=
  Permissions.allows link.grants required

/-- The session is active under the given epoch. -/
def isCurrent (link : LinkState limits) (epoch : UInt32) : Bool :=
  link.session = .active && link.epoch = epoch

/-! ### Output -/

section

variable (link : LinkState limits)

def transmit (slot : OutboundSlot) : LinkState limits :=
  { link with output := (link.output.transmit slot).1 }

def protocolError (request target : UInt32) (error : ErrorCode) : LinkState limits :=
  link.transmit {
    kind := .error
    flags := Flags.errorPayload
    requestId := request
    target
    payload := error.encode }

def serverHello : LinkState limits :=
  link.transmit { kind := .serverHello, payload := helloPayload limits }

end

/-- The frame that carries a cached response. -/
def responseFrame (slot : ResponseSlot) : OutboundSlot where
  kind := .response
  flags := if slot.error then Flags.errorPayload else Flags.none
  requestId := slot.request
  target := slot.target
  payload := slot.payload

section

variable (link : LinkState limits)

/-- `stage_response`: the first unstaged response is queued, if its lane has room. -/
def stageResponse : LinkState limits :=
  match link.responses.unstaged? with
  | none => link
  | some (_, slot) =>
      let sent := link.output.transmit (responseFrame slot)
      { link with
        output := sent.1
        responses := if sent.2 then link.responses.stage else link.responses }

/-- The first lane that holds a frame. -/
def selectedLane? : Option OutputLane :=
  [OutputLane.control, .response, .important, .telemetry, .bulk].find? fun lane =>
    !(link.output.lanes lane).slots.isEmpty

/-- The oldest frame of a lane leaves it. -/
def popLane (lane : OutputLane) (dropped : Bool) : LinkState limits :=
  let content := link.output.lanes lane
  { link with
    output := link.output.setLane lane {
      slots := content.slots.tail
      bounded := by
        rw [List.length_tail]
        exact Nat.le_trans (Nat.sub_le _ _) content.bounded
      record := { content.record with
        occupied := !content.slots.tail.isEmpty
        dropped := if dropped then content.record.dropped + 1 else content.record.dropped } } }

def markTransmitting (lane : OutputLane) (transmitting : Bool) : LinkState limits :=
  let content := link.output.lanes lane
  { link with
    output := link.output.setLane lane
      { content with record := { content.record with transmitting } } }

/-- The envelope of the frame at the head of a lane. -/
def envelopeFor (slot : OutboundSlot) : Envelope where
  kind := slot.kind
  flags :=
    let stable := slot.flags &&& ~~~Flags.final
    if slot.fragmentCount = 1 ∨ slot.fragmentIndex.toNat + 1 = slot.fragmentCount.toNat then
      stable ||| Flags.final
    else stable
  sessionEpoch := link.epoch
  frameSequence := link.transmitter.sequence + 1
  target := slot.target
  requestId := slot.requestId
  fragmentId := slot.fragmentId
  fragmentIndex := slot.fragmentIndex
  fragmentCount := slot.fragmentCount
  reserved := slot.reserved

/-- The first section of `try_start_transmit`: the head of the first occupied lane is encoded
and the transmitter is claimed for it. A frame that does not encode is dropped. -/
def selectFrame (encodes : Bool) : LinkState limits × Option TxFrame :=
  if link.transmitter.inFlight ∨ link.connected = false then (link, none)
  else
    match link.selectedLane? with
    | none => (link, none)
    | some lane =>
        match (link.output.lanes lane).slots with
        | [] => (link, none)
        | slot :: _ =>
            let numbered := { link with
              transmitter := { link.transmitter with sequence := link.transmitter.sequence + 1 } }
            if encodes then
              let handle : LeaseHandle := {
                slot := UInt16.ofNat lane.ctorIdx
                generation := link.transmitter.generation + 1 }
              ({ numbered.markTransmitting lane true with
                  transmitter := {
                    inFlight := true
                    lane := some lane
                    handle
                    generation := link.transmitter.generation + 1
                    sequence := link.transmitter.sequence + 1 } },
                some { lane, handle, envelope := link.envelopeFor slot, payload := slot.payload })
            else (numbered.popLane lane true, none)

/-- The transmitter is idle again. -/
def releaseTransmitter : LinkState limits :=
  { link with
    transmitter := { link.transmitter with inFlight := false, lane := none, handle := {} } }

/-- The last section of `try_start_transmit`, after the link's answer. -/
def settleTransmit (lane : OutputLane) : TxDisposition → LinkState limits
  | .accepted => link.popLane lane false
  | .busy => (link.markTransmitting lane false).releaseTransmitter
  | .refused => ((link.popLane lane true).markTransmitting lane false).releaseTransmitter

/-- `try_start_transmit`, with the link's answer. -/
def tryStartTransmit (encodes : Bool) (disposition : TxDisposition) : LinkState limits :=
  let staged := { link.stageResponse with output := link.stageResponse.output.stageFragment }
  match staged.selectFrame encodes with
  | (selected, none) => selected
  | (selected, some frame) => selected.settleTransmit frame.lane disposition

/-- The TxComplete event: only the current lease is completed. -/
def txComplete (handle : LeaseHandle) : LinkState limits :=
  match link.transmitter.lane with
  | none => link
  | some lane =>
      if handle = link.transmitter.handle then
        (link.markTransmitting lane false).releaseTransmitter
      else link

end

/-- A view of a link that no step of its output reaches. -/
def Mute {View : Type} (view : LinkState limits → View) : Prop :=
  ∀ link output transmitter, view { link with output, transmitter } =
    view link

namespace Mute

variable {View : Type} {view : LinkState limits → View} (mute : Mute view) (link : LinkState limits)

include mute

theorem selectFrame (encodes : Bool) : view (link.selectFrame encodes).1 = view link := by
  unfold LinkState.selectFrame
  split
  · rfl
  split
  · rfl
  split
  · rfl
  · cases encodes
    · exact mute link _ _
    · exact mute link _ _

theorem settleTransmit (lane : OutputLane) (disposition : TxDisposition) :
    view (link.settleTransmit lane disposition) = view link := by
  cases disposition
  · exact mute link _ link.transmitter
  · exact mute link _ _
  · exact mute link _ _

theorem tryStartTransmit (encodes : Bool) (disposition : TxDisposition) :
    view (link.tryStartTransmit encodes disposition) = view link.stageResponse := by
  unfold LinkState.tryStartTransmit
  dsimp only
  have selected := mute.selectFrame
    { link.stageResponse with output := link.stageResponse.output.stageFragment } encodes
  split
  · rename_i result
    rw [result] at selected
    exact selected.trans (mute link.stageResponse _ link.stageResponse.transmitter)
  · rename_i result
    rw [result] at selected
    rw [mute.settleTransmit]
    exact selected.trans (mute link.stageResponse _ link.stageResponse.transmitter)

theorem txComplete (handle : LeaseHandle) : view (link.txComplete handle) = view link := by
  unfold LinkState.txComplete
  split
  · rfl
  · split
    · exact mute link _ _
    · rfl

end Mute

/-! ### Responses -/

section

variable (link : LinkState limits)

def reserveResponse (request target : UInt32) : LinkState limits × Bool :=
  ({ link with responses := (link.responses.reserve request target).1 },
    (link.responses.reserve request target).2)

def releaseResponse (request : UInt32) : LinkState limits :=
  { link with responses := link.responses.release request }

def respond (request target : UInt32) (answer : Answer) : LinkState limits × Bool :=
  let written := link.responses.respond limits.responseCacheBytes request target answer
  ({ link with responses := written.1 }, written.2)

def replayResponse (request : UInt32) : LinkState limits × Replay :=
  ({ link with responses := (link.responses.replay request).1 }, (link.responses.replay request).2)

def acknowledgeResponse (request : UInt32) : LinkState limits :=
  { link with responses := link.responses.acknowledge request }

end

/-! ### Subscriptions -/

/-- A count of subscriptions follows a slot that is enabled or disabled. -/
def countSubscription (changed enable : Bool) (count : UInt32) : UInt32 :=
  if changed then (if enable then count + 1 else count - 1) else count

/-- Whether a subscription request changes its slot from inactive to active or back. -/
def subscriptionChanges (link : LinkState limits) (slot : Nat) (enable : Bool) : Bool :=
  (link.subscriptions slot).active ≠ enable

/-- The section of `update_data_subscription` and `update_topic_subscription`. -/
def setSubscription (link : LinkState limits) (slot : Nat) (enable : Bool)
    (minimumIntervalUs : UInt32) : LinkState limits :=
  let changed := link.subscriptionChanges slot enable
  { link with
    subscriptions := fun other =>
      if other ≠ slot then link.subscriptions other
      else if enable then { active := true, minimumIntervalUs }
      else if changed then {} else link.subscriptions slot
    subscriptionCount := countSubscription changed enable link.subscriptionCount }

/-! ### Sessions -/

section

variable (link : LinkState limits)

/-- A ClientHello: the session is active, whatever it was. -/
def clientHello (payload : Bytes) : LinkState limits :=
  if acceptsHello payload then { link with session := .active }.serverHello else link

/-- The requests of the session that ends are forgotten. -/
def forgetRequests : LinkState limits :=
  { link with responses := {}, lastRequestId := 0 }

/-- A SessionReset frame. -/
def sessionReset : LinkState limits :=
  { link.forgetRequests with
    session := .negotiating
    epoch := link.epoch + 1 }.serverHello

/-- The Connected event. The lanes, the transmitted lane and its handle are cleared; the
in-flight word is not. -/
def connect (grants : Permissions) : LinkState limits :=
  { link.forgetRequests with
    output := link.output.clear
    transmitter := { link.transmitter with lane := none, handle := {} }
    subscriptions := fun _ => {}
    subscriptionCount := 0
    connected := true
    session := .negotiating
    epoch := link.epoch + 1
    grants }.serverHello

/-- The Disconnected and Fault events. -/
def disconnect (fault : Bool) : LinkState limits :=
  { link.forgetRequests with
    connected := false
    session := if fault then .faulted else .disconnected
    output := link.output.clear
    transmitter := { link.transmitter with inFlight := false, lane := none, handle := {} } }

end

end LinkState

end Solar.Remote
