/-
This file models how received bytes reach the service. A UART collects bytes up to a
delimiter and then holds them under a lease; until the lease is released it takes no
more. What tells the service of the lease is an event in a queue that all links, the
publications and the outputs share: an interrupt-driven link posts it from its handler,
an asynchronous one leaves a flag for the next poll.

The locked sections of a link, its posts and the stages of the service are steps of
their own. Of the other events only that they take room is kept.
-/

import Solar.Library.Transition
import Solar.Remote.Service.Link

namespace Solar.Remote.Reception

/-! ### Events -/

inductive LinkEventKind
  | connected | disconnected | rxReady | txComplete | fault
  deriving DecidableEq

/-- A `LinkEvent` without the status that a fault has. -/
structure LinkEvent where
  kind : LinkEventKind
  lease : LeaseHandle := {}
  size : UInt32 := 0
  deriving DecidableEq

inductive ServiceEvent (Link : Type)
  | link (subject : Link) (event : LinkEvent)
  | publication (endpoint : UInt16)
  | output (subject : Link)
  | stop
  deriving DecidableEq

/-! ### Links -/

inductive UartKind
  | async | interrupt
  deriving DecidableEq

/-- Where `poll` is: it has taken the flag, or has an event for the sink. -/
inductive Polling
  | idle
  | fetched
  | notifying (event : LinkEvent)
  deriving DecidableEq

/-- An `AsyncUart` or an `InterruptUart`, as far as it receives. Its sink is set while it is opened.
`announcing` is what the handler has to tell after its locked section, `reporting` counts the
callers that have a Connected event for the sink. The last three fields count for the proofs the
Connected events that were reported, processed, and lost while the link was closed. -/
structure Uart where
  opened : Bool := false
  opening : Bool := false
  connected : Bool := false
  occupied : Bool := false
  receiving : Bool := false
  pending : Bool := false
  storage : Bytes := []
  handle : LeaseHandle := {}
  generation : UInt16 := 0
  announcing : Option LinkEvent := none
  polling : Polling := .idle
  reporting : Nat := 0
  reported : Nat := 0
  answered : Nat := 0
  abandoned : Nat := 0

namespace Uart

variable (uart : Uart)

/-- The locked section of `open`. -/
def begin : Uart :=
  { uart with
    opened := true
    opening := true
    connected := false
    occupied := false
    pending := false
    storage := [] }

/-- A Connected event for the sink. -/
def reports : Uart :=
  { uart with reporting := uart.reporting + 1, reported := uart.reported + 1 }

/-- The rest of `open`, by the answer of the driver. -/
def finishOpen (kind : UartKind) (accepted : Bool) : Uart :=
  if accepted then
    let ready := { uart with opening := false, receiving := true }
    match kind with
    | .async => ready.reports
    | .interrupt => ready
  else { uart with opening := false, opened := false }

def close : Uart :=
  { uart with
    opened := false
    connected := false
    occupied := false
    receiving := false
    pending := false
    storage := [] }

/-- The locked section of `signal_connected`, which `open` calls unless connections are signalled
from outside. -/
def signalConnected : Uart :=
  if uart.opened = false ∨ uart.connected then uart else { uart with connected := true }.reports

/-- The locked section of `signal_disconnected`. -/
def signalDisconnected : Uart :=
  if uart.opened then { uart with connected := false } else uart

/-- The locked section of the handler, for one byte. -/
def receive (kind : UartKind) (capacity : Nat) (byte : UInt8) : Uart :=
  if uart.opened = false ∨ uart.occupied then uart
  else
    let kept := if uart.storage.length = capacity then [] else uart.storage
    let received := { uart with storage := kept ++ [byte] }
    if byte = 0 then
      let handle : LeaseHandle := { slot := 0, generation := uart.generation + 1 }
      { received with
        occupied := true
        generation := uart.generation + 1
        handle
        receiving := if kind = .interrupt then false else uart.receiving
        announcing := some ⟨.rxReady, handle, UInt32.ofNat received.storage.length⟩ }
    else received

/-- The exchange of the flag in `poll`. -/
def fetch : Uart :=
  if uart.pending then { uart with pending := false, polling := .fetched } else uart

/-- The locked section of `poll`. -/
def read : Uart :=
  { uart with
    polling :=
      if uart.opened then .notifying ⟨.rxReady, uart.handle, UInt32.ofNat uart.storage.length⟩
      else .idle }

/-- `rx_bytes` has bytes for a lease. -/
def Leases (lease : LeaseHandle) : Prop :=
  uart.opened = true ∧ uart.occupied = true ∧ lease = uart.handle

instance (lease : LeaseHandle) : Decidable (uart.Leases lease) :=
  inferInstanceAs (Decidable (_ ∧ _))

/-- `release_rx`, by the answer of the driver. -/
def release (lease : LeaseHandle) (accepted : Bool) : Uart :=
  if uart.Leases lease then
    { uart with occupied := false, storage := [], receiving := accepted }
  else uart

/-- The driver stops the reception, and `recover_disabled_rx` restarts it. -/
def recover (accepted : Bool) : Uart :=
  { uart with receiving := uart.opened && !uart.occupied && accepted }

end Uart

/-! ### The service -/

/-- The links of a service, and the depth of its queue. -/
structure Wiring (Link : Type) where
  kind : Link → UartKind
  capacity : Link → Nat
  depth : Nat
  deep : 0 < depth

/-- `processing` is the event that is dispatched, and whether `rx_bytes` has given the bytes. -/
structure State (Link : Type) where
  queue : List (ServiceEvent Link) := []
  droppedEvents : Nat := 0
  processing : Option (ServiceEvent Link × Bool) := none
  uart : Link → Uart := fun _ => {}

/-- A step. `post` is that of any event but the two kinds the links report here. -/
inductive Label (Link : Type)
  | begin (link : Link)
  | finishOpen (link : Link) (accepted : Bool)
  | close (link : Link)
  | signalConnected (link : Link)
  | signalDisconnected (link : Link)
  | report (link : Link)
  | receive (link : Link) (byte : UInt8)
  | announce (link : Link)
  | fetch (link : Link)
  | read (link : Link)
  | notify (link : Link)
  | recover (link : Link) (accepted : Bool)
  | post (event : ServiceEvent Link)
  | notifyStop
  | take
  | check
  | release (accepted : Bool)
  | finish
  | purge

/-- A Connected event of a link. -/
def ServiceEvent.isConnected {Link : Type} [DecidableEq Link] (link : Link) :
    ServiceEvent Link → Bool
  | .link subject event => subject = link && event.kind = .connected
  | _ => false

/-- Neither of the two kinds that the links report here. -/
def ServiceEvent.isOther {Link : Type} : ServiceEvent Link → Bool
  | .link _ event => event.kind ≠ .connected && event.kind ≠ .rxReady
  | _ => true

namespace State

variable {Link : Type} [DecidableEq Link] (wiring : Wiring Link) (state : State Link)

section

variable (link : Link)

def setUart (uart : Uart) : State Link :=
  { state with uart := Function.update state.uart link uart }

/-- `post`. -/
def post (event : ServiceEvent Link) : State Link :=
  if state.queue.length < wiring.depth then { state with queue := state.queue ++ [event] }
  else { state with droppedEvents := state.droppedEvents + 1 }

/-- A caller hands its Connected event to the sink. -/
def report : State Link :=
  let uart := state.uart link
  let lost := wiring.depth ≤ state.queue.length ∧ uart.opened = false
  (state.setUart link { uart with
      reporting := uart.reporting - 1
      abandoned := if lost then uart.abandoned + 1 else uart.abandoned }).post wiring
        (.link link ⟨.connected, {}, 0⟩)

section

variable (event : LinkEvent)

/-- The end of the handler. -/
def announce : State Link :=
  let uart := state.uart link
  match wiring.kind link with
  | .async =>
      state.setUart link { uart with receiving := false, pending := true, announcing := none }
  | .interrupt =>
      (state.setUart link { uart with announcing := none }).post wiring (.link link event)

/-- The end of `poll`. -/
def notify : State Link :=
  (state.setUart link { state.uart link with polling := .idle }).post wiring (.link link event)

/-- `rx_bytes` in `process_link_event`. -/
def check : State Link :=
  { state with
    processing :=
      if (state.uart link).Leases event.lease then some (.link link event, true) else none }

end

end

/-- What the other branches of `process_link_event`, and the other events, mean here. -/
def finish (event : ServiceEvent Link) : State Link :=
  { state with
    processing := none
    uart := fun link =>
      if event.isConnected link then
        { state.uart link with answered := (state.uart link).answered + 1 }
      else state.uart link }

/-- `events.purge()`. -/
def purge : State Link :=
  { state with
    queue := []
    uart := fun link =>
      { state.uart link with
        abandoned := (state.uart link).abandoned + state.queue.countP (·.isConnected link) } }

/-- One step. `init` and `deinit` purge the queue while the links are closed. -/
def step [Fintype Link] : Label Link → Option (State Link)
  | .begin link =>
      if (state.uart link).opened = false ∧ (state.uart link).opening = false then
        some (state.setUart link (state.uart link).begin)
      else none
  | .finishOpen link accepted =>
      if (state.uart link).opening then
        some (state.setUart link ((state.uart link).finishOpen (wiring.kind link) accepted))
      else none
  | .close link => some (state.setUart link (state.uart link).close)
  | .signalConnected link =>
      if wiring.kind link = .interrupt then
        some (state.setUart link (state.uart link).signalConnected)
      else none
  | .signalDisconnected link =>
      if wiring.kind link = .interrupt then
        some (state.setUart link (state.uart link).signalDisconnected)
      else none
  | .report link =>
      if 0 < (state.uart link).reporting then some (state.report wiring link) else none
  | .receive link byte =>
      if (state.uart link).announcing = none then
        some (state.setUart link
          ((state.uart link).receive (wiring.kind link) (wiring.capacity link) byte))
      else none
  | .announce link =>
      match (state.uart link).announcing with
      | some event => some (state.announce wiring link event)
      | none => none
  | .fetch link =>
      if wiring.kind link = .async ∧ (state.uart link).polling = .idle then
        some (state.setUart link (state.uart link).fetch)
      else none
  | .read link =>
      if (state.uart link).polling = .fetched then
        some (state.setUart link (state.uart link).read)
      else none
  | .notify link =>
      match (state.uart link).polling with
      | .notifying event => some (state.notify wiring link event)
      | _ => none
  | .recover link accepted =>
      if wiring.kind link = .async then
        some (state.setUart link ((state.uart link).recover accepted))
      else none
  | .post event => if event.isOther then some (state.post wiring event) else none
  | .notifyStop =>
      some { state with
        queue := if state.queue.length < wiring.depth then .stop :: state.queue else state.queue }
  | .take =>
      match state.processing, state.queue with
      | none, event :: rest => some { state with queue := rest, processing := some (event, false) }
      | _, _ => none
  | .check =>
      match state.processing with
      | some (.link link event, false) =>
          if event.kind = .rxReady then some (state.check link event) else none
      | _ => none
  | .release accepted =>
      match state.processing with
      | some (.link link event, true) =>
          some ({ state with processing := none }.setUart link
            ((state.uart link).release event.lease accepted))
      | _ => none
  | .finish =>
      match state.processing with
      | some (event, false) =>
          match event with
          | .link _ ⟨.rxReady, _, _⟩ => none
          | _ => some (state.finish event)
      | _ => none
  | .purge =>
      if ∀ link, (state.uart link).opened = false then some state.purge else none

end State

/-- The reception of a service. -/
def machine {Link : Type} [DecidableEq Link] [Fintype Link] (wiring : Wiring Link) :
    Transition.Machine (State Link) (Label Link) :=
  ⟨fun state label => state.step wiring label⟩

end Solar.Remote.Reception
