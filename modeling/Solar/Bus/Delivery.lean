/-
This file models one asynchronous route of the bus with the work item that drains
it. The three kinds of delivery differ in what they store: a queued route a ring of
messages behind a semaphore, a latest route one message, a coalesced route that
there is a signal. They share the record, the drain and the work item.

Emits are taken in one piece and their submissions succeed; what a queued route
does so, its emitters, drainers and stops can do step by step. The handler is a stage
of the drain, so that emits come before, between and during the handler's calls.
-/

import Solar.Bus.Route

namespace Solar.Bus

open Remote (Status)

/-! ### The record -/

/-- `RouteRecord`, with the counters of the latest and the coalesced route. -/
structure DeliveryRecord extends RouteRecord where
  replacements : Nat := 0
  coalesced : Nat := 0

namespace DeliveryRecord

section

variable (record : DeliveryRecord)

def accept (pending : Nat) : DeliveryRecord :=
  { record with toRouteRecord := record.toRouteRecord.accept pending }

def reject (status : Status) (timedOut : Bool) : DeliveryRecord :=
  { record with toRouteRecord := record.toRouteRecord.reject status timedOut }

def cancel (count inFlight : Nat) : DeliveryRecord :=
  { record with toRouteRecord := record.toRouteRecord.cancel count inFlight }

/-- `replaced`, if a message was. -/
def replace (replaced : Bool) : DeliveryRecord :=
  if replaced then { record with replacements := record.replacements + 1 } else record

/-- `coalesced`, if a signal was. -/
def coalesce (coalesced : Bool) : DeliveryRecord :=
  if coalesced then { record with coalesced := record.coalesced + 1 } else record

theorem toRouteRecord_replace (replaced : Bool) :
    (record.replace replaced).toRouteRecord = record.toRouteRecord := by
  cases replaced <;> rfl

def beginDelivery : DeliveryRecord :=
  { record with toRouteRecord := record.toRouteRecord.beginDelivery }

def endDelivery (result : Except Status Unit) : DeliveryRecord :=
  { record with toRouteRecord := record.toRouteRecord.endDelivery result }

end

end DeliveryRecord

/-! ### The kinds of delivery -/

/-- What a kind of delivery has of its own: what it stores, and what `accept`, `drain_one` up to the
handler and `clear_pending` do with it. A queued route drains in a loop. -/
structure Delivery (Message : Type) where
  Store : Type
  empty : Store
  held : Store → Nat
  accept : Store → Nat → DeliveryRecord → Message → EmitMode →
    Store × DeliveryRecord × RouteAcceptance
  takeOut : Store → Option (Message × Store)
  clear : Store → Store
  loops : Bool

/-- The storage of a queued route. -/
structure QueuedStore (Message : Type) where
  ring : Ring.Slots Message := {}
  available : Nat

variable {Message : Type}

section

section

variable (route : QueuedRoute)

/-- A queued route stores a message, in the place of the oldest one if it has no slot. -/
def QueuedRoute.keep (store : QueuedStore Message) (record : DeliveryRecord) (message : Message)
    (dropped : Bool) : QueuedStore Message × DeliveryRecord × RouteAcceptance :=
  let ring := route.storeMessage store.ring dropped message
  let counted := if dropped then
      { record with droppedOldest := record.droppedOldest + 1 }
    else record
  ({ ring, available := if dropped then store.available else store.available - 1 },
    counted.accept (ring.count % 2 ^ 32), { accepted := true, dropped, needsSubmit := true })

/-- `accept` of a queued route. -/
def QueuedRoute.accept (store : QueuedStore Message) (record : DeliveryRecord) (message : Message)
    (mode : EmitMode) : QueuedStore Message × DeliveryRecord × RouteAcceptance :=
  if 0 < store.available then route.keep store record message false
  else
    match route.overflow with
    | .dropOldest => route.keep store record message true
    | .dropNewest =>
        (store, { record with droppedNewest := record.droppedNewest + 1 }, route.refusal mode)
    | .reject | .wait =>
        let refusal := route.refusal mode
        (store, record.reject refusal.status refusal.timedOut, refusal)

/-- A queued route. -/
def QueuedRoute.delivery (Message : Type) : Delivery Message where
  Store := QueuedStore Message
  empty := { available := route.capacity }
  held store := store.ring.count
  accept store _ record message mode := route.accept store record message mode
  takeOut store :=
    if store.ring.count = 0 then none
    else
      (store.ring.storage store.ring.head).map fun message =>
        (message,
          { ring := store.ring.drop route.capacity (2 ^ route.sizeBits)
            available := min (store.available + 1) route.capacity })
  clear store := { ring := store.ring.clear, available := route.capacity }
  loops := true

end

/-- The storage of a latest route. -/
structure LatestStore (Message : Type) where
  payload : Option Message := none
  pending : Bool := false

/-- A latest route. -/
def latestDelivery (Message : Type) : Delivery Message where
  Store := LatestStore Message
  empty := {}
  held store := store.pending.toNat
  accept store inFlight record message _ :=
    let replaced := store.pending ∨ inFlight ≠ 0
    ({ payload := some message, pending := true }, (record.replace replaced).accept 1,
      { accepted := true, needsSubmit := true })
  takeOut store :=
    if store.pending then store.payload.map fun message => (message, { store with pending := false })
    else none
  clear store := { store with pending := false }
  loops := false

/-- A coalesced route stores whether there is a signal. -/
def coalescedDelivery : Delivery Unit where
  Store := Bool
  empty := false
  held pending := pending.toNat
  accept pending _ record _ _ :=
    (true, (record.coalesce pending).accept 1, { accepted := true, needsSubmit := !pending })
  takeOut pending := if pending then some ((), false) else none
  clear _ := false
  loops := false

end

/-! ### The route and its work item -/

/-- Where the work item stands: it does not run, it drains, or the handler of a message runs. -/
inductive Phase (Message : Type)
  | idle
  | draining
  | delivering (message : Message)

def Phase.running {Message : Type} : Phase Message → Bool
  | .idle => false
  | .draining | .delivering _ => true

/-- A route with its work item, which is queued or not. -/
structure Drained {Message : Type} (delivery : Delivery Message) where
  store : delivery.Store := delivery.empty
  record : DeliveryRecord := {}
  accepting : Bool := true
  queued : Bool := false
  phase : Phase Message := .idle

/-- The stop policy of a route. -/
inductive StopPolicy
  | drain
  | cancelPending

/-- What happens next: an emit, the work item starts, it drains one message, the handler returns, or
the facility stops. -/
inductive DrainStep (Message : Type)
  | emit (message : Message) (mode : EmitMode)
  | begin
  | drainOne
  | handled (result : Except Status Unit)
  | stop

section

variable {delivery : Delivery Message}

namespace Drained

section

variable (state : Drained delivery)

/-- The messages in their handler. -/
def inFlight : Nat :=
  match state.phase with
  | .delivering _ => 1
  | _ => 0

/-- The work item is queued or running. -/
def busy : Bool := state.queued || state.phase.running

/-- `accept` as the route stands. -/
def accept (message : Message) (mode : EmitMode) :
    delivery.Store × DeliveryRecord × RouteAcceptance :=
  delivery.accept state.store state.inFlight state.record message mode

/-- `emit_route`. A submission queues the work item, whether or not it runs; one that is queued stays
so. -/
def emit (message : Message) (mode : EmitMode) : Drained delivery :=
  if state.accepting then
    let accepted := state.accept message mode
    { state with
      store := accepted.1
      record := accepted.2.1
      queued := state.queued ∨ accepted.2.2.needsSubmit }
  else state

/-- `drain_one` up to the handler. Without a message the drain is at its end. -/
def drainOne : Drained delivery :=
  match delivery.takeOut state.store with
  | none => { state with phase := .idle }
  | some (message, store) =>
      { state with
        store
        record := { state.record with pending := delivery.held store % 2 ^ 32 }.beginDelivery
        phase := .delivering message }

/-- The handler returns, and the drain goes on or is at its end. -/
def handled (result : Except Status Unit) : Drained delivery :=
  { state with
    record := state.record.endDelivery result
    phase := if delivery.loops then .draining else .idle }

end

/-- `stop`, for this route. -/
def stop (policy : StopPolicy) (state : Drained delivery) : Drained delivery :=
  match policy with
  | .drain => { state with accepting := false }
  | .cancelPending =>
      { state with
        accepting := false
        store := delivery.clear state.store
        record := state.record.cancel (delivery.held state.store % 2 ^ 32) state.inFlight }

end Drained

/-- The machine of a route under its stop policy. -/
def drainMachine (delivery : Delivery Message) (policy : StopPolicy) :
    Transition.Machine (Drained delivery) (DrainStep Message) where
  step state
    | .emit message mode => some (state.emit message mode)
    | .begin =>
        match state.phase with
        | .idle =>
            if state.queued then some { state with queued := false, phase := .draining } else none
        | _ => none
    | .drainOne =>
        match state.phase with
        | .draining => some state.drainOne
        | _ => none
    | .handled result =>
        match state.phase with
        | .delivering _ => some (state.handled result)
        | _ => none
    | .stop => some (state.stop policy)

/-- What a step is taken from and leads to. -/
inductive Moved (policy : StopPolicy) (state : Drained delivery) :
    DrainStep Message → Drained delivery → Prop
  | emit (message : Message) (mode : EmitMode) :
      Moved policy state (.emit message mode) (state.emit message mode)
  | begin (idle : state.phase = .idle) (queued : state.queued = true) :
      Moved policy state .begin { state with queued := false, phase := .draining }
  | drainOne (draining : state.phase = .draining) : Moved policy state .drainOne state.drainOne
  | handled (message : Message) (result : Except Status Unit)
      (delivering : state.phase = .delivering message) :
      Moved policy state (.handled result) (state.handled result)
  | stop : Moved policy state .stop (state.stop policy)

/-- One case for each step of a drained route. -/
theorem moved_of_step {policy : StopPolicy} {state next : Drained delivery}
    {step : DrainStep Message}
    (stepped : (drainMachine delivery policy).step state step = some next) :
    Moved policy state step next := by
  cases step with
  | emit message mode =>
    cases stepped
    exact .emit message mode
  | begin =>
    simp only [drainMachine] at stepped
    cases phase : state.phase with rw [phase] at stepped
    | idle =>
      cases queued : state.queued with rw [queued] at stepped
      | true =>
        cases stepped
        exact .begin phase queued
      | false => cases stepped
    | draining | delivering => cases stepped
  | drainOne =>
    simp only [drainMachine] at stepped
    cases phase : state.phase with rw [phase] at stepped
    | draining =>
      cases stepped
      exact .drainOne phase
    | idle | delivering => cases stepped
  | handled result =>
    simp only [drainMachine] at stepped
    cases phase : state.phase with rw [phase] at stepped
    | delivering message =>
      cases stepped
      exact .handled message result phase
    | idle | draining => cases stepped
  | stop =>
    cases stepped
    exact .stop

/-! ### The route of many emitters and drainers -/

/-- The route of many emitters and drainers holds what the one whose emits are in one piece does. -/
structure Shows (route : QueuedRoute) (fine : RouteState Message)
    (state : Drained (route.delivery Message)) : Prop where
  store : state.store = (⟨fine.ring, fine.available⟩ : QueuedStore Message)
  record : fine.record = state.record.toRouteRecord
  inFlight : fine.inFlight = state.inFlight
  stops : fine.stops = []
  drainer : ∀ message, state.phase = .delivering message → .delivering ∈ fine.drainers

section

variable {route : QueuedRoute} {state next : Drained (route.delivery Message)}
  {fine : RouteState Message}

/-- An emit in one piece is the run of an emitter that nobody comes between. -/
theorem run_accept {record : DeliveryRecord} (same : fine.record = record.toRouteRecord)
    (message : Message) (mode : EmitMode) :
    let accepted := route.accept ⟨fine.ring, fine.available⟩ record message mode
    ∃ labels emitters, (routeMachine route).run fine labels = some { fine with
      ring := accepted.1.ring
      available := accepted.1.available
      record := accepted.2.1.toRouteRecord
      emitters } := by
  let kept : Bool := 0 < fine.available ∨ route.overflow = .dropOldest
  refine ⟨.take message mode ::
      if kept then .replicate 3 (.emitter fine.emitters.length (.ok ())) else [],
    fine.emitters ++ [if kept then .finished else .returned (route.refusal mode)], ?_⟩
  by_cases free : 0 < fine.available <;> cases overflow : route.overflow <;>
    simp [kept, Transition.Machine.run, routeMachine, QueuedRoute.take, QueuedRoute.accept,
      QueuedRoute.store, QueuedRoute.stepEmitter, QueuedRoute.keep, DeliveryRecord.accept,
      DeliveryRecord.reject, List.replicate, free, overflow, same]

/-- Every step of a queued route is a run of the steps of its emitters, drainers and stops. -/
theorem Shows.run (shown : Shows route fine state) {policy : StopPolicy}
    {step : DrainStep Message}
    (stepped : (drainMachine (route.delivery Message) policy).step state step = some next) :
    ∃ labels after, (routeMachine route).run fine labels = some after ∧ Shows route after next := by
  obtain ⟨store, record, inFlight, stops, drainer⟩ := shown
  cases moved_of_step stepped with
  | emit message mode =>
    unfold Drained.emit
    split
    · obtain ⟨labels, emitters, ran⟩ := run_accept record message mode
      have accepts : state.accept message mode =
          route.accept ⟨fine.ring, fine.available⟩ state.record message mode := by
        rw [← store]
        rfl
      rw [← accepts] at ran
      exact ⟨labels, _, ran, rfl, rfl, inFlight, stops, drainer⟩
    · exact ⟨[], fine, rfl, store, record, inFlight, stops, drainer⟩
  | begin idle queued =>
    refine ⟨[], fine, rfl, store, record, inFlight.trans ?_, stops, nofun⟩
    rw [Drained.inFlight, idle]
    rfl
  | drainOne draining =>
    have none : fine.inFlight = 0 := by rw [inFlight, Drained.inFlight, draining]
    unfold Drained.drainOne
    cases taken : (route.delivery Message).takeOut state.store with
    | none => exact ⟨[], fine, rfl, store, record, none, stops, nofun⟩
    | some pair =>
      rw [store] at taken
      change (if fine.ring.count = 0 then Option.none else Option.map _ _) = _ at taken
      obtain ⟨nonempty, mapped⟩ := Option.ite_none_left_eq_some.mp taken
      obtain ⟨message, front, rfl⟩ := Option.map_eq_some_iff.mp mapped
      let ring := fine.ring.drop route.capacity (2 ^ route.sizeBits)
      refine ⟨.pop :: .replicate 3 (.drainer fine.drainers.length (.ok ())), { fine with
        ring
        available := min (fine.available + 1) route.capacity
        record := { fine.record with pending := ring.count % 2 ^ 32 }.beginDelivery
        inFlight := 1
        drainers := fine.drainers ++ [.delivering] }, ?_, rfl, ?_, rfl, stops, fun _ _ => by simp⟩
      · simp [Transition.Machine.run, routeMachine, QueuedRoute.pop, QueuedRoute.stepDrainer,
          List.replicate, nonempty, none, ring]
      · rw [record]
        rfl
  | handled message result delivering =>
    obtain ⟨position, here⟩ := List.mem_iff_getElem?.mp (drainer message delivering)
    refine ⟨[.drainer position result], { fine with
      inFlight := 0
      record := fine.record.endDelivery result
      drainers := fine.drainers.set position .finished }, ?_, store, ?_, rfl, stops, nofun⟩
    · simp [Transition.Machine.run, routeMachine, here, QueuedRoute.stepDrainer, inFlight,
        Drained.inFlight, delivering]
    · exact record ▸ rfl
  | stop =>
    cases policy with
    | drain => exact ⟨[], fine, rfl, store, record, inFlight, stops, drainer⟩
    | cancelPending =>
      refine ⟨[.stop, .recordStop], { fine with
        ring := fine.ring.clear
        available := route.capacity
        record := fine.record.cancel (fine.ring.count % 2 ^ 32) fine.inFlight }, ?_, ?_, ?_,
        inFlight, stops, drainer⟩
      · simp [Transition.Machine.run, routeMachine, stops, QueuedRoute.clear]
      · simp [Drained.stop, store, QueuedRoute.delivery]
      · simp [Drained.stop, store, QueuedRoute.delivery, DeliveryRecord.cancel, record, inFlight]

/-- What a queued route comes to when its emits and its drains are not divided, it comes to as well
when they are. -/
theorem shown_of_reachable {policy : StopPolicy}
    (reached : (drainMachine (route.delivery Message) policy).Reachable {} state) :
    ∃ fine, (routeMachine route).Reachable (.initial route) fine ∧ Shows route fine state := by
  refine reached.invariant (fun state => ∃ fine,
    (routeMachine route).Reachable (.initial route) fine ∧ Shows route fine state)
    ⟨_, ⟨[], rfl⟩, rfl, rfl, rfl, rfl, nofun⟩ ?_
  rintro before label after ⟨fine, ⟨earlier, ran⟩, shown⟩ stepped
  obtain ⟨labels, final, continued, ended⟩ := shown.run stepped
  refine ⟨final, ⟨earlier ++ labels, ?_⟩, ended⟩
  rw [Transition.Machine.run_append, ran]
  exact continued

end

/-! ### What is observed -/

/-- A message is accepted, with what the route held before, or its handler starts. -/
inductive Delivered (Message : Type)
  | accepted (message : Message) (held : Nat)
  | started (message : Message)

/-- The events of a step. -/
def observeDelivery (state : Drained delivery) : DrainStep Message → List (Delivered Message)
  | .emit message mode =>
      if state.accepting ∧ (state.accept message mode).2.2.accepted then
        [.accepted message (delivery.held state.store)]
      else []
  | .drainOne => (delivery.takeOut state.store).toList.map fun taken => .started taken.1
  | _ => []

section

variable (events : List (Delivered Message))

/-- The accepted messages, in the order of their emits. -/
def acceptedOf : List Message :=
  events.filterMap fun event =>
    match event with
    | .accepted message _ => some message
    | .started _ => none

/-- The messages that were delivered, in the order of their deliveries. -/
def startedOf : List Message :=
  events.filterMap fun event =>
    match event with
    | .accepted _ _ => none
    | .started message => some message

/-- How many messages were accepted while the route held one. -/
def replacingOf : Nat :=
  events.countP fun event =>
    match event with
    | .accepted _ held => held ≠ 0
    | .started _ => false

end

end

end Solar.Bus
