/-
This file proves the delivery laws of an asynchronous route. Emits, drains with
emits from inside the handler, and stops come in any order; emits and the parts of
a drain are taken in one piece, and submissions succeed.

A queued route delivers in the order of the emits, and what leaves it leaves from
the front: delivered or dropped. A latest route holds the last value that was
accepted until it delivers it. A coalesced route holds a signal until a handler
starts after it. And no kind leaves a message behind: a route that holds one has
its work item queued or running.
-/

import Solar.Bus.Delivery

namespace Solar.Bus

open List Option

variable {Message : Type}

/-! ### Events -/

variable (first : List (Delivered Message))

section

variable (second : List (Delivered Message))

theorem acceptedOf_append : acceptedOf (first ++ second) = acceptedOf first ++ acceptedOf second :=
  filterMap_append

theorem startedOf_append : startedOf (first ++ second) = startedOf first ++ startedOf second :=
  filterMap_append

theorem replacingOf_append :
    replacingOf (first ++ second) = replacingOf first + replacingOf second :=
  countP_append

end

variable {delivery : Delivery Message}

section

variable {state : Drained delivery}

theorem emit_closed (closed : state.accepting = false) {message : Message} {mode : EmitMode} :
    state.emit message mode = state ∧ observeDelivery state (.emit message mode) = [] := by
  simp [Drained.emit, observeDelivery, closed]

theorem emit_open (isOpen : state.accepting = true) {message : Message} {mode : EmitMode}
    {store : delivery.Store} {record : DeliveryRecord} {acceptance : RouteAcceptance}
    (accepts : state.accept message mode = (store, record, acceptance)) :
    state.emit message mode =
        { state with store, record, queued := state.queued ∨ acceptance.needsSubmit } ∧
      observeDelivery state (.emit message mode) =
        if acceptance.accepted then [.accepted message (delivery.held state.store)] else [] := by
  unfold Drained.emit observeDelivery
  simp [isOpen, accepts]

end

/-! ### No message is left behind -/

section

/-- What a kind of delivery does for its work item: an accepted message is submitted, or there was
one before; a drain that is no loop leaves nothing behind the message it takes out; and a cleared
route holds nothing. -/
structure Delivery.Wakes (delivery : Delivery Message) : Prop where
  accepted : ∀ store inFlight record message mode,
    delivery.held (delivery.accept store inFlight record message mode).1 ≠ 0 →
      (delivery.accept store inFlight record message mode).2.2.needsSubmit = true ∨
        delivery.held store ≠ 0
  single : delivery.loops = false → ∀ store message rest,
    delivery.takeOut store = some (message, rest) → delivery.held rest = 0
  cleared : ∀ store, delivery.held (delivery.clear store) = 0

/-- A route that holds a message has its work item queued, or drains and will look again. -/
def Woken (state : Drained delivery) : Prop :=
  delivery.held state.store ≠ 0 → state.queued = true ∨ state.phase = .draining ∨
      delivery.loops = true ∧ ∃ message, state.phase = .delivering message

theorem Woken.busy {state : Drained delivery} (woken : Woken state)
    (holds : delivery.held state.store ≠ 0) : state.busy = true := by
  unfold Drained.busy
  rcases woken holds with queued | draining | ⟨_, message, delivering⟩
  · rw [queued, Bool.true_or]
  · rw [draining, Phase.running, Bool.or_true]
  · rw [delivering, Phase.running, Bool.or_true]

/-- No step leaves a stored message without a drain on its way. -/
theorem Woken.step {policy : StopPolicy} {state next : Drained delivery} {step : DrainStep Message}
    (wakes : delivery.Wakes) (woken : Woken state)
    (drained : delivery.takeOut state.store = none → delivery.held state.store = 0)
    (moved : Moved policy state step next) : Woken next := by
  cases moved with
  | emit message mode =>
    unfold Drained.emit
    split
    · intro holds
      rcases wakes.accepted _ _ _ _ _ holds with submits | before
      · exact .inl (decide_eq_true (.inr submits))
      · exact (woken before).imp (fun queued => decide_eq_true (.inl queued)) id
    · exact woken
  | begin => exact fun _ => .inr (.inl rfl)
  | drainOne draining =>
    unfold Drained.drainOne
    split
    · rename_i none
      exact fun holds => absurd (drained none) holds
    · rename_i message store taken
      intro holds
      cases loops : delivery.loops with
      | true => exact .inr (.inr ⟨rfl, message, rfl⟩)
      | false => exact absurd (wakes.single loops _ _ _ taken) holds
  | handled message result delivering =>
    intro holds
    rcases woken holds with queued | draining | ⟨loops, _⟩
    · exact .inl queued
    · cases delivering.symm.trans draining
    · exact .inr (.inl (if_pos loops))
  | stop =>
    cases policy with
    | drain => exact woken
    | cancelPending => exact fun holds => absurd (wakes.cleared _) holds

theorem woken_initial (empty : delivery.held delivery.empty = 0) :
    Woken ({} : Drained delivery) := fun holds => absurd empty holds

end

/-! ### Queued routes -/

section

variable {route : QueuedRoute}

/-- What has happened to the accepted messages of a queued route: some are gone, handed out or
dropped, in order, then some were cancelled, then some are stored. -/
structure QueuedKept (route : QueuedRoute) (events : List (Delivered Message))
    (state : Drained (route.delivery Message)) (gone : List (Bool × Message))
    (cancelled stored : List Message) : Prop where
  accepts : acceptedOf events = gone.map Prod.snd ++ cancelled ++ stored
  starts : startedOf events = (gone.filter Prod.fst).map Prod.snd
  holds : Ring.Holds route.capacity state.store.ring stored
  inside : state.store.ring.head < route.capacity
  slots : state.store.available + stored.length = route.capacity
  accepted : state.record.accepted = (acceptedOf events).length
  delivered : state.record.delivered + state.inFlight = (gone.filter Prod.fst).length
  dropped : state.record.droppedOldest = (gone.filter fun entry => !entry.1).length
  counted : state.record.cancelled = cancelled.length
  stopped : cancelled = [] ∨ stored = [] ∧ state.accepting = false

theorem queuedKept_initial :
    QueuedKept route [] ({} : Drained (route.delivery Message)) [] [] [] where
  accepts := rfl
  starts := rfl
  holds := Ring.Holds.empty route.capacity
  inside := route.positive
  slots := rfl
  accepted := rfl
  delivered := rfl
  dropped := rfl
  counted := rfl
  stopped := .inl rfl

theorem QueuedRoute.refusal_accepted (route : QueuedRoute) {mode : EmitMode} :
    (route.refusal mode).accepted = false := by
  unfold QueuedRoute.refusal
  split
  · rfl
  · split <;> rfl
  · rfl
  · rfl

theorem wakes_queued : (route.delivery Message).Wakes where
  accepted store inFlight record message mode holds := by
    change (route.accept store record message mode).1.ring.count ≠ 0 at holds
    change (route.accept store record message mode).2.2.needsSubmit = true ∨ store.ring.count ≠ 0
    unfold QueuedRoute.accept at holds ⊢
    split_ifs at holds ⊢
    · exact .inl rfl
    · cases overflow : route.overflow with
      | dropOldest => exact .inl rfl
      | dropNewest | reject | wait =>
        rw [overflow] at holds
        exact .inr holds
  single loops := nomatch loops
  cleared _ := rfl

variable {events : List (Delivered Message)} {state : Drained (route.delivery Message)}
variable {gone : List (Bool × Message)} {cancelled stored : List Message}

section

variable (kept : QueuedKept route events state gone cancelled stored)

include kept

theorem QueuedKept.takeOut :
    (route.delivery Message).takeOut state.store =
      match stored with
      | [] => none
      | message :: _ => some (message,
          { ring := state.store.ring.drop route.capacity (2 ^ route.sizeBits)
            available := min (state.store.available + 1) route.capacity }) := by
  have count := kept.holds.count
  cases stored with
  | nil => exact if_pos count
  | cons message rest =>
    have nonzero : state.store.ring.count ≠ 0 := by
      rw [count]
      exact Nat.succ_ne_zero _
    change (if state.store.ring.count = 0 then none else Option.map _ _) = _
    rw [if_neg nonzero, kept.holds.head kept.inside]
    rfl

theorem QueuedKept.drained (none : (route.delivery Message).takeOut state.store = none) :
    (route.delivery Message).held state.store = 0 := by
  rw [kept.takeOut] at none
  cases stored with
  | nil => exact kept.holds.count
  | cons message rest => cases none

theorem QueuedKept.of_same {next : Drained (route.delivery Message)}
    (store : next.store = state.store) (accepted : next.record.accepted = state.record.accepted)
    (delivered : next.record.delivered + next.inFlight = state.record.delivered + state.inFlight)
    (dropped : next.record.droppedOldest = state.record.droppedOldest)
    (counted : next.record.cancelled = state.record.cancelled)
    (stopped : state.accepting = false → next.accepting = false) :
    QueuedKept route events next gone cancelled stored where
  accepts := kept.accepts
  starts := kept.starts
  holds := store ▸ kept.holds
  inside := store ▸ kept.inside
  slots := store ▸ kept.slots
  accepted := accepted.trans kept.accepted
  delivered := delivered.trans kept.delivered
  dropped := dropped.trans kept.dropped
  counted := counted.trans kept.counted
  stopped := kept.stopped.imp id fun both => ⟨both.1, stopped both.2⟩

/-- A message is stored behind the others. -/
theorem QueuedKept.store (message : Message) (accepting : state.accepting = true)
    (free : 0 < state.store.available) (queued : Bool) (held : Nat) :
    let kept := route.keep state.store state.record message false
    QueuedKept route (events ++ [.accepted message held])
      { state with store := kept.1, record := kept.2.1, queued } gone cancelled
      (stored ++ [message]) := by
  have slots := kept.slots
  have room : stored.length < route.capacity := by omega
  have holds := kept.holds.push room route.representable message
  refine ⟨?_, ?_, holds, kept.inside, ?_, ?_, kept.delivered, kept.dropped, kept.counted, ?_⟩
  · rw [acceptedOf_append, kept.accepts, append_assoc]
    rfl
  · rw [startedOf_append, kept.starts]
    exact append_nil _
  · rw [length_append, length_singleton]
    change state.store.available - 1 + _ = _
    omega
  · rw [acceptedOf_append, length_append, ← kept.accepted]
    rfl
  · exact kept.stopped.imp id fun both => absurd both.2 (Bool.not_eq_false _ ▸ accepting)

end

/-- A message is stored in the place of the oldest one, which is dropped. -/
theorem QueuedKept.replace {oldest : Message} {rest : List Message}
    (kept : QueuedKept route events state gone [] (oldest :: rest)) (message : Message)
    (queued : Bool) (held : Nat) :
    let kept := route.keep state.store state.record message true
    QueuedKept route (events ++ [.accepted message held])
      { state with store := kept.1, record := kept.2.1, queued } (gone ++ [(false, oldest)]) []
      (rest ++ [message]) := by
  have holds := (kept.holds.drop route.representable).push kept.holds.bounded
    route.representable message
  refine ⟨?_, ?_, holds, Nat.mod_lt _ route.positive, ?_, ?_, ?_, ?_, kept.counted, .inl rfl⟩
  · rw [acceptedOf_append, kept.accepts, map_append]
    simp only [append_nil, append_assoc]
    rfl
  · rw [startedOf_append, kept.starts, filter_append, map_append]
    rfl
  · rw [length_append]
    exact kept.slots
  · rw [acceptedOf_append, length_append, ← kept.accepted]
    rfl
  · rw [filter_append]
    exact kept.delivered.trans (congrArg length (append_nil _).symm)
  · rw [filter_append, length_append, ← kept.dropped]
    rfl

section

variable (kept : QueuedKept route events state gone cancelled stored)

include kept

theorem QueuedKept.refuse (isOpen : state.accepting = true) {message : Message} {mode : EmitMode}
    {record : DeliveryRecord}
    (refuses : state.accept message mode = (state.store, record, route.refusal mode))
    (accepted : record.accepted = state.record.accepted)
    (delivered : record.delivered = state.record.delivered)
    (dropped : record.droppedOldest = state.record.droppedOldest)
    (counted : record.cancelled = state.record.cancelled) :
    QueuedKept route (events ++ observeDelivery state (.emit message mode))
      (state.emit message mode) gone cancelled stored := by
  obtain ⟨emitted, observed⟩ := emit_open isOpen refuses
  rw [emitted, observed, route.refusal_accepted, if_neg nofun, append_nil]
  exact kept.of_same rfl accepted (congrArg (· + state.inFlight) delivered) dropped counted id

/-- An emit stores its message, displaces another or rejects one. -/
theorem QueuedKept.emit (message : Message) (mode : EmitMode) :
    ∃ gone stored, QueuedKept route (events ++ observeDelivery state (.emit message mode))
      (state.emit message mode) gone cancelled stored := by
  cases accepting : state.accepting with
  | false =>
    obtain ⟨emitted, observed⟩ := emit_closed accepting
    rw [emitted, observed, append_nil]
    exact ⟨gone, stored, kept⟩
  | true =>
    have accepts : state.accept message mode =
        route.accept state.store state.record message mode := rfl
    unfold QueuedRoute.accept at accepts
    by_cases free : 0 < state.store.available
    · rw [if_pos free] at accepts
      obtain ⟨emitted, observed⟩ := emit_open accepting accepts
      rw [emitted, observed]
      exact ⟨gone, stored ++ [message], kept.store message accepting free _ _⟩
    · rw [if_neg free] at accepts
      cases overflow : route.overflow with rw [overflow] at accepts
      | dropOldest =>
        obtain ⟨emitted, observed⟩ := emit_open accepting accepts
        rw [emitted, observed]
        cases stored with
        | nil =>
          have slots := kept.slots
          have positive := route.positive
          rw [length_nil] at slots
          omega
        | cons oldest rest =>
          obtain rfl := kept.stopped.resolve_right nofun
          exact ⟨_, _, kept.replace message _ _⟩
      | _ => exact ⟨gone, stored, kept.refuse accepting accepts rfl rfl rfl rfl⟩

/-- A drain takes the oldest message. -/
theorem QueuedKept.drainOne (draining : state.phase = .draining) :
    ∃ gone stored, QueuedKept route (events ++ observeDelivery state .drainOne) state.drainOne
      gone cancelled stored := by
  have idle : state.inFlight = 0 := by rw [Drained.inFlight, draining]
  have taken := kept.takeOut
  cases stored with
  | nil =>
    refine ⟨gone, [], ?_⟩
    simp only [observeDelivery, Drained.drainOne, taken, toList_none, map_nil, append_nil]
    refine kept.of_same rfl rfl ?_ rfl rfl fun closed => closed
    rw [idle]
    rfl
  | cons message rest =>
    obtain rfl := kept.stopped.resolve_right fun ended => cons_ne_nil message rest ended.1
    have slots := kept.slots
    rw [length_cons] at slots
    refine ⟨gone ++ [(true, message)], rest, ?_⟩
    simp only [observeDelivery, Drained.drainOne, taken, toList_some, map_cons, map_nil]
    refine ⟨?_, ?_, kept.holds.drop route.representable, Nat.mod_lt _ route.positive, ?_, ?_, ?_,
      ?_, kept.counted, .inl rfl⟩
    · rw [acceptedOf_append, kept.accepts, map_append]
      simp only [append_nil, append_assoc]
      exact congrArg (gone.map Prod.snd ++ message :: ·) (append_nil rest)
    · rw [startedOf_append, kept.starts, filter_append, map_append]
      rfl
    · change min (state.store.available + 1) route.capacity + rest.length = _
      omega
    · rw [acceptedOf_append, length_append]
      exact kept.accepted
    · rw [filter_append, length_append, ← kept.delivered, idle]
      rfl
    · rw [filter_append]
      exact kept.dropped.trans (congrArg length (append_nil _).symm)

theorem QueuedKept.handled {message : Message} (delivering : state.phase = .delivering message)
    (result : Except Remote.Status Unit) :
    QueuedKept route events (state.handled result) gone cancelled stored := by
  refine kept.of_same rfl rfl ?_ rfl rfl fun closed => closed
  have flying : state.inFlight = 1 := by rw [Drained.inFlight, delivering]
  rw [flying]
  rfl

theorem QueuedKept.stop (policy : StopPolicy) (ceiling : route.capacity ≤ 65535) :
    ∃ cancelled stored, QueuedKept route events (state.stop policy) gone cancelled stored := by
  cases policy with
  | drain => exact ⟨cancelled, stored, kept.of_same rfl rfl rfl rfl rfl fun _ => rfl⟩
  | cancelPending =>
    have holds := kept.holds
    have removed : state.store.ring.count % 2 ^ 32 = stored.length := by
      have bounded := holds.bounded
      rw [holds.count]
      exact Nat.mod_eq_of_lt (by omega)
    refine ⟨cancelled ++ stored, [], ?_, kept.starts, Ring.Holds.clear _ _, route.positive, rfl,
      kept.accepted, kept.delivered, kept.dropped, ?_, .inr ⟨rfl, rfl⟩⟩
    · rw [kept.accepts, append_nil, append_assoc]
    · change state.record.cancelled + state.store.ring.count % 2 ^ 32 = _
      rw [kept.counted, removed, length_append]

end

end

/-! ### Latest routes -/

section

variable {events : List (Delivered Message)} {state : Drained (latestDelivery Message)}

/-- A latest route holds the last accepted message, or has delivered it, unless it was cancelled. -/
structure LatestKept (events : List (Delivered Message)) (state : Drained (latestDelivery Message)) :
    Prop where
  holdsLast : state.store.pending = true → state.store.payload = (acceptedOf events).getLast? ∧
    acceptedOf events ≠ []
  startedLast : state.store.pending = false → state.record.cancelled = 0 →
    (startedOf events).getLast? = (acceptedOf events).getLast?
  counted : state.record.accepted = (acceptedOf events).length
  accounted : state.record.accepted = state.record.delivered + state.inFlight +
    replacingOf events + state.record.cancelled + state.store.pending.toNat

theorem latestKept_initial : LatestKept [] ({} : Drained (latestDelivery Message)) where
  holdsLast := nofun
  startedLast _ _ := rfl
  counted := rfl
  accounted := rfl

theorem wakes_latest : (latestDelivery Message).Wakes where
  accepted _ _ _ _ _ _ := .inl rfl
  single _ store message rest taken := by
    simp only [latestDelivery] at taken
    split at taken
    · obtain ⟨payload, _, same⟩ := map_eq_some_iff.mp taken
      obtain ⟨⟩ := same
      rfl
    · cases taken
  cleared _ := rfl

section

variable (kept : LatestKept events state)

include kept

theorem LatestKept.takeOut (pending : state.store.pending = true) :
    ∃ message, (acceptedOf events).getLast? = some message ∧
      (latestDelivery Message).takeOut state.store =
        some (message, { state.store with pending := false }) := by
  obtain ⟨payload, nonempty⟩ := kept.holdsLast pending
  obtain ⟨message, last⟩ := isSome_iff_exists.mp (List.getLast?_isSome.mpr nonempty)
  refine ⟨message, last, ?_⟩
  change (if state.store.pending = true then Option.map _ state.store.payload else none) = _
  rw [if_pos pending]
  exact congrArg (Option.map fun message => (message, { state.store with pending := false }))
    (payload.trans last)

theorem LatestKept.drained (none : (latestDelivery Message).takeOut state.store = none) :
    (latestDelivery Message).held state.store = 0 := by
  cases pending : state.store.pending with
  | false => exact congrArg Bool.toNat pending
  | true =>
    obtain ⟨message, _, taken⟩ := kept.takeOut pending
    cases none.symm.trans taken

/-- An emit stores its message over the one that waits. -/
theorem LatestKept.emit (message : Message) (mode : EmitMode) :
    LatestKept (events ++ observeDelivery state (.emit message mode)) (state.emit message mode) := by
  cases accepting : state.accepting with
  | false =>
    obtain ⟨emitted, observed⟩ := emit_closed accepting
    rw [emitted, observed, append_nil]
    exact kept
  | true =>
    obtain ⟨emitted, observed⟩ := emit_open accepting (Eq.refl (state.accept message mode))
    rw [emitted, observed]
    change LatestKept (events ++ [.accepted message state.store.pending.toNat]) _
    have accepted : acceptedOf (events ++ [.accepted message state.store.pending.toNat]) =
        acceptedOf events ++ [message] := acceptedOf_append _ _
    refine ⟨fun _ => ⟨?_, ?_⟩, nofun, ?_, ?_⟩
    · rw [accepted, getLast?_append]
      rfl
    · rw [accepted]
      exact append_ne_nil_of_right_ne_nil _ (cons_ne_nil _ _)
    · rw [accepted, length_append, ← kept.counted]
      exact congrArg (·.accepted + 1) (DeliveryRecord.toRouteRecord_replace _ _)
    · have accounted := kept.accounted
      rw [replacingOf_append]
      change ((state.record.replace _).accept 1).accepted =
        ((state.record.replace _).accept 1).delivered + state.inFlight + (replacingOf events + _) +
          ((state.record.replace _).accept 1).cancelled + 1
      simp only [DeliveryRecord.accept, DeliveryRecord.toRouteRecord_replace, RouteRecord.accept]
      cases pending : state.store.pending with rw [pending] at accounted
      | true =>
        change _ = _ + (replacingOf events + 1) + _ + 1
        rw [accounted]
        change _ + 1 + 1 = _
        omega
      | false =>
        rw [accounted]
        rfl

theorem LatestKept.drainOne (draining : state.phase = .draining) :
    LatestKept (events ++ observeDelivery state .drainOne) state.drainOne := by
  have idle : state.inFlight = 0 := by rw [Drained.inFlight, draining]
  have accounted := kept.accounted
  cases pending : state.store.pending with
  | false =>
    have none : (latestDelivery Message).takeOut state.store = none :=
      if_neg (Bool.eq_false_iff.mp pending)
    simp only [observeDelivery, Drained.drainOne, none, toList_none, map_nil, append_nil]
    refine ⟨kept.holdsLast, kept.startedLast, kept.counted, ?_⟩
    rw [idle] at accounted
    exact accounted
  | true =>
    obtain ⟨message, last, taken⟩ := kept.takeOut pending
    simp only [observeDelivery, Drained.drainOne, taken, toList_some, map_cons, map_nil]
    have accepted : acceptedOf (events ++ [.started message]) = acceptedOf events := by
      rw [acceptedOf_append]
      exact append_nil _
    refine ⟨fun held => absurd held Bool.false_ne_true, fun _ _ => ?_,
      by rw [accepted]; exact kept.counted, ?_⟩
    · rw [accepted, last, startedOf_append, getLast?_append]
      rfl
    · rw [pending] at accounted
      rw [replacingOf_append]
      change state.record.accepted = state.record.delivered + 1 + (replacingOf events + 0) +
        state.record.cancelled + 0
      rw [accounted]
      change _ + 1 = _
      omega

theorem LatestKept.handled {message : Message} (delivering : state.phase = .delivering message)
    (result : Except Remote.Status Unit) : LatestKept events (state.handled result) := by
  have flying : state.inFlight = 1 := by rw [Drained.inFlight, delivering]
  have accounted := kept.accounted
  rw [flying] at accounted
  exact ⟨kept.holdsLast, kept.startedLast, kept.counted, accounted⟩

theorem LatestKept.stop (policy : StopPolicy) : LatestKept events (state.stop policy) := by
  cases policy with
  | drain => exact ⟨kept.holdsLast, kept.startedLast, kept.counted, kept.accounted⟩
  | cancelPending =>
    have accounted := kept.accounted
    have small : state.store.pending.toNat % 2 ^ 32 = state.store.pending.toNat := by
      cases state.store.pending <;> rfl
    refine ⟨nofun, fun _ none => ?_, kept.counted, ?_⟩
    · have none : state.record.cancelled + state.store.pending.toNat % 2 ^ 32 = 0 := none
      have pending : state.store.pending = false := by
        cases pending : state.store.pending with
        | false => rfl
        | true =>
          rw [pending] at none
          exact absurd none (Nat.succ_ne_zero _)
      exact kept.startedLast pending (Nat.eq_zero_of_add_eq_zero_right none)
    · change state.record.accepted = state.record.delivered + state.inFlight + replacingOf events +
        (state.record.cancelled + state.store.pending.toNat % 2 ^ 32) + 0
      omega

end

end

/-! ### Coalesced routes -/

section

variable {events : List (Delivered Unit)} {state : Drained coalescedDelivery}

/-- Every signal has a handler that started after it, unless the route still holds it or it was
cancelled. -/
def CoalescedKept (events : List (Delivered Unit)) (state : Drained coalescedDelivery) : Prop :=
  ∀ before held after, events = before ++ .accepted () held :: after →
    .started () ∈ after ∨ state.store = true ∨ state.record.cancelled ≠ 0

theorem wakes_coalesced : coalescedDelivery.Wakes where
  accepted pending _ _ _ _ _ := by
    cases pending with
    | true => exact .inr Nat.one_ne_zero
    | false => exact .inl rfl
  single _ pending _ rest taken := by
    cases pending with
    | true =>
      obtain rfl := (Prod.mk.inj (some.inj taken)).2
      rfl
    | false => cases taken
  cleared _ := rfl

theorem coalesced_drained (pending : coalescedDelivery.Store)
    (none : coalescedDelivery.takeOut pending = none) : coalescedDelivery.held pending = 0 := by
  cases pending with
  | true => cases none
  | false => rfl

theorem CoalescedKept.drainOne (kept : CoalescedKept events state) :
    CoalescedKept (events ++ observeDelivery state .drainOne) state.drainOne := by
  unfold observeDelivery Drained.drainOne
  cases taken : coalescedDelivery.takeOut state.store with
  | none =>
    simp only [toList_none, map_nil, append_nil]
    exact kept
  | some entry =>
    intro before held after split
    -- The handler that starts now is the last event, so it comes after every signal.
    refine .inl ?_
    rcases eq_nil_or_concat after with rfl | ⟨init, last, rfl⟩
    · have same := (append_inj' split rfl).2
      cases head_eq_of_cons_eq same
    · rw [concat_eq_append, ← cons_append, ← append_assoc] at split
      have same := (append_inj' split rfl).2
      rw [concat_eq_append, ← head_eq_of_cons_eq same]
      exact mem_append_right _ mem_cons_self

/-- Every step keeps what the counters say of the pending message. -/
theorem CoalescedKept.step {policy : StopPolicy} {next : Drained coalescedDelivery}
    {step : DrainStep Unit} (kept : CoalescedKept events state)
    (moved : Moved policy state step next) :
    CoalescedKept (events ++ observeDelivery state step) next := by
  cases moved with
  | emit message mode =>
    cases accepting : state.accepting with
    | false =>
      obtain ⟨emitted, observed⟩ := emit_closed accepting
      rw [emitted, observed, append_nil]
      exact kept
    | true =>
      obtain ⟨emitted, _⟩ := emit_open accepting (Eq.refl (state.accept message mode))
      rw [emitted]
      exact fun _ _ _ _ => .inr (.inl rfl)
  | begin idle queued =>
    rw [show observeDelivery state .begin = [] from rfl, append_nil]
    exact kept
  | drainOne draining => exact kept.drainOne
  | handled message result delivering =>
    rw [show observeDelivery state (.handled result) = [] from rfl, append_nil]
    exact kept
  | stop =>
    rw [show observeDelivery state .stop = [] from rfl, append_nil]
    cases policy with
    | drain => exact kept
    | cancelPending =>
      intro before held after split
      rcases kept before held after split with started | pending | cancelled
      · exact .inl started
      · refine .inr (.inr ?_)
        have one : coalescedDelivery.held state.store % 2 ^ 32 = 1 := by
          rw [show coalescedDelivery.held state.store = 1 from congrArg Bool.toNat pending]
          rfl
        change state.record.cancelled + coalescedDelivery.held state.store % 2 ^ 32 ≠ 0
        omega
      · exact .inr (.inr fun none => cancelled (Nat.eq_zero_of_add_eq_zero_right none))

end

/-! ### The laws -/

/-- A queued route delivers in the order of the emits, every accepted message is delivered, in its
handler, dropped as the oldest, cancelled or stored, and a route that stores one is drained. Between
two drains no message is in its handler. -/
structure QueuedLaws (route : QueuedRoute) (events : List (Delivered Message))
    (state : Drained (route.delivery Message)) : Prop where
  inOrder : (startedOf events).Sublist (acceptedOf events)
  counted : state.record.accepted = (acceptedOf events).length
  accounted : state.record.accepted = state.record.delivered + state.inFlight +
    state.record.droppedOldest + state.record.cancelled + state.store.ring.count
  drained : state.store.ring.count ≠ 0 → state.busy = true

/-- A latest route that is drained has delivered the last value it accepted, every accepted message is
delivered, in its handler, replaced before that, cancelled or pending, and a route with a pending one
is drained. -/
structure LatestLaws (events : List (Delivered Message)) (state : Drained (latestDelivery Message)) :
    Prop where
  last : state.store.pending = false → state.record.cancelled = 0 →
    (startedOf events).getLast? = (acceptedOf events).getLast?
  counted : state.record.accepted = (acceptedOf events).length
  accounted : state.record.accepted = state.record.delivered + state.inFlight +
    replacingOf events + state.record.cancelled + state.store.pending.toNat
  drained : state.store.pending = true → state.busy = true

/-- A handler of a coalesced route starts after every signal, as long as the route is not stopped
with the signal pending: it has started once the work item rests, and until then the work item is
queued or running. -/
structure CoalescedLaws (events : List (Delivered Unit)) (state : Drained coalescedDelivery) :
    Prop where
  followed : ∀ before held after, events = before ++ .accepted () held :: after →
    state.record.cancelled = 0 → .started () ∈ after ∨ state.store = true ∧ state.busy = true
  rested : ∀ before held after, events = before ++ .accepted () held :: after →
    state.record.cancelled = 0 → state.busy = false → .started () ∈ after
  drained : state.store = true → state.busy = true

section

variable {policy : StopPolicy} {labels : List (DrainStep Message)}

/-- The laws of a queued route hold in every run. -/
theorem queuedLaws {route : QueuedRoute} (ceiling : route.capacity ≤ 65535)
    {state : Drained (route.delivery Message)}
    (ran : (drainMachine (route.delivery Message) policy).run {} labels = some state) :
    QueuedLaws route ((drainMachine (route.delivery Message) policy).observed observeDelivery {}
      labels) state := by
  obtain ⟨⟨gone, cancelled, stored, kept⟩, woken⟩ :=
    (drainMachine (route.delivery Message) policy).run_observed (motive := fun events state =>
        (∃ gone cancelled stored, QueuedKept route events state gone cancelled stored) ∧
          Woken state)
      (fun events state step next holds stepped => by
        obtain ⟨⟨gone, cancelled, stored, kept⟩, woken⟩ := holds
        have moved := moved_of_step stepped
        refine ⟨?_, woken.step wakes_queued kept.drained moved⟩
        cases moved with
        | emit message mode =>
          obtain ⟨gone, stored, after⟩ := kept.emit message mode
          exact ⟨gone, cancelled, stored, after⟩
        | begin idle queued =>
          refine ⟨gone, cancelled, stored, ?_⟩
          rw [show observeDelivery state .begin = [] from rfl, append_nil]
          refine kept.of_same rfl rfl ?_ rfl rfl id
          rw [Drained.inFlight, Drained.inFlight, idle]
        | drainOne draining =>
          obtain ⟨gone, stored, after⟩ := kept.drainOne draining
          exact ⟨gone, cancelled, stored, after⟩
        | handled message result delivering =>
          refine ⟨gone, cancelled, stored, ?_⟩
          rw [show observeDelivery state (.handled result) = [] from rfl, append_nil]
          exact kept.handled delivering result
        | stop =>
          rw [show observeDelivery state .stop = [] from rfl, append_nil]
          obtain ⟨cancelled, stored, after⟩ := kept.stop policy ceiling
          exact ⟨gone, cancelled, stored, after⟩)
      ⟨⟨[], [], [], queuedKept_initial⟩, woken_initial rfl⟩ ran
  rw [nil_append] at kept
  refine ⟨?_, kept.accepted, ?_, woken.busy⟩
  · rw [kept.starts, kept.accepts, append_assoc]
    exact (filter_sublist.map _).trans (sublist_append_left _ _)
  · have total := gone.length_eq_length_filter_add Prod.fst
    rw [kept.accepted, kept.accepts, kept.delivered, kept.dropped, kept.counted, kept.holds.count,
      length_append, length_append, length_map, total]

theorem latestLaws {state : Drained (latestDelivery Message)}
    (ran : (drainMachine (latestDelivery Message) policy).run {} labels = some state) :
    LatestLaws ((drainMachine (latestDelivery Message) policy).observed observeDelivery {} labels)
      state := by
  obtain ⟨kept, woken⟩ :=
    (drainMachine (latestDelivery Message) policy).run_observed
      (motive := fun events state => LatestKept events state ∧ Woken state)
      (fun events state step next holds stepped => by
        obtain ⟨kept, woken⟩ := holds
        have moved := moved_of_step stepped
        refine ⟨?_, woken.step wakes_latest kept.drained moved⟩
        cases moved with
        | emit message mode => exact kept.emit message mode
        | begin idle queued =>
          rw [show observeDelivery state .begin = [] from rfl, append_nil]
          refine ⟨kept.holdsLast, kept.startedLast, kept.counted, kept.accounted.trans ?_⟩
          rw [Drained.inFlight, Drained.inFlight, idle]
        | drainOne draining => exact kept.drainOne draining
        | handled message result delivering =>
          rw [show observeDelivery state (.handled result) = [] from rfl, append_nil]
          exact kept.handled delivering result
        | stop =>
          rw [show observeDelivery state .stop = [] from rfl, append_nil]
          exact kept.stop policy)
      ⟨latestKept_initial, woken_initial rfl⟩ ran
  refine ⟨kept.startedLast, kept.counted, kept.accounted, fun pending => woken.busy ?_⟩
  rw [show (latestDelivery Message).held state.store = 1 from congrArg Bool.toNat pending]
  exact Nat.one_ne_zero

/-- The laws of a coalesced route hold in every run. -/
theorem coalescedLaws {labels : List (DrainStep Unit)} {state : Drained coalescedDelivery}
    (ran : (drainMachine coalescedDelivery policy).run {} labels = some state) :
    CoalescedLaws ((drainMachine coalescedDelivery policy).observed observeDelivery {} labels)
      state := by
  obtain ⟨kept, woken⟩ :=
    (drainMachine coalescedDelivery policy).run_observed
      (motive := fun events state => CoalescedKept events state ∧ Woken state)
      (fun events state step next holds stepped =>
        ⟨holds.1.step (moved_of_step stepped),
          holds.2.step wakes_coalesced (coalesced_drained _) (moved_of_step stepped)⟩)
      ⟨fun before _ _ split => absurd split.symm (append_ne_nil_of_right_ne_nil before
        (cons_ne_nil _ _)), woken_initial rfl⟩ ran
  have drained : state.store = true → state.busy = true := by
    intro pending
    refine woken.busy ?_
    rw [show coalescedDelivery.held state.store = 1 from congrArg Bool.toNat pending]
    exact Nat.one_ne_zero
  have followed : ∀ before held after,
      (drainMachine coalescedDelivery policy).observed observeDelivery {} labels =
        before ++ .accepted () held :: after →
      state.record.cancelled = 0 → .started () ∈ after ∨ state.store = true ∧ state.busy = true := by
    intro before held after split none
    rcases kept before held after split with started | pending | cancelled
    · exact .inl started
    · exact .inr ⟨pending, drained pending⟩
    · exact absurd none cancelled
  refine ⟨followed, ?_, drained⟩
  intro before held after split none rests
  rcases followed before held after split none with started | ⟨_, busy⟩
  · exact started
  · cases rests.symm.trans busy

end

/-- In every run of emits, drains with emits from inside the handler, and stops, each kind of route
keeps its laws. The ceiling is the one that is checked where the route is declared. -/
theorem routes_keep_their_laws (policy : StopPolicy) :
    (∀ (Message : Type) (route : QueuedRoute) (labels : List (DrainStep Message))
        (state : Drained (route.delivery Message)), route.capacity ≤ 65535 →
      (drainMachine (route.delivery Message) policy).run {} labels = some state →
      QueuedLaws route ((drainMachine (route.delivery Message) policy).observed observeDelivery {}
        labels) state) ∧
    (∀ (Message : Type) (labels : List (DrainStep Message))
        (state : Drained (latestDelivery Message)),
      (drainMachine (latestDelivery Message) policy).run {} labels = some state →
      LatestLaws ((drainMachine (latestDelivery Message) policy).observed observeDelivery {} labels)
        state) ∧
    ∀ (labels : List (DrainStep Unit)) (state : Drained coalescedDelivery),
      (drainMachine coalescedDelivery policy).run {} labels = some state →
      CoalescedLaws ((drainMachine coalescedDelivery policy).observed observeDelivery {} labels)
        state :=
  ⟨fun _ _ _ _ ceiling ran => queuedLaws ceiling ran, fun _ _ _ ran => latestLaws ran,
    fun _ _ ran => coalescedLaws ran⟩

/-- A route of two slots that drops the oldest message. -/
abbrev twoSlots : QueuedRoute where
  capacity := 2
  overflow := .dropOldest
  sizeBits := 32
  positive := by decide
  representable := by decide

/-- Three emits, of which the first is dropped, a fourth from inside the handler, and a stop that
cancels it. -/
abbrev queuedRun : List (DrainStep Nat) :=
  [.emit 1 .normal, .emit 2 .normal, .emit 3 .normal, .begin, .drainOne, .emit 4 .normal,
    .handled (.ok ()), .drainOne, .handled (.ok ()), .stop]

/-- Two emits and one from inside the handler, which queues the work item again. -/
abbrev nestedRun {Message : Type} (message : Message) : List (DrainStep Message) :=
  [.emit message .normal, .emit message .normal, .begin, .drainOne, .emit message .normal,
    .handled (.ok ()), .begin, .drainOne, .handled (.ok ())]

theorem routes_keep_their_laws_nested :
    (∃ state : Drained (twoSlots.delivery Nat),
      (drainMachine (twoSlots.delivery Nat) .cancelPending).run {} queuedRun = some state ∧
      state.record.accepted = 4 ∧ state.record.cancelled = 1 ∧
      QueuedLaws twoSlots ((drainMachine (twoSlots.delivery Nat) .cancelPending).observed
        observeDelivery {} queuedRun) state) ∧
    (∃ state : Drained (latestDelivery Nat),
      (drainMachine (latestDelivery Nat) .cancelPending).run {} (nestedRun 7) = some state ∧
      LatestLaws ((drainMachine (latestDelivery Nat) .cancelPending).observed observeDelivery {}
        (nestedRun 7)) state) ∧
    ∃ state : Drained coalescedDelivery,
      (drainMachine coalescedDelivery .cancelPending).run {} (nestedRun ()) = some state ∧
      CoalescedLaws ((drainMachine coalescedDelivery .cancelPending).observed observeDelivery {}
        (nestedRun ())) state := by
  obtain ⟨queued, latest, coalesced⟩ := routes_keep_their_laws .cancelPending
  exact ⟨⟨_, rfl, rfl, rfl, queued Nat twoSlots queuedRun _ (by decide) rfl⟩,
    ⟨_, rfl, latest Nat (nestedRun 7) _ rfl⟩, ⟨_, rfl, coalesced (nestedRun ()) _ rfl⟩⟩

end Solar.Bus
