/-
This file proves when the ring of a queued route and its semaphore stay in step.
The slots are conserved: each is available, holds a message, is held by an emitter
that has not stored yet, or belongs to a message that was taken out and whose slot
was not given back.

Two steps do not keep the account by themselves. An emitter that found no slot
drops the oldest message later, when there may be none; and who clears the ring
gives all slots, also those that others hold. The account holds in every run in
which these steps are taken only when nothing is in between.
-/

import Solar.Bus.Route

namespace Solar.Bus

open List

variable {Message : Type} {route : QueuedRoute} {state next : RouteState Message}

/-! ### The account -/

/-- The emitter has a slot and has not stored yet. -/
def Emitter.holdsSlot : Emitter Message → Bool
  | .storing _ => true
  | _ => false

/-- The drainer has not given back the slot of its message. -/
def Drainer.owesSlot : Drainer Message → Bool
  | .popped _ _ => true
  | _ => false

/-- The emitters that took a slot and have not stored yet. -/
def RouteState.held (state : RouteState Message) : Nat := state.emitters.countP Emitter.holdsSlot

/-- The messages taken out whose slot is not given back yet. -/
def RouteState.owed (state : RouteState Message) : Nat := state.drainers.countP Drainer.owesSlot

/-- Every slot is accounted for, and the ring holds a queue. -/
structure Accounted (route : QueuedRoute) (state : RouteState Message) (queue : List Message) :
    Prop where
  slots : state.available + state.ring.count + state.held + state.owed = route.capacity
  holds : Ring.Holds route.capacity state.ring queue
  inside : state.ring.head < route.capacity

theorem initial_accounted : Accounted route (RouteState.initial route : RouteState Message) [] where
  slots := rfl
  holds := Ring.Holds.empty route.capacity
  inside := route.positive

/-- What is asked of a step: a message is dropped only when the slots that are available, held and
owed are fewer than all, and the ring is cleared only when no slot is held or owed. -/
def Undisturbed (route : QueuedRoute) (state : RouteState Message) : RouteStep Message → Prop
  | .emitter position result =>
      match state.emitters[position]?, result with
      | some (.dropping _), _ => state.available + state.held + state.owed < route.capacity
      | some (.returned acceptance), .error _ =>
          acceptance.needsSubmit = true → state.held = 0 ∧ state.owed = 0
      | _, _ => True
  | .stop => state.held = 0 ∧ state.owed = 0
  | _ => True

/-! ### Counting -/

variable {queue : List Message} {position : Nat}

theorem countP_set_of_not {Item : Type} {test : Item → Bool} {items : List Item} {before : Item}
    (after : Item) (found : items[position]? = some before) (wasNot : test before = false)
    (isNot : test after = false) : (items.set position after).countP test = items.countP test := by
  obtain ⟨bounded, here⟩ := List.getElem?_eq_some_iff.mp found
  rw [countP_set bounded, here, wasNot, isNot]
  simp

theorem countP_set_leave {Item : Type} {test : Item → Bool} {items : List Item} {before : Item}
    (after : Item) (found : items[position]? = some before) (was : test before = true)
    (isNot : test after = false) :
    (items.set position after).countP test + 1 = items.countP test := by
  obtain ⟨bounded, here⟩ := List.getElem?_eq_some_iff.mp found
  have positive : 0 < items.countP test :=
    countP_pos_iff.mpr ⟨before, mem_of_getElem? found, was⟩
  rw [countP_set bounded, here, was, isNot]
  simp only [if_true, Bool.false_eq_true, if_false]
  omega

/-! ### One step -/

/-- What a step makes of the queue: a message is stored behind the others, in the place of the oldest
one if it is dropped, the oldest one is taken out, or all are cancelled. -/
def RouteState.queueAfter (state : RouteState Message) (queue : List Message) :
    RouteStep Message → List Message
  | .emitter position result =>
      match state.emitters[position]?, result with
      | some (.storing message), _ => queue ++ [message]
      | some (.dropping message), _ => queue.tail ++ [message]
      | some (.returned acceptance), .error _ => if acceptance.needsSubmit then [] else queue
      | _, _ => queue
  | .pop => queue.tail
  | .stop => []
  | _ => queue

section

variable (accounted : Accounted route state queue)

include accounted

theorem Accounted.congr (ring : next.ring = state.ring)
    (available : next.available = state.available) (held : next.held = state.held)
    (owed : next.owed = state.owed) :
    Accounted route next queue where
  slots := by rw [ring, available, held, owed, accounted.slots]
  holds := ring ▸ accounted.holds
  inside := ring ▸ accounted.inside

theorem Accounted.take (message : Message) (mode : EmitMode) :
    Accounted route (route.take state message mode) queue := by
  unfold QueuedRoute.take
  split_ifs with free
  · refine ⟨?_, accounted.holds, accounted.inside⟩
    have slots := accounted.slots
    simp only [RouteState.held, RouteState.owed] at slots ⊢
    rw [countP_append]
    show state.available - 1 + _ + (_ + 1) + _ = _
    omega
  · have kept : ∀ emitter : Emitter Message, emitter.holdsSlot = false →
        (state.emitters ++ [emitter]).countP Emitter.holdsSlot = state.held := by
      intro emitter without
      rw [countP_append, countP_singleton, without]
      rfl
    cases route.overflow <;> exact accounted.congr rfl rfl (kept _ rfl) rfl

omit accounted in
theorem Accounted.clear (held : next.held = 0) (owed : next.owed = 0)
    (ring : next.ring = state.ring.clear) (available : next.available = route.capacity) :
    Accounted route next [] where
  slots := by
    rw [held, owed, ring, available]
    rfl
  holds := ring ▸ Ring.Holds.clear route.capacity state.ring
  inside := ring ▸ route.positive

theorem Accounted.store {message : Message}
    (found : state.emitters[position]? = some (.storing message)) :
    Accounted route (route.store state position false message) (queue ++ [message]) := by
  have slots := accounted.slots
  have leaves := countP_set_leave
    (.stored ((route.storeMessage state.ring false message).count % 2 ^ 32) false) found
    (show Emitter.holdsSlot _ = true from rfl) rfl
  have room : queue.length < route.capacity := by
    rw [← accounted.holds.count]
    unfold RouteState.held at slots
    omega
  have holds := accounted.holds.push room route.representable message
  refine ⟨?_, holds, accounted.inside⟩
  have count := holds.count
  rw [length_append, length_singleton, ← accounted.holds.count] at count
  show state.available + (state.ring.push _ _ message).count + countP _ (set ..) +
    state.owed = _
  unfold RouteState.held at slots
  omega

end

theorem Accounted.store_dropping {oldest : Message} {rest : List Message}
    (accounted : Accounted route state (oldest :: rest)) {message : Message}
    (found : state.emitters[position]? = some (.dropping message)) :
    Accounted route (route.store state position true message) (rest ++ [message]) := by
  have slots := accounted.slots
  have same := countP_set_of_not
    (.stored ((route.storeMessage state.ring true message).count % 2 ^ 32) true) found
    (show Emitter.holdsSlot _ = false from rfl) rfl
  have holds := (accounted.holds.drop route.representable).push accounted.holds.bounded
    route.representable message
  refine ⟨?_, holds, Nat.mod_lt _ route.positive⟩
  have count := holds.count
  rw [length_append, length_singleton, ← length_cons (a := oldest),
    ← accounted.holds.count] at count
  show state.available + ((state.ring.drop _ _).push _ _ message).count +
    countP _ (set ..) + state.owed = _
  rw [same, count]
  exact slots

theorem Accounted.pop {oldest : Message} {rest : List Message}
    (accounted : Accounted route state (oldest :: rest)) :
    Accounted route (route.pop state) rest := by
  have slots := accounted.slots
  have holds := accounted.holds.drop route.representable
  refine ⟨?_, holds, Nat.mod_lt _ route.positive⟩
  have before := accounted.holds.count
  have after := holds.count
  rw [length_cons] at before
  show state.available + (state.ring.drop _ _).count + state.held +
    (state.drainers ++ [_]).countP Drainer.owesSlot = _
  rw [countP_append]
  show state.available + (state.ring.drop _ _).count + state.held + (state.owed + 1) = _
  omega

theorem Accounted.give (accounted : Accounted route state queue) {payload : Option Message}
    {pending : Nat} (found : state.drainers[position]? = some (.popped payload pending)) :
    Accounted route { state with
      available := min (state.available + 1) route.capacity
      drainers := state.drainers.set position (.given payload pending) } queue := by
  have slots := accounted.slots
  have leaves := countP_set_leave (.given payload pending) found
    (show Drainer.owesSlot _ = true from rfl) rfl
  refine ⟨?_, accounted.holds, accounted.inside⟩
  show min (state.available + 1) route.capacity + state.ring.count + state.held +
    (state.drainers.set position _).countP Drainer.owesSlot = _
  unfold RouteState.owed at slots
  omega

theorem Accounted.exists_oldest (accounted : Accounted route state queue)
    (fewer : state.available + state.held + state.owed < route.capacity) :
    ∃ oldest rest, queue = oldest :: rest := by
  cases queue with
  | nil =>
    have slots := accounted.slots
    rw [accounted.holds.count, length_nil] at slots
    omega
  | cons oldest rest => exact ⟨oldest, rest, rfl⟩

variable {result : Except Remote.Status Unit}

section

variable (accounted : Accounted route state queue)

include accounted

/-- A step of an emitter keeps the places accounted for. -/
theorem Accounted.stepEmitter {emitter : Emitter Message}
    (found : state.emitters[position]? = some emitter)
    (undisturbed : Undisturbed route state (.emitter position result))
    (stepped : route.stepEmitter state position result emitter = some next) :
    Accounted route next (state.queueAfter queue (.emitter position result)) := by
  simp only [Undisturbed, RouteState.queueAfter, found] at undisturbed ⊢
  cases emitter with
  | storing message =>
    cases stepped
    exact accounted.store found
  | dropping message =>
    cases stepped
    obtain ⟨oldest, rest, rfl⟩ := accounted.exists_oldest undisturbed
    exact accounted.store_dropping found
  | returned acceptance =>
    simp only [QueuedRoute.stepEmitter] at stepped
    cases needs : acceptance.needsSubmit with
    | false =>
      rw [if_neg (Bool.eq_false_iff.mp needs)] at stepped
      cases stepped
      cases result with
      | ok _ => exact accounted.congr rfl rfl (countP_set_of_not _ found rfl rfl) rfl
      | error _ =>
        show Accounted route _ (if acceptance.needsSubmit then [] else queue)
        rw [if_neg (Bool.eq_false_iff.mp needs)]
        exact accounted.congr rfl rfl (countP_set_of_not _ found rfl rfl) rfl
    | true =>
      rw [if_pos needs] at stepped
      cases result with
      | ok _ =>
        cases stepped
        exact accounted.congr rfl rfl (countP_set_of_not _ found rfl rfl) rfl
      | error status =>
        cases stepped
        obtain ⟨held, owed⟩ := undisturbed needs
        show Accounted route _ (if acceptance.needsSubmit then [] else queue)
        rw [if_pos needs]
        refine .clear ?_ owed rfl rfl
        exact (countP_set_of_not _ found rfl rfl).trans held
  | finished => exact absurd stepped nofun
  | _ =>
    cases stepped
    exact accounted.congr rfl rfl (countP_set_of_not _ found rfl rfl) rfl

theorem Accounted.stepDrainer {drainer : Drainer Message}
    (found : state.drainers[position]? = some drainer)
    (stepped : route.stepDrainer state position result drainer = some next) :
    Accounted route next queue := by
  cases drainer with
  | popped payload pending =>
    cases stepped
    exact accounted.give found
  | finished => exact absurd stepped nofun
  | _ =>
    cases stepped
    exact accounted.congr rfl rfl rfl (countP_set_of_not _ found rfl rfl)

/-- Every undisturbed step keeps the account, and does to the queue what it should. -/
theorem Accounted.step {step : RouteStep Message} (undisturbed : Undisturbed route state step)
    (stepped : (routeMachine route).step state step = some next) :
    Accounted route next (state.queueAfter queue step) := by
  cases step with
  | take message mode =>
    cases stepped
    exact accounted.take message mode
  | wake =>
    simp only [routeMachine] at stepped
    split_ifs at stepped with waits
    cases stepped
    refine accounted.congr rfl rfl ?_ rfl
    show (state.emitters ++ [_]).countP Emitter.holdsSlot = _
    rw [countP_append]
    rfl
  | emitter position result =>
    obtain ⟨emitter, found, stepped⟩ := Option.bind_eq_some_iff.mp stepped
    exact accounted.stepEmitter found undisturbed stepped
  | pop =>
    simp only [routeMachine] at stepped
    split_ifs at stepped with empty
    cases stepped
    cases queue with
    | nil => exact absurd accounted.holds.count empty
    | cons oldest rest => exact accounted.pop
  | drainer position result =>
    obtain ⟨drainer, found, stepped⟩ := Option.bind_eq_some_iff.mp stepped
    exact accounted.stepDrainer found stepped
  | stop =>
    cases stepped
    exact .clear undisturbed.1 undisturbed.2 rfl rfl
  | recordStop =>
    simp only [routeMachine] at stepped
    cases stops : state.stops with rw [stops] at stepped
    | nil => exact absurd stepped nofun
    | cons removed rest =>
      cases stepped
      exact accounted.congr rfl rfl rfl rfl

end

/-! ### Runs -/

/-- The ring and the semaphore stay in step: in every state that an undisturbed run reaches, the count
is at most the capacity and every slot is accounted for; the ring holds a queue, a message is dropped
only when there is one, and the next step makes of the queue what it should, so that no message is
overwritten that is neither delivered, nor dropped, nor cancelled. -/
theorem ring_and_semaphore_stay_in_step
    (reached : (routeMachine route).ReachableWhere (Undisturbed route) (.initial route) state) :
    state.ring.count ≤ route.capacity ∧
    state.available + state.ring.count + state.held + state.owed = route.capacity ∧
    ∃ queue, Ring.Holds route.capacity state.ring queue ∧
      ∀ step next, Undisturbed route state step → (routeMachine route).step state step = some next →
        Ring.Holds route.capacity next.ring (state.queueAfter queue step) ∧
        ∀ position result message, step = .emitter position result →
          state.emitters[position]? = some (.dropping message) → 0 < state.ring.count := by
  obtain ⟨queue, accounted⟩ : ∃ queue, Accounted route state queue := by
    refine reached.invariant (fun state => ∃ queue, Accounted route state queue)
      ⟨[], initial_accounted⟩ ?_
    intro before step after holds undisturbed stepped
    obtain ⟨queue, accounted⟩ := holds
    exact ⟨_, accounted.step undisturbed stepped⟩
  refine ⟨?_, accounted.slots, queue, accounted.holds, fun step next undisturbed stepped =>
    ⟨(accounted.step undisturbed stepped).holds, ?_⟩⟩
  · rw [accounted.holds.count]
    exact accounted.holds.bounded
  · rintro position result message rfl found
    simp only [Undisturbed, found] at undisturbed
    obtain ⟨oldest, rest, rfl⟩ := accounted.exists_oldest undisturbed
    rw [accounted.holds.count]
    exact Nat.succ_pos _

/-- A route of one slot that drops the oldest message. -/
abbrev latestOnly : QueuedRoute where
  capacity := 1
  overflow := .dropOldest
  sizeBits := 32
  positive := by decide
  representable := by decide

/-- A second message takes the place of the first, and is taken out. -/
abbrev replacing : List (RouteStep Nat) :=
  [.take 1 .normal, .emitter 0 (.ok ()), .take 2 .normal, .emitter 1 (.ok ()), .pop,
    .drainer 0 (.ok ())]

theorem latestOnly_stays_in_step :
    ∃ state : RouteState Nat, (routeMachine latestOnly).ReachableWhere (Undisturbed latestOnly)
        (.initial latestOnly) state ∧ state.emitters.length = 2 ∧
      state.ring.count ≤ latestOnly.capacity ∧
      state.available + state.ring.count + state.held + state.owed = latestOnly.capacity := by
  have admissible : (routeMachine latestOnly).Admissible (Undisturbed latestOnly)
      (.initial latestOnly) replacing := by
    refine ⟨trivial, fun _ stepped => ?_⟩
    cases stepped
    refine ⟨trivial, fun _ stepped => ?_⟩
    cases stepped
    refine ⟨trivial, fun _ stepped => ?_⟩
    cases stepped
    refine ⟨Nat.zero_lt_one, fun _ stepped => ?_⟩
    cases stepped
    refine ⟨trivial, fun _ stepped => ?_⟩
    cases stepped
    exact ⟨trivial, fun _ _ => trivial⟩
  have reached := (routeMachine latestOnly).reachableWhere_get _ _ _ admissible rfl
  have holds := ring_and_semaphore_stay_in_step reached
  exact ⟨_, reached, rfl, holds.1, holds.2.1⟩

/-- The message is taken out between the second emitter's failure to find a slot and its storage
section: an empty ring is decremented, and the second message is never taken out. And a stop that
clears the ring while an emitter holds the only slot gives that slot as well. -/
theorem latestOnly_falls_out_of_step :
    (∃ state next : RouteState Nat,
      (routeMachine latestOnly).Reachable (.initial latestOnly) state ∧
      state.emitters[1]? = some (.dropping 2) ∧ state.ring.count = 0 ∧
      (routeMachine latestOnly).step state (.emitter 1 (.ok ())) = some next ∧
      next.ring.count = 0 ∧ (routeMachine latestOnly).step next .pop = none) ∧
    ∃ state : RouteState Nat, (routeMachine latestOnly).Reachable (.initial latestOnly) state ∧
      state.available + state.ring.count + state.held + state.owed ≠ latestOnly.capacity := by
  constructor
  · exact ⟨_, _, (routeMachine latestOnly).reachable_get (.initial latestOnly)
      [.take 1 .normal, .emitter 0 (.ok ()), .take 2 .normal, .pop, .drainer 0 (.ok ())] rfl,
      rfl, by decide, rfl, by decide, by decide⟩
  · exact ⟨_, (routeMachine latestOnly).reachable_get (.initial latestOnly)
      [.take 1 .normal, .stop] rfl, by decide⟩

end Solar.Bus
