/-
This file proves what counted admission promises. Every submission that was
accepted waits in the counter, has been executed once, or was discarded by a
cancel; while one waits, the work item is queued, its handler is on the way to
queue it again, or a cancel is about to reset the counter; and a registration
that drains comes to rest with an empty counter.

Two steps of the code can break this. A submission whose native submission was
refused takes its count back without looking whether the count is still there: a
handler or a cancel may have taken it. And a handler that ends while the
registration neither accepts nor drains leaves the waiting submissions behind.
-/

import Solar.Execution.Counted
import Solar.Library.Tally

namespace Solar.Execution

open List hiding any_eq_true
open Option hiding any any_eq_true

namespace HandlerPhase

/-- The handler has not yet decided whether it queues the item again. -/
def attends : HandlerPhase → Bool
  | .idle | .returning => false
  | _ => true

/-- The phases in which the behavior runs. -/
def flies : HandlerPhase → Bool
  | .invoking | .finishing _ => true
  | _ => false

/-- How far the handler is from its return, with room for the item to be queued again. -/
def distance : HandlerPhase → Nat
  | .idle => 0
  | .returning => 1
  | .taking => 2
  | .resubmitting => 5
  | .askingDraining => 6
  | .askingAccepting => 7
  | .continuing => 8
  | .refusing => 9
  | .suspending => 10
  | .finishing _ => 11
  | .invoking => 12
  | .starting => 13

end HandlerPhase

/-- A step of a call that is under way or of the work queue: no new call is made. -/
def RegistrationLabel.finishes : RegistrationLabel → Bool
  | .count _ | .submitNative _ _ | .refund _ | .reset | .dequeue | .handle _ _ => true
  | _ => false

/-- What a call still has to do, with room for what it adds to the counter and to the queue. -/
def SubmitPhase.load : SubmitPhase → Nat
  | .admitted => 31
  | .counted => 16
  | .refusing => 1
  | _ => 0

namespace Registration

variable {traits : CountedTraits} {state next : Registration traits} {label : RegistrationLabel}

/-! ### What a step does -/

/-- Every way a registration moves. -/
inductive Stepped (state : Registration traits) :
    RegistrationLabel → Registration traits → Prop
  | submitted {inIsr fromIsr : Bool} (phase : SubmitPhase) (fresh : phase.isCounted = false) :
      Stepped state (.submit inIsr fromIsr) { state with calls := state.calls ++ [phase] }
  | turnedAway (call : Nat) (here : state.calls[call]? = some .admitted)
      (full : traits.capacity ≤ state.pending.toNat) :
      Stepped state (.count call)
        { state with calls := state.calls.set call (.rejected .admissionFull) }
  | counted (call : Nat) (here : state.calls[call]? = some .admitted)
      (room : state.pending.toNat < traits.capacity) :
      Stepped state (.count call) { state with
          calls := state.calls.set call .counted
          pending := state.pending + 1
          waiting := state.waiting ++ [call] }
  | refused (call : Nat) {accepted : Bool} (here : state.calls[call]? = some .counted) :
      Stepped state (.submitNative call accepted)
        { state with calls := state.calls.set call .refusing }
  | accepted (call : Nat) {accepted : Bool} (here : state.calls[call]? = some .counted)
      (free : state.canceling = false) :
      Stepped state (.submitNative call accepted)
        { state with calls := state.calls.set call .accepted, queued := true }
  | refunded (call : Nat) (here : state.calls[call]? = some .refusing) :
      Stepped state (.refund call) (state.refund call)
  | cancelled {label : RegistrationLabel} (called : label.finishes = false) :
      Stepped state label state.cancel
  | cleared (some : state.resets ≠ 0) : Stepped state .reset state.reset
  | flagged {label : RegistrationLabel} (accepting draining stopping : Bool)
      (called : label.finishes = false) :
      Stepped state label { state with accepting, draining, stopping }
  | dequeued (queued : state.queued = true) (idle : state.handler = .idle) :
      Stepped state .dequeue { state with queued := false, handler := .taking }
  | took {succeeds : Bool} (charged : Nat) (here : state.handler = .taking)
      (some : state.pending ≠ 0) (named : state.waiting = [] ∨ charged ∈ state.waiting) :
      Stepped state (.handle charged succeeds) { state with
          handler := .starting
          pending := state.pending - 1
          waiting := state.waiting.erase charged
          executed := state.executed ++ [charged] }
  | moved {charged : Nat} {succeeds : Bool} (phase : HandlerPhase)
      (accepting suspended inFlight : Bool) (before : state.handler.attends = true)
      (after : phase.attends = true) (closer : phase.distance < state.handler.distance)
      (flight : state.inFlight = state.handler.flies → inFlight = phase.flies) :
      Stepped state (.handle charged succeeds)
        { state with handler := phase, accepting, suspended, inFlight }
  | finished {charged : Nat} {succeeds : Bool}
      (here : state.handler = .taking ∨ state.handler = .continuing) (empty : state.pending = 0) :
      Stepped state (.handle charged succeeds) { state with handler := .returning }
  | declined {charged : Nat} {succeeds : Bool} (here : state.handler = .askingDraining)
      (stays : state.draining = false) :
      Stepped state (.handle charged succeeds) { state with handler := .returning }
  | resubmitted {charged : Nat} {succeeds : Bool} (here : state.handler = .resubmitting) :
      Stepped state (.handle charged succeeds)
        { state with handler := .returning, queued := state.queued || !state.canceling }
  | returned {charged : Nat} {succeeds : Bool} (here : state.handler = .returning) :
      Stepped state (.handle charged succeeds) { state with handler := .idle, canceling := false }

variable {charged : Nat}

theorem Stepped.advance {before : HandlerPhase} (here : state.handler = before) {succeeds : Bool}
    (phase : HandlerPhase) (accepting suspended inFlight : Bool)
    (busy : before.attends = true ∧ phase.attends = true ∧ phase.distance < before.distance)
    (flight : state.inFlight = before.flies → inFlight = phase.flies) :
    Stepped state (.handle charged succeeds)
      { state with handler := phase, accepting, suspended, inFlight } := by
  subst here
  exact .moved phase accepting suspended inFlight busy.1 busy.2.1 busy.2.2 flight

/-- The exits of a handler. -/
theorem handle_stepped {succeeds : Bool} (taken : state.handle charged succeeds = some next) :
    Stepped state (.handle charged succeeds) next := by
  unfold handle at taken
  split at taken
  case h_1 => exact nomatch taken
  case h_2 here =>
    split at taken
    · rename_i empty
      exact some.inj taken ▸ .finished (.inl here) empty
    · rename_i some
      split at taken
      · exact nomatch taken
      · rename_i named
        refine Option.some.inj taken ▸ .took charged here some ?_
        by_contra neither
        exact named (by simpa using neither)
  case h_3 here =>
    exact some.inj taken ▸ .advance here .invoking _ _ true (by decide) fun _ => rfl
  case h_4 here =>
    exact some.inj taken ▸ .advance here (.finishing succeeds) _ _ _
      (by simp [HandlerPhase.attends, HandlerPhase.distance]) id
  case h_5 succeeded here =>
    cases taken
    split
    · exact .advance here .suspending _ _ false
        (by simp [HandlerPhase.attends, HandlerPhase.distance]) fun _ => rfl
    · exact .advance here .continuing _ _ false
        (by simp [HandlerPhase.attends, HandlerPhase.distance]) fun _ => rfl
  case h_6 here =>
    exact some.inj taken ▸ .advance here .refusing _ true _ (by decide) id
  case h_7 here =>
    exact some.inj taken ▸ .advance here .continuing false _ _ (by decide) id
  case h_8 here =>
    cases taken
    split
    · rename_i empty
      exact .finished (.inr here) empty
    · exact .advance here .askingAccepting _ _ _ (by decide) id
  case h_9 here =>
    cases taken
    split
    · exact .advance here .resubmitting _ _ _ (by decide) id
    · exact .advance here .askingDraining _ _ _ (by decide) id
  case h_10 here =>
    cases taken
    split
    · exact .advance here .resubmitting _ _ _ (by decide) id
    · rename_i stays
      exact .declined here (eq_false_of_ne_true stays)
  case h_11 here => exact some.inj taken ▸ .resubmitted here
  case h_12 here => exact some.inj taken ▸ .returned here

/-- One case for each step; the proofs about runs use what is said here. -/
theorem step_stepped (taken : state.step label = some next) : Stepped state label next := by
  cases label with
  | submit inIsr fromIsr =>
    cases taken
    unfold submit
    split
    · exact .submitted _ rfl
    split
    · exact .submitted _ rfl
    · exact .submitted _ rfl
  | count call =>
    obtain ⟨here, same⟩ := ite_none_right_eq_some.mp taken
    obtain ⟨⟩ := same
    unfold count
    split
    · rename_i full
      exact .turnedAway call here full
    · rename_i room
      exact .counted call here (Nat.lt_of_not_le room)
  | submitNative call accepted =>
    obtain ⟨here, same⟩ := ite_none_right_eq_some.mp taken
    obtain ⟨⟩ := same
    unfold submitNative
    split
    · exact .refused call here
    · rename_i open_
      exact .accepted call here (eq_false_of_ne_true fun busy => open_ (.inl busy))
  | refund call =>
    obtain ⟨here, same⟩ := ite_none_right_eq_some.mp taken
    exact some.inj same ▸ .refunded call here
  | cancel => exact some.inj taken ▸ .cancelled rfl
  | reset =>
    obtain ⟨some, same⟩ := ite_none_left_eq_some.mp taken
    exact Option.some.inj same ▸ .cleared some
  | stopAccepting => exact some.inj taken ▸ .flagged false _ true rfl
  | stopDraining =>
    obtain ⟨_, same⟩ := ite_none_right_eq_some.mp taken
    exact some.inj same ▸ .flagged _ _ false rfl
  | contain =>
    simp only [step] at taken
    split at taken
    · exact some.inj taken ▸ .cancelled rfl
    · exact some.inj taken ▸ .flagged _ _ _ rfl
  | settle =>
    obtain ⟨_, same⟩ := ite_none_right_eq_some.mp taken
    exact some.inj same ▸ .flagged _ false _ rfl
  | dequeue =>
    obtain ⟨⟨queued, idle⟩, same⟩ := ite_none_right_eq_some.mp taken
    exact some.inj same ▸ .dequeued queued idle
  | handle charged succeeds => exact handle_stepped taken

/-! ### The account of the submissions -/

/-- An accepted submission waits. -/
def owes (state : Registration traits) : Bool :=
  state.waiting.any fun call => decide (state.calls[call]? = some .accepted)

theorem owes_iff : state.owes = true ↔
    ∃ call ∈ state.waiting, state.calls[call]? = some .accepted := by
  simp [owes, List.any_eq_true]

/-- The counter does not overflow, a refused submission that takes its count back finds it still in
the counter, and a handler that finds the registration neither accepting nor draining leaves no
accepted submission behind: the item is queued, the counter is about to be reset, or there is no
such submission. -/
def undisturbed (state : Registration traits) : RegistrationLabel → Bool
  | .count _ => traits.capacity ≤ state.pending.toNat ∨ state.pending.toNat + 1 < 2 ^ 32
  | .refund call => call ∈ state.waiting
  | .handle _ _ =>
      state.handler = .askingDraining ∧ state.draining = false →
        state.queued = true ∨ state.resets ≠ 0 ∨ state.owes = false
  | _ => true

/-- A submission that was counted waits, was executed or was discarded, in one of these places and
once; no other submission does or was. -/
def Placed (calls : List SubmitPhase) (waiting executed discarded : List Nat) : Prop :=
  ∀ call, waiting.count call + executed.count call + discarded.count call =
    if (calls[call]?).any SubmitPhase.isCounted then 1 else 0

variable {call : Nat}

theorem getElem?_set_phase {calls : List SubmitPhase} {old : SubmitPhase}
    (here : calls[call]? = some old) (phase : SubmitPhase) (other : Nat) :
    (calls.set call phase)[other]? = if other = call then some phase else calls[other]? := by
  have inside := (List.getElem?_eq_some_iff.mp here).1
  by_cases same : other = call
  · subst same
    rw [if_pos rfl, List.getElem?_set_self inside]
  · rw [if_neg same, List.getElem?_set_ne (Ne.symm same)]

/-- The standing facts of a run. The counter is the number of the submissions that wait and keeps to
the capacity, every submission has its place, and a waiting submission that was accepted is attended
to. -/
structure Accounted (state : Registration traits) : Prop where
  counter : state.pending.toNat = state.waiting.length
  bounded : state.pending.toNat ≤ traits.capacity
  placed : Placed state.calls state.waiting state.executed state.discarded
  attended : state.owes = true →
    state.queued = true ∨ state.handler.attends = true ∨ state.resets ≠ 0
  cancelled : state.canceling = true → state.owes = true → state.resets ≠ 0
  flight : state.inFlight = state.handler.flies

theorem accounted_initial : Accounted ({} : Registration traits) where
  counter := rfl
  bounded := Nat.zero_le _
  placed _ := rfl
  attended owed := nomatch owed
  cancelled cancelled := nomatch cancelled
  flight := rfl

theorem Accounted.mem_waiting (accounted : Accounted state) (some : state.pending ≠ 0)
    (named : state.waiting = [] ∨ charged ∈ state.waiting) : charged ∈ state.waiting := by
  obtain empty | member := named
  · refine absurd (UInt32.toNat_inj.mp ?_) some
    rw [accounted.counter, empty]
    rfl
  · exact member

theorem Accounted.pos (accounted : Accounted state) (member : call ∈ state.waiting) :
    0 < state.pending.toNat := by
  rw [accounted.counter]
  exact length_pos_of_mem member

theorem undisturbed_count (room : state.pending.toNat < traits.capacity)
    (sound : state.undisturbed (.count call) = true) : state.pending.toNat + 1 < 2 ^ 32 :=
  (of_decide_eq_true sound).resolve_left (Nat.not_le_of_lt room)

theorem Accounted.counter_step (accounted : Accounted state)
    (sound : state.undisturbed label = true) (stepped : Stepped state label next) :
    next.pending.toNat = next.waiting.length := by
  have counter := accounted.counter
  cases stepped with
  | counted call here room =>
    rw [Tally.toNat_add_one (undisturbed_count room sound), length_append, counter]
    rfl
  | refunded call here =>
    have member : call ∈ state.waiting := of_decide_eq_true sound
    show (state.pending - 1).toNat = (state.waiting.erase call).length
    rw [Tally.toNat_sub_one (accounted.pos member), length_erase_of_mem member, counter]
  | took charged here some named =>
    have member := accounted.mem_waiting some named
    rw [Tally.toNat_sub_one (accounted.pos member), length_erase_of_mem member, counter]
  | cleared some => rfl
  | _ => exact counter

theorem Accounted.bounded_step (accounted : Accounted state)
    (sound : state.undisturbed label = true) (stepped : Stepped state label next) :
    next.pending.toNat ≤ traits.capacity := by
  have bounded := accounted.bounded
  cases stepped with
  | counted call here room =>
    rw [Tally.toNat_add_one (undisturbed_count room sound)]
    exact room
  | refunded call here =>
    have member : call ∈ state.waiting := of_decide_eq_true sound
    show (state.pending - 1).toNat ≤ traits.capacity
    rw [Tally.toNat_sub_one (accounted.pos member)]
    exact (Nat.sub_le _ _).trans bounded
  | took charged here some named =>
    rw [Tally.toNat_sub_one (accounted.pos (accounted.mem_waiting some named))]
    exact (Nat.sub_le _ _).trans bounded
  | cleared some => exact Nat.zero_le _
  | _ => exact bounded

section Places

variable {calls after : List SubmitPhase} {waiting executed discarded : List Nat}

theorem any_isCounted_set {old phase : SubmitPhase} (here : calls[call]? = some old)
    (same : phase.isCounted = old.isCounted) (other : Nat) :
    ((calls.set call phase)[other]?).any SubmitPhase.isCounted =
      (calls[other]?).any SubmitPhase.isCounted := by
  rw [getElem?_set_phase here]
  split
  · rename_i equal
    rw [equal, here]
    exact same
  · rfl

theorem any_isCounted_append {phase : SubmitPhase} (fresh : phase.isCounted = false)
    (other : Nat) : ((calls ++ [phase])[other]?).any SubmitPhase.isCounted =
      (calls[other]?).any SubmitPhase.isCounted := by
  rw [getElem?_append]
  split
  · rfl
  · rename_i outside
    rw [getElem?_eq_none (Nat.le_of_not_lt outside)]
    cases other - calls.length with
    | zero => exact fresh
    | succ _ => rfl

section

variable (placed : Placed calls waiting executed discarded)

include placed

theorem Placed.congr (same : ∀ other : Nat, (after[other]?).any SubmitPhase.isCounted =
      (calls[other]?).any SubmitPhase.isCounted) : Placed after waiting executed discarded := by
  intro other
  rw [same]
  exact placed other

theorem Placed.enter (here : calls[call]? = some .admitted) :
    Placed (calls.set call .counted) (waiting ++ [call]) executed discarded := by
  intro other
  have before := placed other
  rw [getElem?_set_phase here, count_append]
  by_cases same : other = call
  · subst same
    rw [here] at before
    simp only [any_some, SubmitPhase.isCounted, Bool.false_eq_true, if_false] at before
    simp only [count_singleton_self, if_true, any_some, SubmitPhase.isCounted]
    omega
  · rw [if_neg same, count_singleton, if_neg (by simpa using Ne.symm same)]
    exact before

theorem Placed.leave (here : calls[call]? = some .refusing) (member : call ∈ waiting)
    (reason : ErrorReason) :
    Placed (calls.set call (.rejected reason)) (waiting.erase call) executed discarded := by
  intro other
  have before := placed other
  rw [getElem?_set_phase here]
  by_cases same : other = call
  · subst same
    have positive := count_pos_iff.mpr member
    rw [here] at before
    simp only [any_some, SubmitPhase.isCounted, if_true] at before
    simp only [if_true, any_some, SubmitPhase.isCounted, count_erase_self,
      Bool.false_eq_true, if_false]
    omega
  · rw [if_neg same, count_erase_of_ne same]
    exact before

theorem Placed.execute (member : call ∈ waiting) :
    Placed calls (waiting.erase call) (executed ++ [call]) discarded := by
  intro other
  have before := placed other
  rw [count_append]
  by_cases same : other = call
  · subst same
    have positive := count_pos_iff.mpr member
    rw [count_erase_self, count_singleton_self]
    omega
  · rw [count_erase_of_ne same, count_singleton, if_neg (by simpa using Ne.symm same)]
    exact before

theorem Placed.discard : Placed calls [] executed (discarded ++ waiting) := by
  intro other
  have before := placed other
  rw [count_append, count_nil]
  omega

end

end Places

theorem Accounted.placed_step (accounted : Accounted state)
    (sound : state.undisturbed label = true) (stepped : Stepped state label next) :
    Placed next.calls next.waiting next.executed next.discarded := by
  have placed := accounted.placed
  cases stepped with
  | submitted phase fresh => exact placed.congr (any_isCounted_append fresh)
  | turnedAway call here | refused call here | accepted call here =>
    exact placed.congr (any_isCounted_set here rfl)
  | counted call here room => exact placed.enter here
  | refunded call here => exact placed.leave here (of_decide_eq_true sound) _
  | cleared some => exact placed.discard
  | took charged here some named => exact placed.execute (accounted.mem_waiting some named)
  | _ => exact placed

/-! ### Attention -/

/-- The accepted submissions that wait after a step waited before, or the step accepted one. -/
theorem Stepped.owes (stepped : Stepped state label next) (owed : next.owes = true) :
    state.owes = true ∨ (state.canceling = false ∧ next.queued = true ∧
      next.canceling = false) := by
  have kept : (∀ call ∈ next.waiting, next.calls[call]? = some .accepted →
      call ∈ state.waiting ∧ state.calls[call]? = some .accepted) → state.owes = true := by
    intro same
    obtain ⟨call, member, accepted⟩ := owes_iff.mp owed
    obtain ⟨before, also⟩ := same call member accepted
    exact owes_iff.mpr ⟨call, before, also⟩
  have advanced {call : Nat} {old : SubmitPhase} (here : state.calls[call]? = some old)
      (phase : SubmitPhase) (other : Nat) (different : phase ≠ .accepted)
      (accepted : (state.calls.set call phase)[other]? = some .accepted) :
      state.calls[other]? = some .accepted := by
    rw [getElem?_set_phase here] at accepted
    split at accepted
    · exact absurd (some.inj accepted) different
    · exact accepted
  cases stepped with
  | submitted phase fresh =>
    refine .inl (kept fun call member accepted => ⟨member, ?_⟩)
    rw [getElem?_append] at accepted
    split at accepted
    · exact accepted
    · obtain rfl := mem_singleton.mp (mem_of_getElem? accepted)
      exact nomatch fresh
  | turnedAway target here full =>
    exact .inl (kept fun call member accepted =>
      ⟨member, advanced here (.rejected .admissionFull) call nofun accepted⟩)
  | refused target here =>
    exact .inl (kept fun call member accepted => ⟨member, advanced here .refusing call nofun accepted⟩)
  | accepted target here free => exact .inr ⟨free, rfl, free⟩
  | counted target here room =>
    refine .inl (kept fun call member accepted => ?_)
    have before := advanced here .counted call nofun accepted
    obtain old | new := mem_append.mp member
    · exact ⟨old, before⟩
    · obtain rfl := mem_singleton.mp new
      exact nomatch here.symm.trans before
  | refunded target here =>
    exact .inl (kept fun call member accepted =>
      ⟨mem_of_mem_erase member, advanced here (.rejected .nativeFailure) call nofun accepted⟩)
  | took charged here some named =>
    exact .inl (kept fun call member accepted => ⟨mem_of_mem_erase member, accepted⟩)
  | cleared some => exact nomatch owed
  | _ => exact .inl (kept fun call member accepted => ⟨member, accepted⟩)

section

variable (accounted : Accounted state)

include accounted

/-- While something is owed, the work is queued or the handler goes on. -/
theorem Accounted.attended_step (sound : state.undisturbed label = true)
    (stepped : Stepped state label next) (owed : next.owes = true) :
    next.queued = true ∨ next.handler.attends = true ∨ next.resets ≠ 0 := by
  obtain before | ⟨_, queued, _⟩ := stepped.owes owed
  · have attended := accounted.attended before
    cases stepped with
    | accepted target here free => exact .inl rfl
    | cancelled called => exact .inr (.inr (Nat.succ_ne_zero _))
    | cleared some => exact nomatch owed
    | dequeued | took => exact .inr (.inl rfl)
    | moved phase accepting suspended inFlight busy after closer flight => exact .inr (.inl after)
    | finished here empty =>
      obtain ⟨call, member, _⟩ := owes_iff.mp before
      have positive := accounted.pos member
      rw [empty] at positive
      exact absurd positive (Nat.lt_irrefl 0)
    | declined here stays =>
      obtain queued | resets | none := of_decide_eq_true sound ⟨here, stays⟩
      · exact .inl queued
      · exact .inr (.inr resets)
      · exact nomatch before.symm.trans none
    | resubmitted here =>
      cases busy : state.canceling with
      | true => exact .inr (.inr (accounted.cancelled busy before))
      | false => exact .inl (by simp)
    | returned here =>
      rw [here] at attended
      obtain queued | nothing | resets := attended
      · exact .inl queued
      · exact nomatch nothing
      · exact .inr (.inr resets)
    | _ => exact attended
  · exact .inl queued

theorem Accounted.cancelled_step (stepped : Stepped state label next) (busy : next.canceling = true)
    (owed : next.owes = true) : next.resets ≠ 0 := by
  obtain before | ⟨_, _, free⟩ := stepped.owes owed
  · have cancelled := accounted.cancelled
    cases stepped with
    | cancelled called => exact Nat.succ_ne_zero _
    | cleared some => exact nomatch owed
    | returned here => exact nomatch busy
    | _ => exact cancelled busy before
  · exact nomatch free.symm.trans busy

theorem Accounted.flight_step (stepped : Stepped state label next) :
    next.inFlight = next.handler.flies := by
  have flight := accounted.flight
  cases stepped with
  | moved phase accepting suspended inFlight busy after closer keeps => exact keeps flight
  | dequeued queued idle => rw [flight, idle]; rfl
  | took charged here | declined here | resubmitted here | returned here => rw [flight, here]; rfl
  | finished here empty =>
    obtain here | here := here
    · rw [flight, here]
      rfl
    · rw [flight, here]
      rfl
  | _ => exact flight

theorem Accounted.step (sound : state.undisturbed label = true)
    (stepped : Stepped state label next) : Accounted next where
  counter := accounted.counter_step sound stepped
  bounded := accounted.bounded_step sound stepped
  placed := accounted.placed_step sound stepped
  attended := accounted.attended_step sound stepped
  cancelled := accounted.cancelled_step stepped
  flight := accounted.flight_step stepped

end

theorem accounted_of_reachable (reached : (registrationMachine traits).ReachableWhere
      (fun state label => state.undisturbed label = true) {} state) : Accounted state :=
  reached.invariant Accounted accounted_initial fun _ _ _ accounted sound taken =>
    accounted.step sound (step_stepped taken)

/-! ### Coming to rest -/

/-- What is left to do in a registration to which no new call is made. -/
def load (state : Registration traits) : Nat :=
  12 * state.pending.toNat + 3 * state.queued.toNat + state.handler.distance +
    (state.calls.map SubmitPhase.load).sum + state.resets

theorem sum_load_set {calls : List SubmitPhase} {old : SubmitPhase} (here : calls[call]? = some old)
    (phase : SubmitPhase) :
    ((calls.set call phase).map SubmitPhase.load).sum + old.load =
      (calls.map SubmitPhase.load).sum + phase.load := by
  induction calls generalizing call with
  | nil => exact nomatch here
  | cons head tail ih =>
    cases call with
    | zero =>
      obtain ⟨⟩ := here
      simp only [set_cons_zero, map_cons, sum_cons]
      omega
    | succ call =>
      have rest : ((tail.set call phase).map SubmitPhase.load).sum + old.load =
          (tail.map SubmitPhase.load).sum + phase.load := ih here
      simp only [set_cons_succ, map_cons, sum_cons]
      omega

section

variable (accounted : Accounted state)

include accounted

/-- Every step without a new call leaves less to do. -/
theorem Accounted.load_step (sound : state.undisturbed label = true)
    (finishes : label.finishes = true) (taken : state.step label = some next) :
    next.load < state.load := by
  cases step_stepped taken with
  | submitted phase fresh => exact nomatch finishes
  | turnedAway call here full =>
    have calls := sum_load_set here (.rejected .admissionFull)
    simp only [SubmitPhase.load] at calls
    simp only [load]
    omega
  | counted call here room =>
    have calls := sum_load_set here .counted
    have more := Tally.toNat_add_one (undisturbed_count room sound)
    simp only [SubmitPhase.load] at calls
    simp only [load, more]
    omega
  | refused call here =>
    have calls := sum_load_set here .refusing
    simp only [SubmitPhase.load] at calls
    simp only [load]
    omega
  | accepted call here free =>
    have calls := sum_load_set here .accepted
    simp only [SubmitPhase.load] at calls
    simp only [load, Bool.toNat_true]
    omega
  | refunded call here =>
    have calls := sum_load_set here (.rejected .nativeFailure)
    have positive := accounted.pos (of_decide_eq_true sound)
    have less := Tally.toNat_sub_one positive
    simp only [SubmitPhase.load] at calls
    simp only [load, refund, less]
    omega
  | cancelled called | flagged accepting draining stopping called =>
    exact nomatch called.symm.trans finishes
  | cleared some =>
    simp only [load, reset]
    rw [show (0 : UInt32).toNat = 0 from rfl]
    omega
  | dequeued queued idle =>
    simp only [load, queued, idle, HandlerPhase.distance, Bool.toNat_true, Bool.toNat_false]
    omega
  | took charged here some named =>
    have less := Tally.toNat_sub_one (accounted.pos (accounted.mem_waiting some named))
    have positive := accounted.pos (accounted.mem_waiting some named)
    simp only [load, less, here, HandlerPhase.distance]
    omega
  | moved phase accepting suspended inFlight busy after closer flight =>
    simp only [load]
    omega
  | finished here empty =>
    obtain here | here := here
    · simp only [load, here, HandlerPhase.distance]
      omega
    · simp only [load, here, HandlerPhase.distance]
      omega
  | declined here | returned here =>
    simp only [load, here, HandlerPhase.distance]
    omega
  | resubmitted here =>
    have one := Bool.toNat_le (state.queued || !state.canceling)
    simp only [load, here, HandlerPhase.distance]
    omega

theorem Accounted.exists_waiting (some : state.pending ≠ 0) : ∃ call, call ∈ state.waiting := by
  refine exists_mem_of_ne_nil _ fun empty => ?_
  have counter := accounted.counter
  rw [empty] at counter
  exact some (UInt32.toNat_inj.mp counter)

theorem Accounted.phase_of_waiting (member : call ∈ state.waiting) :
    ∃ phase, state.calls[call]? = some phase ∧ phase.isCounted = true := by
  have place := accounted.placed call
  have positive := count_pos_iff.mpr member
  refine (Option.any_eq_true _ _).mp ?_
  by_contra absent
  rw [if_neg absent] at place
  omega

omit accounted in
theorem exists_handle (running : state.handler ≠ .idle) :
    ∃ charged next, state.handle charged true = some next := by
  have defined : ∃ charged, (state.handle charged true).isSome = true := by
    unfold handle
    cases phase : state.handler with
    | idle => exact absurd phase running
    | taking =>
      by_cases empty : state.pending = 0
      · exact ⟨0, by rw [if_pos empty]; rfl⟩
      · cases waits : state.waiting with
        | nil => exact ⟨0, by simp [if_neg empty]⟩
        | cons call rest => exact ⟨call, by simp [if_neg empty]⟩
    | _ => exact ⟨0, rfl⟩
  obtain ⟨charged, some⟩ := defined
  obtain ⟨next, taken⟩ := isSome_iff_exists.mp some
  exact ⟨charged, next, taken⟩

/-- A registration to which no new call is made has its counter empty and nothing queued or running,
or something is left to do. -/
theorem Accounted.quiescent_or_finishes :
    state.quiescent = true ∨ ∃ label next, label.finishes = true ∧ state.step label = some next := by
  by_cases running : state.handler = .idle
  · by_cases queued : state.queued = true
    · refine .inr ⟨.dequeue, _, rfl, if_pos ⟨queued, running⟩⟩
    by_cases resets : state.resets = 0
    · by_cases counted : state.pending = 0
      · refine .inl ?_
        have flight := accounted.flight
        simp [quiescent, flight, HandlerPhase.flies, queued, running, counted]
      · -- What waits was accepted, and then it is attended to, or its call is under way.
        obtain ⟨call, member⟩ := accounted.exists_waiting counted
        obtain ⟨phase, here, isCounted⟩ := accounted.phase_of_waiting member
        cases phase with
        | counted => exact .inr ⟨.submitNative call true, _, rfl, if_pos here⟩
        | refusing => exact .inr ⟨.refund call, _, rfl, if_pos here⟩
        | accepted =>
          obtain free | attends | cancels := accounted.attended (owes_iff.mpr ⟨call, member, here⟩)
          · exact absurd free queued
          · rw [running] at attends
            exact nomatch attends
          · exact absurd resets cancels
        | _ => exact nomatch isCounted
    · exact .inr ⟨.reset, _, rfl, if_neg resets⟩
  · obtain ⟨charged, next, taken⟩ := exists_handle running
    exact .inr ⟨.handle charged true, next, rfl, taken⟩

omit accounted in
/-- Without new calls the registration takes a bounded number of steps and does not stop before it
is quiescent. -/
def Settles (state : Registration traits) : Prop :=
  ∀ labels final, (∀ label ∈ labels, label.finishes = true) →
    (registrationMachine traits).Admissible (fun state label => state.undisturbed label = true)
      state labels →
    (registrationMachine traits).run state labels = some final →
      labels.length ≤ state.load ∧ (final.quiescent = true ∨
        ∃ label next, label.finishes = true ∧ final.step label = some next)

theorem Accounted.settles : Settles state := by
  intro labels final finishing admissible ran
  have both : (registrationMachine traits).Admissible
      (fun state label => state.undisturbed label = true ∧ label.finishes = true) state labels := by
    clear ran accounted
    induction labels generalizing state with
    | nil => trivial
    | cons label rest ih =>
      refine ⟨⟨admissible.1, finishing label mem_cons_self⟩, fun next taken => ?_⟩
      exact ih (fun other member => finishing other (mem_cons_of_mem _ member))
        (admissible.2 next taken)
  constructor
  · have shorter : labels.length + final.load ≤ state.load :=
      (registrationMachine traits).length_run_le (fun _ _ _ accounted sound taken =>
        ⟨accounted.step sound.1 (step_stepped taken),
          accounted.load_step sound.1 sound.2 taken⟩) accounted both ran
    exact (Nat.le_add_right _ _).trans shorter
  · have reached : Accounted final := (registrationMachine traits).run_invariant
      (fun _ _ _ accounted sound taken => accounted.step sound (step_stepped taken)) accounted
      admissible ran
    exact reached.quiescent_or_finishes

end

/-- In every run whose steps leave the counts alone: the counter keeps to the capacity; while it is
not zero the item is queued, its handler runs, or a call is under way; an accepted submission that
waits is attended to whatever other calls do; an accepted submission waits, was executed or was
discarded, in one of these places and once; only counted submissions are executed; and without new
calls the registration, draining or not, comes to rest. -/
theorem counted_submissions_are_kept (reached : (registrationMachine traits).ReachableWhere
      (fun state label => state.undisturbed label = true) {} state) :
    state.pending.toNat ≤ traits.capacity ∧
    (state.pending ≠ 0 → state.queued = true ∨ state.handler ≠ .idle ∨ state.resets ≠ 0 ∨
      ∃ phase ∈ state.calls, phase.isUnderWay = true) ∧
    (∀ call ∈ state.waiting, state.calls[call]? = some .accepted →
      state.queued = true ∨ state.handler ≠ .idle ∨ state.resets ≠ 0) ∧
    (∀ call, state.calls[call]? = some .accepted →
      state.waiting.count call + state.executed.count call + state.discarded.count call = 1) ∧
    (∀ call ∈ state.executed, (state.calls[call]?).any SubmitPhase.isCounted = true) ∧
    state.Settles := by
  have accounted := accounted_of_reachable reached
  have running (attends : state.handler.attends = true) : state.handler ≠ .idle := by
    intro idle
    rw [idle] at attends
    exact nomatch attends
  have attended (call : Nat) (member : call ∈ state.waiting)
      (accepted : state.calls[call]? = some .accepted) :
      state.queued = true ∨ state.handler ≠ .idle ∨ state.resets ≠ 0 :=
    (accounted.attended (owes_iff.mpr ⟨call, member, accepted⟩)).imp_right (Or.imp_left running)
  refine ⟨accounted.bounded, fun some => ?_, attended, fun call accepted => ?_,
    fun call member => ?_, accounted.settles⟩
  · obtain ⟨call, member⟩ := accounted.exists_waiting some
    obtain ⟨phase, here, counted⟩ := accounted.phase_of_waiting member
    have listed := mem_of_getElem? here
    cases phase with
    | admitted | rejected => exact nomatch counted
    | accepted => exact (attended call member here).imp_right (Or.imp_right .inl)
    | _ => exact .inr (.inr (.inr ⟨_, listed, rfl⟩))
  · have place := accounted.placed call
    rw [accepted] at place
    exact place
  · have place := accounted.placed call
    have positive := count_pos_iff.mpr member
    by_contra absent
    rw [if_neg absent] at place
    omega

/-- Two submissions may wait, and a failure suspends the registration. -/
def fragileTraits : CountedTraits where
  capacity := 2
  capacity_pos := by decide
  failurePolicy := .suspend

/-- A call submits, and is accepted. -/
def submits (call : Nat) : List RegistrationLabel :=
  [.submit false false, .count call, .submitNative call true]

/-- The work queue runs the item for a submission. -/
def runs (call steps : Nat) (succeeds : Bool) : List RegistrationLabel :=
  .dequeue :: replicate steps (.handle call succeeds)

/-- Two submissions are executed one after the other. -/
theorem counted_submissions_are_kept_twice :
    ∃ state : Registration fragileTraits, state.calls = [.accepted, .accepted] ∧
      state.executed = [0, 1] ∧ state.quiescent = true ∧
      state.waiting.count 1 + state.executed.count 1 + state.discarded.count 1 = 1 := by
  let labels := submits 0 ++ submits 1 ++ runs 0 8 true ++ runs 1 6 true
  refine ⟨((registrationMachine fragileTraits).run {} labels).get (by decide), by decide, by decide,
    by decide, ?_⟩
  exact (counted_submissions_are_kept (Transition.Machine.reachableWhere_get _ _ _ _ (by decide)
    _)).2.2.2.1 1 (by decide)

/-- The first of two submissions fails and suspends the registration, which is then stopped. It
drains, the second submission waits, and there is nothing left that could run it. -/
theorem stranded_submission :
    ∃ state : Registration fragileTraits, (registrationMachine fragileTraits).Reachable {} state ∧
      state.draining = true ∧ state.pending = 1 ∧ state.queued = false ∧ state.handler = .idle ∧
      state.resets = 0 ∧ state.calls = [.accepted, .accepted] ∧ state.quiescent = false := by
  let labels := submits 0 ++ submits 1 ++ runs 0 10 false ++ [.stopAccepting, .stopDraining]
  exact ⟨((registrationMachine fragileTraits).run {} labels).get (by decide),
    Transition.Machine.reachable_get _ _ _ _, by decide, by decide, by decide, by decide,
    by decide, by decide, by decide⟩

end Registration

end Solar.Execution
