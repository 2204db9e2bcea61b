/-
This file is about the stop request. The flag is set outside the mutex and tested both
outside and inside of it, so what keeps a waiter from sleeping through the request is that
it tests the flag and blocks under one lock, and that the requester takes the same lock
between setting the flag and waking the waiters.
-/

import Solar.Library.Transition
import Solar.Remote.Schema

namespace Solar.Execution

open List Function Option

open Remote (Status)

/-- Where a thread is in `wait` or `request_stop`. It is waiting for the mutex in `locking`, in
`requesting`, and in `relocking`, which is inside of `k_condvar_wait`. -/
inductive StopStage
  | idle
  | locking
  | testing
  | entering
  | blocked
  | relocking (status : Status)
  | unlocking (status : Status)
  | requesting
  | broadcasting
  | releasing
  deriving DecidableEq

namespace StopStage

/-- The thread has the mutex. -/
def holds : StopStage → Bool
  | .testing | .entering | .unlocking _ | .broadcasting | .releasing => true
  | _ => false

/-- The thread has set the flag and not returned. -/
def requests : StopStage → Bool
  | .requesting | .broadcasting | .releasing => true
  | _ => false

/-- The thread has found no request and will not look again before it is woken. -/
def sleeps : StopStage → Bool
  | .entering | .blocked => true
  | _ => false

/-- Where the thread goes on once it has the mutex. -/
def locked? : StopStage → Option StopStage
  | .locking | .relocking .ok => some .testing
  | .relocking status => some (.unlocking status)
  | .requesting => some .broadcasting
  | _ => none

end StopStage

/-- `StopState` and the threads that use it, with the one that set the flag and with what `wait` and
`request_stop` returned. -/
structure StopState where
  requested : Bool := false
  mutex : Option Nat := none
  stage : Nat → StopStage := fun _ => .idle
  winner : Option Nat := none
  waits : List Status := []
  answers : List (Except Status Bool) := []

/-- A call begins, or a thread in a call goes on. A `wake` is the end of `k_condvar_wait` without a
broadcast, by its timeout or for no reason. -/
inductive StopLabel
  | wait (thread : Nat) (possible inIsr noWait : Bool)
  | requestStop (thread : Nat) (inIsr : Bool)
  | lock (thread : Nat)
  | test (thread : Nat)
  | block (thread : Nat)
  | wake (thread : Nat) (status : Status)
  | broadcast (thread : Nat)
  | unlock (thread : Nat)

namespace StopState

variable (state : StopState)

def setStage (thread : Nat) (stage : StopStage) : StopState :=
  { state with stage := update state.stage thread stage }

/-- `k_condvar_broadcast`. -/
def broadcast : StopState :=
  { state with stage := fun thread =>
      if state.stage thread = .blocked then .relocking .ok else state.stage thread }

def step : StopLabel → Option StopState
  | .wait thread possible inIsr noWait =>
      if state.stage thread ≠ .idle then none
      else if !possible then some { state with waits := state.waits ++ [.notSupported] }
      else if state.requested then some { state with waits := state.waits ++ [.ok] }
      else if inIsr then some { state with waits := state.waits ++ [.invalid] }
      else if noWait then some { state with waits := state.waits ++ [.wouldBlock] }
      else some (state.setStage thread .locking)
  | .requestStop thread inIsr =>
      if state.stage thread ≠ .idle then none
      else if inIsr then some { state with answers := state.answers ++ [.error .invalid] }
      else if state.requested then some { state with answers := state.answers ++ [.ok false] }
      else some { state.setStage thread .requesting with requested := true, winner := thread }
  | .lock thread =>
      if state.mutex ≠ none then none
      else (state.stage thread).locked?.map fun stage =>
        { state.setStage thread stage with mutex := thread }
  | .test thread =>
      if state.stage thread ≠ .testing then none
      else some (state.setStage thread (if state.requested then .unlocking .ok else .entering))
  | .block thread =>
      if state.stage thread ≠ .entering then none
      else some { state.setStage thread .blocked with mutex := none }
  | .wake thread status =>
      if state.stage thread ≠ .blocked then none
      else some (state.setStage thread (.relocking status))
  | .broadcast thread =>
      if state.stage thread ≠ .broadcasting then none
      else some (state.broadcast.setStage thread .releasing)
  | .unlock thread =>
      match state.stage thread with
      | .unlocking status => some { state.setStage thread .idle with
          mutex := none
          waits := state.waits ++ [status] }
      | .releasing => some { state.setStage thread .idle with
          mutex := none
          answers := state.answers ++ [.ok true] }
      | _ => none

def machine : Transition.Machine StopState StopLabel := ⟨step⟩

/-- What holds in every state. -/
structure Kept : Prop where
  holds : ∀ thread, (state.stage thread).holds = true → state.mutex = some thread
  told : .ok true ∈ state.answers → ∀ thread, (state.stage thread).sleeps = false
  telling : ∀ thread, state.stage thread = .releasing → ∀ other, (state.stage other).sleeps = false
  quiet : state.requested = false → (∀ thread, state.stage thread ≠ .unlocking .ok) ∧
    .ok ∉ state.waits ∧ ∀ answer, .ok answer ∉ state.answers
  winner : state.requested = state.winner.isSome
  wins : ∀ thread, (state.stage thread).requests = true →
    state.winner = some thread ∧ .ok true ∉ state.answers
  won : ∀ thread, state.winner = some thread →
    .ok true ∈ state.answers ∨ (state.stage thread).requests = true
  once : state.answers.count (.ok true) ≤ 1

variable {state} {next : StopState} {label : StopLabel}

attribute [local grind] StopStage.holds StopStage.requests StopStage.sleeps StopStage.locked?

theorem awake_of_locked? {before stage : StopStage} (found : before.locked? = some stage) :
    stage.sleeps = false ∧ stage ≠ .releasing ∧ stage ≠ .unlocking .ok ∧
    stage.requests = before.requests := by
  unfold StopStage.locked? at found
  split at found <;> grind

variable {thread : Nat}

theorem Kept.wait {possible inIsr noWait : Bool} (kept : state.Kept)
    (stepped : state.step (.wait thread possible inIsr noWait) = some next) : next.Kept := by
  obtain ⟨holds, told, telling, quiet, winner, wins, won, once⟩ := kept
  obtain ⟨here, stepped⟩ := ite_none_left_eq_some.mp stepped
  split_ifs at stepped <;> obtain ⟨⟩ := stepped
  all_goals constructor
  all_goals dsimp only [setStage]
  all_goals grind

theorem Kept.requestStop {inIsr : Bool} (kept : state.Kept)
    (stepped : state.step (.requestStop thread inIsr) = some next) : next.Kept := by
  obtain ⟨holds, told, telling, quiet, winner, wins, won, once⟩ := kept
  obtain ⟨here, stepped⟩ := ite_none_left_eq_some.mp stepped
  split_ifs at stepped <;> obtain ⟨⟩ := stepped
  all_goals constructor
  all_goals dsimp only [setStage]
  all_goals grind

theorem Kept.lock (kept : state.Kept)
    (stepped : state.step (.lock thread) = some next) : next.Kept := by
  obtain ⟨holds, told, telling, quiet, winner, wins, won, once⟩ := kept
  obtain ⟨free, stepped⟩ := ite_none_left_eq_some.mp stepped
  obtain ⟨stage, found, ⟨⟩⟩ := map_eq_some_iff.mp stepped
  have awake := awake_of_locked? found
  clear stepped found
  constructor
  all_goals dsimp only [setStage]
  all_goals grind

theorem Kept.unlock (kept : state.Kept)
    (stepped : state.step (.unlock thread) = some next) : next.Kept := by
  obtain ⟨holds, told, telling, quiet, winner, wins, won, once⟩ := kept
  simp only [StopState.step] at stepped
  split at stepped <;> obtain ⟨⟩ := stepped
  all_goals constructor
  all_goals dsimp only [setStage]
  all_goals grind

theorem Kept.step (kept : state.Kept) (stepped : state.step label = some next) : next.Kept := by
  cases label with
  | wait => exact kept.wait stepped
  | requestStop => exact kept.requestStop stepped
  | lock => exact kept.lock stepped
  | unlock => exact kept.unlock stepped
  | test | block | wake | broadcast =>
    obtain ⟨holds, told, telling, quiet, winner, wins, won, once⟩ := kept
    obtain ⟨here, ⟨⟩⟩ := ite_none_left_eq_some.mp stepped
    clear stepped
    constructor
    all_goals dsimp only [setStage, StopState.broadcast]
    all_goals grind

theorem Kept.of_reachable (reached : machine.Reachable {} state) : state.Kept :=
  reached.invariant Kept
    ⟨nofun, nofun, nofun, fun _ => ⟨nofun, nofun, nofun⟩, rfl, nofun, nofun, Nat.zero_le 1⟩
    fun _ _ _ => .step

/-- Once the call that returns `true` has returned, no thread is blocked. A `wait` that succeeds
has seen a request. One caller at most gets `true`, and one does when a call has returned and
none is still going on. -/
theorem stop_wakes_every_waiter (reached : machine.Reachable {} state) :
    (.ok true ∈ state.answers → ∀ thread, state.stage thread ≠ .blocked) ∧
    (.ok ∈ state.waits → state.requested = true) ∧
    state.answers.count (.ok true) ≤ 1 ∧
    ((∃ answer, .ok answer ∈ state.answers) → (∀ thread, (state.stage thread).requests = false) →
      state.answers.count (.ok true) = 1) := by
  have kept := Kept.of_reachable reached
  refine ⟨fun told thread blocked => ?_, fun succeeded => ?_, kept.once, ?_⟩
  · simpa [blocked, StopStage.sleeps] using kept.told told thread
  · by_contra quiet
    exact (kept.quiet (eq_false_of_ne_true quiet)).2.1 succeeded
  · rintro ⟨answer, answered⟩ returned
    have requested : state.requested = true := by
      by_contra quiet
      exact (kept.quiet (eq_false_of_ne_true quiet)).2.2 answer answered
    obtain ⟨winner, won⟩ := isSome_iff_exists.mp (kept.winner ▸ requested)
    have told := (kept.won winner won).resolve_right (by simp [returned])
    exact Nat.le_antisymm kept.once (count_pos_iff.mpr told)

/-- Thread 0 sleeps until thread 1 stops it. -/
theorem stop_wakes_sleeper : ∃ state : StopState, .ok true ∈ state.answers ∧
    .ok ∈ state.waits ∧ (∀ thread, state.stage thread ≠ .blocked) ∧
    state.answers.count (.ok true) = 1 := by
  let labels : List StopLabel := [.wait 0 true false false, .lock 0, .test 0, .block 0,
    .requestStop 1 false, .lock 1, .broadcast 1, .unlock 1, .lock 0, .test 0, .unlock 0]
  let state := (machine.run {} labels).get (by decide)
  have reached : machine.Reachable {} state := ⟨labels, (some_get _).symm⟩
  obtain ⟨woken, -, -, one⟩ := stop_wakes_every_waiter reached
  refine ⟨state, by decide, by decide, woken (by decide), one ⟨true, by decide⟩ fun thread => ?_⟩
  match thread with
  | 0 | 1 | thread + 2 => rfl

end StopState
end Solar.Execution
