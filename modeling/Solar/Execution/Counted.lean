/-
This file models an OnDemand registration with counted admission as a step
system: the threads that submit and cancel, the stop request, and the work queue
that runs the handler. Every atomic operation of the source is a step of its
own, so that a run can interleave them in any order. The records the source
keeps for diagnostics are left out.

The counter says how many submissions wait, and not which. The model also keeps
the submissions themselves, and a step of the handler names the one its
invocation is counted for. Nothing the code does depends on that choice.
-/

import Solar.Library.Transition

namespace Solar.Execution

/-! ### Declarations -/

namespace Failure

inductive Policy
  | recordAndContinue | suspend
  deriving DecidableEq

end Failure

namespace Stop

inductive Policy
  | drain | cancelPending
  deriving DecidableEq

end Stop

/-- What a registration with `Counted<Capacity>` admission declares. -/
structure CountedTraits where
  capacity : Nat
  capacity_pos : 0 < capacity
  failurePolicy : Failure.Policy := .recordAndContinue
  stopPolicy : Stop.Policy := .drain

/-! ### State -/

/-- Why a submission was turned away. -/
inductive ErrorReason
  | invalidContext | registrationSuspended | registrationInactive | admissionFull | nativeFailure
  deriving DecidableEq

/-- Where a call of `submit_registration` is: it has found the registration accepting, it has
counted, the native submission was refused and the count is to be taken back, or it has returned. -/
inductive SubmitPhase
  | admitted | counted | refusing | accepted
  | rejected (reason : ErrorReason)
  deriving DecidableEq

/-- The submission has been counted and was not turned away since. -/
def SubmitPhase.isCounted : SubmitPhase → Bool
  | .counted | .refusing | .accepted => true
  | _ => false

/-- The call has not returned. -/
def SubmitPhase.isUnderWay : SubmitPhase → Bool
  | .admitted | .counted | .refusing => true
  | _ => false

/-- Where the work queue is with the item: not running it, or at an operation of `handle`. -/
inductive HandlerPhase
  | idle
  | taking
  | starting
  | invoking
  | finishing (succeeded : Bool)
  | suspending
  | refusing
  | continuing
  | askingAccepting
  | askingDraining
  | resubmitting
  | returning
  deriving DecidableEq

/-- The state of a registration. `resets` are the cancel calls that have cancelled the work item and
not yet reset the counter, `stopping` a stop request between its two stores. -/
structure Registration (traits : CountedTraits) where
  accepting : Bool := true
  inFlight : Bool := false
  draining : Bool := false
  suspended : Bool := false
  pending : UInt32 := 0
  queued : Bool := false
  canceling : Bool := false
  handler : HandlerPhase := .idle
  calls : List SubmitPhase := []
  resets : Nat := 0
  stopping : Bool := false
  waiting : List Nat := []
  executed : List Nat := []
  discarded : List Nat := []

/-- A step. Submissions are numbered in the order of their calls. -/
inductive RegistrationLabel
  | submit (inIsr fromIsr : Bool)
  | count (call : Nat)
  | submitNative (call : Nat) (accepted : Bool)
  | refund (call : Nat)
  | cancel
  | reset
  | stopAccepting
  | stopDraining
  | contain
  | settle
  | dequeue
  | handle (charged : Nat) (succeeds : Bool)

namespace Registration

variable {traits : CountedTraits} (state : Registration traits)

/-! ### Steps -/

/-- `submit_registration` up to the load of `accepting`. -/
def submit (inIsr fromIsr : Bool) : Registration traits :=
  if fromIsr = false ∧ inIsr then
    { state with calls := state.calls ++ [.rejected .invalidContext] }
  else if state.accepting = false then
    { state with
      calls := state.calls ++ [.rejected (if state.suspended then .registrationSuspended
        else .registrationInactive)] }
  else { state with calls := state.calls ++ [.admitted] }

/-- The exchange loop of `submit_registration`. -/
def count (call : Nat) : Registration traits :=
  if traits.capacity ≤ state.pending.toNat then
    { state with calls := state.calls.set call (.rejected .admissionFull) }
  else
    { state with
      calls := state.calls.set call .counted
      pending := state.pending + 1
      waiting := state.waiting ++ [call] }

/-- `submit_native`: the kernel refuses an item that is being cancelled. It may refuse an item that
is not queued, when the queue is not started, drains or is plugged; one that is queued stays so. -/
def submitNative (call : Nat) (accepted : Bool) : Registration traits :=
  if state.canceling ∨ (state.queued = false ∧ accepted = false) then
    { state with calls := state.calls.set call .refusing }
  else { state with calls := state.calls.set call .accepted, queued := true }

/-- The decrement of `submit_registration` after a refusal. -/
def refund (call : Nat) : Registration traits :=
  { state with
    calls := state.calls.set call (.rejected .nativeFailure)
    pending := state.pending - 1
    waiting := state.waiting.erase call }

/-- `cancel_registration` up to the native cancel: the item leaves the queue, and is refused until
the handler that runs it returns. A synchronous call then waits for that handler. -/
def cancel : Registration traits :=
  { state with
    queued := false
    canceling := decide (state.handler ≠ .idle)
    resets := state.resets + 1 }

/-- `reset_pending`. -/
def reset : Registration traits :=
  { state with
    pending := 0
    resets := state.resets - 1
    discarded := state.discarded ++ state.waiting
    waiting := [] }

/-- `registration_quiescent`. -/
def quiescent : Bool :=
  !state.inFlight && (!state.queued && state.handler = .idle) && state.pending = 0

/-- `handle`, with `finish_invocation` and `continue_registration`, one operation. The submission
the invocation is counted for is one that waits. The kernel takes what a handler submits to its own
queue unless the item is being cancelled. -/
def handle (charged : Nat) (succeeds : Bool) : Option (Registration traits) :=
  match state.handler with
  | .idle => none
  | .taking =>
      if state.pending = 0 then some { state with handler := .returning }
      else if state.waiting ≠ [] ∧ charged ∉ state.waiting then none
      else some { state with
        handler := .starting
        pending := state.pending - 1
        waiting := state.waiting.erase charged
        executed := state.executed ++ [charged] }
  | .starting => some { state with handler := .invoking, inFlight := true }
  | .invoking => some { state with handler := .finishing succeeds }
  | .finishing succeeded =>
      some { state with
        inFlight := false
        handler := if succeeded = false ∧ traits.failurePolicy = .suspend then .suspending
          else .continuing }
  | .suspending => some { state with suspended := true, handler := .refusing }
  | .refusing => some { state with accepting := false, handler := .continuing }
  | .continuing =>
      some { state with handler := if state.pending = 0 then .returning else .askingAccepting }
  | .askingAccepting =>
      some { state with handler := if state.accepting then .resubmitting else .askingDraining }
  | .askingDraining =>
      some { state with handler := if state.draining then .resubmitting else .returning }
  | .resubmitting =>
      some { state with handler := .returning, queued := state.queued || !state.canceling }
  | .returning => some { state with handler := .idle, canceling := false }

/-- One step of the system. -/
def step : RegistrationLabel → Option (Registration traits)
  | .submit inIsr fromIsr => some (state.submit inIsr fromIsr)
  | .count call => if state.calls[call]? = some .admitted then some (state.count call) else none
  | .submitNative call accepted =>
      if state.calls[call]? = some .counted then some (state.submitNative call accepted) else none
  | .refund call => if state.calls[call]? = some .refusing then some (state.refund call) else none
  | .cancel => some state.cancel
  | .reset => if state.resets = 0 then none else some state.reset
  | .stopAccepting => some { state with accepting := false, stopping := true }
  | .stopDraining =>
      if state.stopping then
        some { state with draining := decide (traits.stopPolicy = .drain), stopping := false }
      else none
  | .contain => if traits.stopPolicy = .cancelPending then some state.cancel else some state
  | .settle => if state.quiescent then some { state with draining := false } else none
  | .dequeue =>
      if state.queued ∧ state.handler = .idle then
        some { state with queued := false, handler := .taking }
      else none
  | .handle charged succeeds => state.handle charged succeeds

end Registration

/-- The step system of a registration. -/
def registrationMachine (traits : CountedTraits) :
    Transition.Machine (Registration traits) RegistrationLabel :=
  ⟨Registration.step⟩

end Solar.Execution
