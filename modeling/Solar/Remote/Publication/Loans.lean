/-
This file models the loaned streams of the service. A producer borrows a buffer of a
fixed pool, fills it, and commits or abandons it; the publisher hands the committed buffers
to the subscribers and frees them. Who has a buffer is kept in three places: the handle of
the producer, which can be moved but not copied, the slot of the buffer, and what the
publisher has taken. They agree by the slot's number and its generation.

The locked sections, what a commit does behind its own, and the stages of a publication
are steps of their own. Any number of callers commit at a time, each its own handle.
-/

import Solar.Library.Pool
import Solar.Remote.Publication.Queues

namespace Solar.Remote

/-! ### Slots -/

structure LoanedPool where
  slots : Nat
  bytes : Nat
  slots_pos : 0 < slots
  bytes_pos : 0 < bytes

inductive LoanSlotState
  | free | loaned | ready
  deriving DecidableEq

/-- A `LoanSlot`. The last two fields are for the proofs: the number of the loan the slot was last
given to, and the sequence number it was last committed under. -/
structure LoanSlot where
  state : LoanSlotState := .free
  generation : UInt16 := 0
  size : UInt16 := 0
  ticket : Nat := 0
  sequence : UInt64 := 0

/-- What becomes of a loan. -/
inductive LoanEnd
  | abandoned | released
  deriving DecidableEq

/-- A `LoanState` without its count of interested sessions. The last two fields count the loans that
were given and write down what became of them. -/
structure LoanState (pool : LoanedPool) where
  bytes : Pool Bytes pool.slots := Pool.fill pool.slots (List.replicate pool.bytes 0)
  slots : Pool LoanSlot pool.slots := Pool.fill pool.slots {}
  wakePending : Bool := false
  sequence : UInt64 := 0
  abandoned : UInt32 := 0
  committed : UInt32 := 0
  released : UInt32 := 0
  granted : Nat := 0
  ended : List (Nat × LoanEnd) := []

/-- A `Loan`. It spans the buffer of a slot, and is armed while it has something to release. -/
structure Loan where
  bytes : Option Nat := none
  slot : UInt16 := 0
  generation : UInt16 := 0
  armed : Bool := false

def Loan.capacity (pool : LoanedPool) (loan : Loan) : Nat :=
  if loan.bytes.isSome then pool.bytes else 0

/-- `commit_ownership`. -/
def Loan.commitOwnership (loan : Loan) : Loan := { loan with armed := false, bytes := none }

/-- The reason why a loan is not given, or not committed. -/
inductive LoanError
  | invalidContext | notReady | noCapacity | invalidValue

/-- Where a function is called from, and what the facility lets it do. -/
structure LoanContext where
  inIsr : Bool := false
  ready : Bool := true
  accepting : Bool := true

/-- A `ReadyLoan`, whose span is given by the slot and the size. The sequence number is that of its
commit. -/
structure ReadyLoan where
  slot : UInt16
  generation : UInt16
  size : UInt16
  sequence : UInt64
  deriving DecidableEq

/-- `++generation`, and once more at zero. -/
def nextGeneration (generation : UInt16) : UInt16 :=
  if generation + 1 = 0 then generation + 1 + 1 else generation + 1

variable {pool : LoanedPool}

namespace LoanState

variable (state : LoanState pool)

/-- The slot that a number names, if it is in a state and of a generation. -/
def current? (expected : LoanSlotState) (slot generation : UInt16) : Option LoanSlot :=
  (state.slots.get? slot.toNat).filter fun record =>
    record.state = expected ∧ record.generation = generation

def put (index : Nat) (record : LoanSlot) : LoanState pool :=
  { state with slots := state.slots.put index record }

/-- `abandon_loan`. -/
def abandonLoan (slot generation : UInt16) : LoanState pool :=
  match state.current? .loaned slot generation with
  | some record =>
      { state.put slot.toNat { record with state := .free, size := 0 } with
        abandoned := state.abandoned + 1
        ended := state.ended ++ [(record.ticket, .abandoned)] }
  | none => state

/-- `release_ready_loan`. -/
def releaseReadyLoan (slot generation : UInt16) : LoanState pool :=
  match state.current? .ready slot generation with
  | some record =>
      { state.put slot.toNat { record with state := .free, size := 0 } with
        released := state.released + 1
        ended := state.ended ++ [(record.ticket, .released)] }
  | none => state

/-- The first slot in a state, among those that the `uint16_t` index of a loop reaches. -/
def scan (wanted : LoanSlotState) : Option (Nat × LoanSlot) :=
  (state.slots.find? fun record => record.state = wanted).filter fun found => found.1 < 65536

/-- A slot is loaned under the next generation and the next number. -/
def lend (index : Nat) (record : LoanSlot) : LoanState pool :=
  { state.put index { record with
        state := .loaned
        generation := nextGeneration record.generation
        ticket := state.granted }
    with granted := state.granted + 1 }

/-- A slot is committed under the next sequence number. -/
def makeReady (index : Nat) (record : LoanSlot) (size : Nat) : LoanState pool :=
  { state.put index { record with
        state := .ready
        size := UInt16.ofNat size
        sequence := state.sequence + 1 }
    with
    committed := state.committed + 1
    sequence := state.sequence + 1 }

/-- `try_loan_data`. From 65536 slots on the loop has no end, and is left with a slot only. -/
def tryLoan (context : LoanContext) : Option (Except LoanError Loan × LoanState pool) :=
  if context.inIsr then some (.error .invalidContext, state)
  else if ¬ context.ready ∨ ¬ context.accepting then some (.error .notReady, state)
  else
    match state.scan .free with
    | some (index, record) =>
        some (.ok {
            bytes := some index
            slot := UInt16.ofNat index
            generation := nextGeneration record.generation
            armed := true },
          state.lend index record)
    | none => if pool.slots < 65536 then some (.error .noCapacity, state) else none

/-- `commit_loan_data` up to the end of its locked section. -/
def commitLoan (context : LoanContext) (loan : Loan) (size : Nat) :
    Except LoanError UInt64 × LoanState pool :=
  if context.inIsr then (.error .invalidContext, state)
  else if ¬ loan.armed ∨ loan.capacity pool < size ∨ 65535 < size then
    (.error .invalidValue, state)
  else if ¬ context.accepting then (.error .notReady, state)
  else
    match state.current? .loaned loan.slot loan.generation with
    | some record => (.ok (state.sequence + 1), state.makeReady loan.slot.toNat record size)
    | none => (.error .invalidValue, state)

/-- `take_ready_loan`, whose loop has no end either from 65536 slots on. -/
def takeReadyLoan : Option (Option ReadyLoan × LoanState pool) :=
  match state.scan .ready with
  | some (index, record) =>
      some (some {
          slot := UInt16.ofNat index
          generation := record.generation
          size := record.size
          sequence := record.sequence },
        { state with wakePending := false })
  | none => if pool.slots < 65536 then some (none, { state with wakePending := false }) else none

/-- `loan_ready`. -/
def loanReady : Bool := state.slots.slots.any fun record => record.state = .ready

/-- What the span of a ready loan holds. -/
def payload (ready : ReadyLoan) : Bytes :=
  ((state.bytes.get? ready.slot.toNat).getD []).take ready.size.toNat

/-- Something is written through a handle. -/
def fill (loan : Loan) (content : Bytes) : LoanState pool :=
  match loan.bytes with
  | some index => { state with bytes := state.bytes.put index content }
  | none => state

/-- `Loan::abandon`. -/
def abandon (loan : Loan) : LoanState pool :=
  if loan.armed then state.abandonLoan loan.slot loan.generation else state

end LoanState

/-! ### Handles and callers -/

/-- Where a commit is behind its locked section, and its sequence number. -/
inductive CommitStage
  | disowning (sequence : UInt64)
  | settling (sequence : UInt64)
  | notifying (sequence : UInt64)

/-- Where `publish_ready_loan` is. -/
inductive PublishStage
  | idle
  | publishing (ready : ReadyLoan)
  | releasing (ready : ReadyLoan)
  | rearming
  | waking
  | notifying
  deriving DecidableEq

/-- A loaned stream: its slots, the handles of the program by their number, the commits that are
under way, by their handle, and the publisher. What was published, under the sequence number of its
commit, and the receipts are kept. -/
structure LoanedStream (pool : LoanedPool) where
  state : LoanState pool := {}
  loans : Nat → Option Loan := fun _ => none
  commits : Nat → Option CommitStage := fun _ => none
  publisher : PublishStage := .idle
  published : List (UInt64 × Bytes) := []
  receipts : List WriteReceipt := []

/-- A step. A handle is named by its number; `interested` is the count of sessions that is read, and
`accepted` the answer of the service to an event. -/
inductive LoanLabel
  | construct (target : Nat)
  | tryLoan (target : Nat) (context : LoanContext)
  | fill (target : Nat) (content : Bytes)
  | moveConstruct (source target : Nat)
  | moveAssign (source target : Nat)
  | destroy (target : Nat)
  | commit (target : Nat) (context : LoanContext) (size : Nat)
  | commitOwnership (target : Nat)
  | settle (target : Nat) (interested : UInt32)
  | notified (target : Nat) (accepted : Bool)
  | take
  | publish
  | release
  | rearm
  | wake
  | woken (accepted : Bool)

namespace LoanedStream

variable (stream : LoanedStream pool)

section

variable (target : Nat)

/-- The handle of a number, unless it is being committed. -/
def idle? : Option Loan :=
  if stream.commits target = none then stream.loans target else none

def setLoan (loan : Option Loan) : LoanedStream pool :=
  { stream with loans := Function.update stream.loans target loan }

def setCommit (stage : Option CommitStage) : LoanedStream pool :=
  { stream with commits := Function.update stream.commits target stage }

/-- A commit returns. -/
def answer (receipt : WriteReceipt) : LoanedStream pool :=
  { stream.setCommit target none with receipts := stream.receipts ++ [receipt] }

/-- What a commit does without its handle. -/
def settle (loan : Loan) (sequence : UInt64) (interested : UInt32) : LoanedStream pool :=
  if interested = 0 then
    { stream with state := stream.state.releaseReadyLoan loan.slot loan.generation }.answer target
      ⟨.noSubscribers, sequence, false⟩
  else if stream.state.wakePending then stream.answer target ⟨.coalesced, sequence, true⟩
  else
    { stream with state := { stream.state with wakePending := true } }.setCommit target
      (some (.notifying sequence))

end

/-- The pending flag is taken back if the service refuses the event. -/
def afterNotify (accepted : Bool) : LoanedStream pool :=
  if accepted then stream
  else { stream with state := { stream.state with wakePending := false } }

/-- The target of a move takes the fields of the source, which is disarmed. -/
def move (source target : Nat) (loan : Loan) : LoanedStream pool :=
  (stream.setLoan source (some { loan with armed := false })).setLoan target (some loan)

def step : LoanLabel → Option (LoanedStream pool)
  | .construct target =>
      if stream.loans target = none then some (stream.setLoan target (some {})) else none
  | .tryLoan target context =>
      if stream.loans target = none then
        (stream.state.tryLoan context).map fun tried =>
          match tried.1 with
          | .ok loan => { stream with state := tried.2 }.setLoan target (some loan)
          | .error _ => { stream with state := tried.2 }
      else none
  | .fill target content =>
      (stream.idle? target).bind fun loan =>
        if content.length = loan.capacity pool then
          some { stream with state := stream.state.fill loan content }
        else none
  | .moveConstruct source target =>
      (stream.idle? source).bind fun loan =>
        if stream.loans target = none then some (stream.move source target loan) else none
  | .moveAssign source target =>
      (stream.idle? source).bind fun loan =>
        (stream.idle? target).bind fun old =>
          if source = target then some stream
          else some ({ stream with state := stream.state.abandon old }.move source target loan)
  | .destroy target =>
      (stream.idle? target).map fun loan =>
        { stream with state := stream.state.abandon loan }.setLoan target none
  | .commit target context size =>
      (stream.idle? target).map fun loan =>
        let committed := stream.state.commitLoan context loan size
        match committed.1 with
        | .ok sequence =>
            { stream with state := committed.2 }.setCommit target (some (.disowning sequence))
        | .error _ => { stream with state := committed.2 }
  | .commitOwnership target =>
      match stream.commits target, stream.loans target with
      | some (.disowning sequence), some loan =>
          some ((stream.setLoan target (some loan.commitOwnership)).setCommit target
            (some (.settling sequence)))
      | _, _ => none
  | .settle target interested =>
      match stream.commits target, stream.loans target with
      | some (.settling sequence), some loan =>
          some (stream.settle target loan sequence interested)
      | _, _ => none
  | .notified target accepted =>
      match stream.commits target with
      | some (.notifying sequence) =>
          some ((stream.afterNotify accepted).answer target ⟨.accepted, sequence, accepted⟩)
      | _ => none
  | .take =>
      if stream.publisher = .idle then
        stream.state.takeReadyLoan.map fun taken =>
          { stream with
            state := taken.2
            publisher := match taken.1 with
              | some ready => .publishing ready
              | none => .idle }
      else none
  | .publish =>
      match stream.publisher with
      | .publishing ready =>
          some { stream with
            publisher := .releasing ready
            published := stream.published ++ [(ready.sequence, stream.state.payload ready)] }
      | _ => none
  | .release =>
      match stream.publisher with
      | .releasing ready =>
          some { stream with
            state := stream.state.releaseReadyLoan ready.slot ready.generation
            publisher := .rearming }
      | _ => none
  | .rearm =>
      if stream.publisher = .rearming then
        some { stream with publisher := if stream.state.loanReady then .waking else .idle }
      else none
  | .wake =>
      if stream.publisher = .waking then
        if stream.state.wakePending then some { stream with publisher := .idle }
        else
          some { stream with
            state := { stream.state with wakePending := true }
            publisher := .notifying }
      else none
  | .woken accepted =>
      if stream.publisher = .notifying then
        some { stream.afterNotify accepted with publisher := .idle }
      else none

end LoanedStream

/-- The loaned streams of a pool. -/
def loanMachine (pool : LoanedPool) : Transition.Machine (LoanedStream pool) LoanLabel :=
  ⟨LoanedStream.step⟩

end Solar.Remote
