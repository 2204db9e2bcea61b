/-
This file models the ring of optional cells behind a Push stream, a Watch and a
Topic, and shows that it is a bounded queue with the declared overflow policy.

A ring is related to a queue when its cells, read from the head on, are the items
of the queue. Each operation keeps the relation and answers what the queue
answers; the position of the head, which wraps, is seen by neither.
-/

import Solar.Library.Fifo
import Solar.Library.Ring
import Solar.Remote.Publication.Queues

namespace Solar.Remote

open List Option Function

/-! ### The ring -/

/-- `PushState` and `DiscreteState`, with their cells. -/
structure PublicationRing (Value : Type) where
  values : Nat → Option Value := fun _ => none
  head : Nat := 0
  size : Nat := 0
  sequence : UInt64 := 0
  replaced : Nat := 0
  wakePending : Bool := false
  interestedSessions : UInt32 := 0

/-- How many values the counter `replaced` has: it is a `uint64_t` in `PushState` and a `uint32_t`
in `DiscreteState`. -/
def QueueKind.replacedModulus : QueueKind → Nat
  | .push _ => 2 ^ 64
  | .discrete => 2 ^ 32

variable {Value : Type}

namespace PublicationRing

variable (traits : QueueTraits Value) (ring : PublicationRing Value)

/-- The value at the head leaves, and its cell is reset. -/
def removeHead : PublicationRing Value :=
  { ring with
    values := update ring.values ring.head none
    head := (ring.head + 1) % traits.depth
    size := ring.size - 1 }

def countReplaced : PublicationRing Value :=
  { ring with replaced := (ring.replaced + 1) % traits.kind.replacedModulus }

/-- The value goes to the cell after the last one. -/
def store (value : Value) : PublicationRing Value :=
  let tail := (ring.head + ring.size) % traits.depth
  { ring with
    values := update ring.values tail (some value)
    size := ring.size + 1
    sequence := ring.sequence + 1 }

/-- The end of `write_data` and of `write_discrete`, after the lock is released; the service takes
the event if `posted`. -/
def announce (disposition : WriteDisposition) (posted : Bool) :
    WriteReceipt × PublicationRing Value :=
  if ring.interestedSessions = 0 then
    ({ disposition := .noSubscribers, sequence := ring.sequence, wakeQueued := false },
      { ring with wakePending := false })
  else if ring.wakePending then
    ({ disposition := .coalesced, sequence := ring.sequence, wakeQueued := true }, ring)
  else
    ({ disposition, sequence := ring.sequence, wakeQueued := posted },
      { ring with wakePending := posted })

/-- `write_data` and `write_discrete`. -/
def write (context : WriteContext) (posted : Bool) (value : Value) :
    Except WriteError WriteReceipt × PublicationRing Value :=
  match context.refusal? traits.kind with
  | some error => (.error error, ring)
  | none =>
      if ring.size = traits.depth then
        match traits.overflow with
        | .reject => (.error .noCapacity, ring)
        | .dropNewest =>
            (.ok {
                disposition := .droppedNewest
                sequence := ring.sequence + 1
                wakeQueued := ring.wakePending },
              { ring.countReplaced traits with sequence := ring.sequence + 1 })
        | .dropOldest =>
            let room := (ring.removeHead traits).countReplaced traits
            let written := (room.store traits value).announce .replacedOlder posted
            (.ok written.1, written.2)
      else
        let written := (ring.store traits value).announce .accepted posted
        (.ok written.1, written.2)

/-- `take_next` and `take_discrete`. -/
def take : Option Value × PublicationRing Value :=
  if ring.size = 0 then (none, { ring with wakePending := false })
  else (ring.values ring.head, { ring.removeHead traits with wakePending := false })

/-- `rearm_push` and `rearm_discrete`. -/
def rearm (posted : Bool) : PublicationRing Value :=
  if ring.size = 0 ∨ ring.wakePending then ring else { ring with wakePending := posted }

end PublicationRing

/-! ### Runs -/

/-- What is done to a ring: the writers write, the service takes and rearms, and the subscriptions
of the sessions change the number of those interested. -/
inductive RingOperation (Value : Type)
  | write (context : WriteContext) (posted : Bool) (value : Value)
  | take
  | rearm (posted : Bool)
  | interest (sessions : UInt32)

/-- What an operation returns. -/
inductive RingResult (Value : Type)
  | written (receipt : Except WriteError WriteReceipt)
  | taken (value : Option Value)
  | done

namespace PublicationRing

variable (traits : QueueTraits Value)

def apply (ring : PublicationRing Value) :
    RingOperation Value → RingResult Value × PublicationRing Value
  | .write context posted value =>
      let written := ring.write traits context posted value
      (.written written.1, written.2)
  | .take =>
      let taken := ring.take traits
      (.taken taken.1, taken.2)
  | .rearm posted => (.done, ring.rearm posted)
  | .interest sessions => (.done, { ring with interestedSessions := sessions })

/-- The operations one after another. -/
def run : PublicationRing Value → List (RingOperation Value) →
    List (RingResult Value) × PublicationRing Value
  | ring, [] => ([], ring)
  | ring, operation :: rest =>
      let next := ring.apply traits operation
      let later := run next.2 rest
      (next.1 :: later.1, later.2)

end PublicationRing

/-! ### The queue -/

def Overflow.policy : Overflow → Fifo.Policy
  | .dropOldest => .dropOldest
  | .dropNewest => .dropNewest
  | .reject => .reject

/-- The operation on the queue, if the facility lets it come that far. -/
def RingOperation.queued? {Value : Type} (traits : QueueTraits Value) :
    RingOperation Value → Option (Fifo.Operation Value)
  | .write context _ value =>
      match context.refusal? traits.kind with
      | some _ => none
      | none => some (.write value)
  | .take => some .take
  | .rearm _ | .interest _ => none

/-- What the caller of a queue sees: whether a value is accepted, dropped or refused, and what is
taken. -/
inductive Observed (Value : Type)
  | accepted
  | dropped
  | refused
  | taken (value : Option Value)

namespace Observed

def ofOutcome : Fifo.Outcome Value → Observed Value
  | .stored | .replaced _ => .accepted
  | .dropped => .dropped
  | .refused => .refused
  | .taken value => .taken (some value)
  | .empty => .taken none

def isAccepted : Observed Value → Bool
  | .accepted => true
  | _ => false

def isDropped : Observed Value → Bool
  | .dropped => true
  | _ => false

/-- A value is taken. -/
def isTaken : Observed Value → Bool
  | .taken value => value.isSome
  | _ => false

/-- A write that did not come to the queue and the operations beside it are not seen. -/
def ofResult? : RingResult Value → Option (Observed Value)
  | .written (.ok receipt) =>
      some (if receipt.disposition = .droppedNewest then .dropped else .accepted)
  | .written (.error .noCapacity) => some .refused
  | .written (.error _) => none
  | .taken value => some (.taken value)
  | .done => none

end Observed

def RingResult.receipt? {Value : Type} : RingResult Value → Option WriteReceipt
  | .written (.ok receipt) => some receipt
  | _ => none

/-- As many numbers as asked for, one after another. -/
def consecutive (first : UInt64) : Nat → List UInt64
  | 0 => []
  | count + 1 => first :: consecutive (first + 1) count

namespace PublicationRing

variable (traits : QueueTraits Value) (ring : PublicationRing Value)

/-- The cells from the head on. -/
def contents : List (Option Value) :=
  (range ring.size).map fun offset => ring.values ((ring.head + offset) % traits.depth)

end PublicationRing

namespace PublicationRing

variable {traits : QueueTraits Value} {ring : PublicationRing Value} {items : List Value}

/-! ### The items of a ring -/

/-- The indices and the cells, with the index of the cell that is written next. -/
def slots (traits : QueueTraits Value) (ring : PublicationRing Value) : Ring.Slots Value where
  storage := ring.values
  head := ring.head
  tail := (ring.head + ring.size) % traits.depth
  count := ring.size

/-- The ring holds the queue of these items. -/
structure Holds (traits : QueueTraits Value) (ring : PublicationRing Value)
    (items : List Value) : Prop where
  slots : Ring.Holds traits.depth (ring.slots traits) items
  inside : ring.head < traits.depth

namespace Holds

theorem empty (traits : QueueTraits Value) : Holds traits {} [] where
  slots := {
    count := rfl
    bounded := Nat.zero_le _
    tail := rfl
    cells := fun _ _ found => absurd found nofun }
  inside := traits.depth_pos

section

variable (holds : ring.Holds traits items)

include holds

theorem size : ring.size = items.length := holds.slots.count

theorem contents : ring.contents traits = items.map some := by
  rw [← holds.slots.map_cells, ← holds.size]
  rfl

theorem store (room : items.length < traits.depth) (value : Value) :
    (ring.store traits value).Holds traits (items ++ [value]) where
  slots := by
    have pushed := holds.slots.push room (Nat.lt_succ_self traits.depth) value
    have small : ring.size + 1 < traits.depth + 1 := by
      rw [holds.size]
      exact Nat.succ_lt_succ room
    have same : (ring.slots traits).push traits.depth (traits.depth + 1) value =
        (ring.store traits value).slots traits := by
      unfold Ring.Slots.push PublicationRing.slots PublicationRing.store
      rw [Ring.Slots.mk.injEq]
      exact ⟨rfl, rfl, by rw [Nat.mod_add_mod, Nat.add_assoc], Nat.mod_eq_of_lt small⟩
    rwa [same] at pushed
  inside := holds.inside

end

theorem removeHead {item : Value} {rest : List Value} (holds : ring.Holds traits (item :: rest)) :
    (ring.removeHead traits).Holds traits rest where
  slots := by
    have dropped := holds.slots.drop_update (Nat.lt_succ_self traits.depth) holds.inside none
    have count : ring.size = rest.length + 1 := holds.size
    have fits : rest.length + 1 ≤ traits.depth := holds.slots.bounded
    have same : { (ring.slots traits).drop traits.depth (traits.depth + 1) with
        storage := update ring.values ring.head none } =
          (ring.removeHead traits).slots traits := by
      rw [Ring.Slots.mk.injEq]
      refine ⟨rfl, rfl, ?_, ?_⟩
      · show (ring.head + ring.size) % traits.depth =
          ((ring.head + 1) % traits.depth + (ring.size - 1)) % traits.depth
        rw [count, Nat.mod_add_mod, Nat.add_sub_cancel, Nat.add_assoc, Nat.add_comm 1]
      · show (ring.size + (traits.depth + 1 - 1)) % (traits.depth + 1) = ring.size - 1
        have wraps :
            rest.length + 1 + (traits.depth + 1 - 1) = rest.length + (traits.depth + 1) := by
          omega
        rw [count, wraps, Nat.add_mod_right, Nat.add_sub_cancel]
        exact Nat.mod_eq_of_lt (Nat.lt_of_lt_of_le fits (Nat.le_succ _))
    rw [← same]
    exact dropped
  inside := Nat.mod_lt _ traits.depth_pos

theorem head {item : Value} {rest : List Value} (holds : ring.Holds traits (item :: rest)) :
    ring.values ring.head = some item := holds.slots.head holds.inside

theorem of_eq {other : PublicationRing Value} (holds : ring.Holds traits items)
    (values : other.values = ring.values) (head : other.head = ring.head)
    (size : other.size = ring.size) : other.Holds traits items where
  slots := by
    have same : other.slots traits = ring.slots traits := by
      unfold PublicationRing.slots
      rw [values, head, size]
    rw [same]
    exact holds.slots
  inside := by
    rw [head]
    exact holds.inside

end Holds

/-! ### One operation -/

/-- What an operation leaves and returns, against what the queue says, if it comes to the queue. -/
structure Answers (traits : QueueTraits Value) (ring : PublicationRing Value) (items : List Value)
    (answer : RingResult Value × PublicationRing Value)
    (outcome? : Option (List Value × Fifo.Outcome Value)) : Prop where
  holds : answer.2.Holds traits (outcome?.elim items Prod.fst)
  observed : Observed.ofResult? answer.1 = outcome?.map fun outcome => .ofOutcome outcome.2
  sequence : answer.2.sequence =
    if answer.1.receipt?.isSome then ring.sequence + 1 else ring.sequence
  numbered : ∀ receipt, answer.1.receipt? = some receipt → receipt.sequence = ring.sequence + 1
  replaced : answer.2.replaced =
    if outcome?.any (fun outcome => outcome.2.isReplaced || outcome.2.isDropped) then
      (ring.replaced + 1) % traits.kind.replacedModulus
    else ring.replaced

theorem announce_spec (disposition : WriteDisposition) (posted : Bool)
    (stays : disposition ≠ .droppedNewest) :
    (ring.announce disposition posted).1.sequence = ring.sequence ∧
      (ring.announce disposition posted).1.disposition ≠ .droppedNewest ∧
      ∃ wakePending, (ring.announce disposition posted).2 = { ring with wakePending } := by
  unfold announce
  split
  · exact ⟨rfl, nofun, false, rfl⟩
  split
  · exact ⟨rfl, nofun, ring.wakePending, rfl⟩
  · exact ⟨rfl, stays, posted, rfl⟩

/-- A write that stores its value after it has made room for it. -/
theorem answers_announce {room : PublicationRing Value} {kept : List Value}
    {outcome : Fifo.Outcome Value} (holds : room.Holds traits kept)
    (fits : kept.length < traits.depth) (sequence : room.sequence = ring.sequence)
    (replaced : room.replaced = if outcome.isReplaced then
      (ring.replaced + 1) % traits.kind.replacedModulus else ring.replaced)
    (accepted : Observed.ofOutcome outcome = .accepted) (disposition : WriteDisposition)
    (stays : disposition ≠ .droppedNewest) (posted : Bool) (value : Value) :
    Answers traits ring items
      (.written (.ok ((room.store traits value).announce disposition posted).1),
        ((room.store traits value).announce disposition posted).2)
      (some (kept ++ [value], outcome)) := by
  obtain ⟨number, keeps, wakePending, same⟩ :=
    @announce_spec Value (room.store traits value) disposition posted stays
  have undropped : outcome.isDropped = false := by
    cases outcome with
    | dropped => exact nomatch accepted
    | _ => rfl
  constructor
  · rw [same]
    exact (holds.store fits value).of_eq rfl rfl rfl
  · show some _ = some (Observed.ofOutcome outcome)
    rw [if_neg keeps, accepted]
  · rw [same, ← sequence]
    rfl
  · rintro receipt ⟨⟩
    rw [number, ← sequence]
    rfl
  · rw [same, any_some, undropped, Bool.or_false]
    exact replaced

theorem answers_write (holds : ring.Holds traits items) {context : WriteContext} {posted : Bool}
    {value : Value} (permitted : context.refusal? traits.kind = none) :
    Answers traits ring items (ring.apply traits (.write context posted value))
      (some (Fifo.apply traits.depth traits.overflow.policy items (.write value))) := by
  unfold apply write
  dsimp only
  rw [permitted]
  by_cases full : ring.size = traits.depth
  · have filled : ¬ items.length < traits.depth := by
      rw [← holds.size, full]
      exact Nat.lt_irrefl _
    rw [if_pos full, Fifo.apply_write_of_full filled]
    cases items with
    | nil => exact absurd traits.depth_pos filled
    | cons oldest rest =>
      cases policy : traits.overflow with
      | dropOldest =>
        have fits : rest.length < traits.depth := holds.slots.bounded
        have room : ((ring.removeHead traits).countReplaced traits).Holds traits rest :=
          holds.removeHead.of_eq rfl rfl rfl
        exact @answers_announce Value traits ring (oldest :: rest) _ rest (.replaced oldest) room
          fits rfl rfl rfl .replacedOlder (by decide) posted value
      | dropNewest => exact ⟨holds.of_eq rfl rfl rfl, rfl, rfl, by rintro receipt ⟨⟩; rfl, rfl⟩
      | reject => exact ⟨holds, rfl, rfl, nofun, rfl⟩
  · have fits : items.length < traits.depth := by
      rw [← holds.size]
      exact Nat.lt_of_le_of_ne (holds.size ▸ holds.slots.bounded) full
    rw [if_neg full, Fifo.apply_write_of_room fits]
    exact @answers_announce Value traits ring items ring items .stored holds fits rfl rfl rfl
      .accepted (by decide) posted value

theorem answers_take (holds : ring.Holds traits items) :
    Answers traits ring items (ring.apply traits .take)
      (some (Fifo.apply traits.depth traits.overflow.policy items .take)) := by
  unfold apply take
  cases items with
  | nil =>
    have none : ring.size = 0 := holds.size
    rw [if_pos none]
    exact ⟨holds.of_eq rfl rfl rfl, rfl, rfl, nofun, rfl⟩
  | cons oldest rest =>
    have waits : ¬ ring.size = 0 := by
      rw [holds.size]
      exact Nat.succ_ne_zero _
    rw [if_neg waits, holds.head]
    exact ⟨holds.removeHead.of_eq rfl rfl rfl, rfl, rfl, nofun, rfl⟩

theorem ofResult?_of_refusal? {context : WriteContext} {kind : QueueKind} {error : WriteError}
    (refused : context.refusal? kind = some error) :
    Observed.ofResult? (.written (.error error) : RingResult Value) = none := by
  cases error with
  | noCapacity =>
    unfold WriteContext.refusal? at refused
    dsimp only at refused
    split_ifs at refused <;> exact absurd (some.inj refused) (by decide)
  | _ => rfl

theorem exists_rearm {posted : Bool} :
    ∃ wakePending, ring.rearm posted = { ring with wakePending } := by
  unfold rearm
  split
  · exact ⟨ring.wakePending, rfl⟩
  · exact ⟨posted, rfl⟩

theorem answers_apply (holds : ring.Holds traits items) (operation : RingOperation Value) :
    Answers traits ring items (ring.apply traits operation)
      ((operation.queued? traits).map (Fifo.apply traits.depth traits.overflow.policy items)) := by
  cases operation with
  | write context posted value =>
    cases permitted : context.refusal? traits.kind with
    | none =>
      simp only [RingOperation.queued?, permitted, map_some]
      exact answers_write holds permitted
    | some error =>
      simp only [RingOperation.queued?, permitted, apply, write, map_none]
      exact ⟨holds, ofResult?_of_refusal? permitted, rfl, nofun, rfl⟩
  | take => exact answers_take holds
  | rearm posted =>
    obtain ⟨wakePending, same⟩ := exists_rearm
    show Answers traits ring items (.done, ring.rearm posted) none
    rw [same]
    exact ⟨holds.of_eq rfl rfl rfl, rfl, rfl, nofun, rfl⟩
  | interest sessions => exact ⟨holds.of_eq rfl rfl rfl, rfl, rfl, nofun, rfl⟩

/-! ### Runs -/

/-- How many writes the queue has counted as replaced: those that drop the oldest value and those
that drop their own. -/
def lost (outcomes : List (Fifo.Outcome Value)) : Nat :=
  outcomes.countP Fifo.Outcome.isReplaced + outcomes.countP Fifo.Outcome.isDropped

theorem lost_cons (first : Fifo.Outcome Value) (rest : List (Fifo.Outcome Value)) :
    lost (first :: rest) = lost rest + (first.isReplaced || first.isDropped).toNat := by
  unfold lost
  rw [Fifo.countP_cons_toNat, Fifo.countP_cons_toNat]
  cases first with
  | replaced oldest =>
    show _ + 1 + (_ + 0) = _ + _ + 1
    rw [Nat.add_zero (countP _ _), Nat.add_right_comm]
  | _ => rfl

/-- The numbers of the receipts. -/
def numbers (results : List (RingResult Value)) : List UInt64 :=
  (results.filterMap RingResult.receipt?).map WriteReceipt.sequence

/-- What a run leaves and returns, against a run of the queue. -/
structure Follows (traits : QueueTraits Value) (ring : PublicationRing Value)
    (ran : List (RingResult Value) × PublicationRing Value)
    (queue : List Value × List (Fifo.Outcome Value)) : Prop where
  holds : ran.2.Holds traits queue.1
  observed : ran.1.filterMap Observed.ofResult? = queue.2.map Observed.ofOutcome
  numbered : numbers ran.1 = consecutive (ring.sequence + 1) (numbers ran.1).length
  replaced : ∀ past, ring.replaced = past % traits.kind.replacedModulus →
    ran.2.replaced = (past + lost queue.2) % traits.kind.replacedModulus

theorem filterMap_cons_toList {Item Image : Type} (image? : Item → Option Image) (first : Item)
    (rest : List Item) :
    (first :: rest).filterMap image? = (image? first).toList ++ rest.filterMap image? := by
  rw [filterMap_cons]
  cases image? first <;> rfl

theorem numbers_cons (first : RingResult Value) (rest : List (RingResult Value)) :
    numbers (first :: rest) =
      (first.receipt?.map WriteReceipt.sequence).toList ++ numbers rest := by
  unfold numbers
  rw [filterMap_cons_toList]
  cases first.receipt? <;> rfl

variable {answer : RingResult Value × PublicationRing Value}

theorem numbered_cons {outcome? : Option (List Value × Fifo.Outcome Value)}
    {rest : List (RingResult Value)} (answers : Answers traits ring items answer outcome?)
    (later : numbers rest = consecutive (answer.2.sequence + 1) (numbers rest).length) :
    numbers (answer.1 :: rest) =
      consecutive (ring.sequence + 1) (numbers (answer.1 :: rest)).length := by
  rw [numbers_cons]
  have sequence := answers.sequence
  cases written : answer.1.receipt? with rw [written] at sequence
  | none =>
    rw [show answer.2.sequence = ring.sequence from sequence] at later
    exact later
  | some receipt =>
    rw [show answer.2.sequence = ring.sequence + 1 from sequence] at later
    show receipt.sequence :: numbers rest =
      consecutive (ring.sequence + 1) ((numbers rest).length + 1)
    rw [answers.numbered receipt written, consecutive, ← later]

variable {ran : List (RingResult Value) × PublicationRing Value}
  {queue : List Value × List (Fifo.Outcome Value)}

/-- A step whose outcome is the queue's, followed by a run that is the queue's. -/
theorem follows_cons {outcome : List Value × Fifo.Outcome Value}
    (answers : Answers traits ring items answer (some outcome))
    (later : Follows traits answer.2 ran queue) :
    Follows traits ring (answer.1 :: ran.1, ran.2) (queue.1, outcome.2 :: queue.2) where
  holds := later.holds
  observed := by
    rw [filterMap_cons_toList, answers.observed, later.observed]
    rfl
  numbered := numbered_cons answers later.numbered
  replaced past start := by
    have counted := answers.replaced
    rw [any_some] at counted
    rw [lost_cons, Nat.add_comm (lost queue.2), ← Nat.add_assoc]
    refine later.replaced _ ?_
    cases lose : outcome.2.isReplaced || outcome.2.isDropped with
    | false =>
      rw [lose] at counted
      exact counted.trans start
    | true =>
      rw [lose, start] at counted
      rw [show answer.2.replaced = _ from counted, Nat.mod_add_mod]
      rfl

theorem follows_aside (answers : Answers traits ring items answer none)
    (later : Follows traits answer.2 ran queue) :
    Follows traits ring (answer.1 :: ran.1, ran.2) queue where
  holds := later.holds
  observed := by
    rw [filterMap_cons_toList, answers.observed, later.observed]
    rfl
  numbered := numbered_cons answers later.numbered
  replaced past start := later.replaced past (answers.replaced.trans start)

theorem follows_run (holds : ring.Holds traits items) (operations : List (RingOperation Value)) :
    Follows traits ring (run traits ring operations)
      (Fifo.run traits.depth traits.overflow.policy items
        (operations.filterMap (RingOperation.queued? traits))) := by
  induction operations generalizing ring items with
  | nil => exact ⟨holds, rfl, rfl, fun past start => start⟩
  | cons operation rest ih =>
    have answers := answers_apply holds operation
    have later := ih answers.holds
    rw [filterMap_cons]
    cases queued : operation.queued? traits with rw [queued] at answers later
    | none => exact follows_aside answers later
    | some asked => exact follows_cons answers later

/-! ### The refinement -/

/-- What the callers of a ring see in a run. -/
def observed (results : List (RingResult Value)) : List (Observed Value) :=
  results.filterMap Observed.ofResult?

/-- A run of a ring from its initial state, against a run of the queue. -/
structure Refines (traits : QueueTraits Value)
    (ran : List (RingResult Value) × PublicationRing Value)
    (queue : List Value × List (Fifo.Outcome Value)) : Prop where
  observed : observed ran.1 = queue.2.map Observed.ofOutcome
  contents : ran.2.contents traits = queue.1.map some
  numbered : numbers ran.1 = consecutive 1 (numbers ran.1).length
  accounted : (PublicationRing.observed ran.1).countP Observed.isAccepted =
    (PublicationRing.observed ran.1).countP Observed.isTaken +
      queue.2.countP Fifo.Outcome.isReplaced + ran.2.size
  replaced : ran.2.replaced = (queue.2.countP Fifo.Outcome.isReplaced +
      (PublicationRing.observed ran.1).countP Observed.isDropped) % traits.kind.replacedModulus

theorem isAccepted_ofOutcome :
    Observed.isAccepted ∘ Observed.ofOutcome =
      (Fifo.Outcome.isStored : Fifo.Outcome Value → Bool) := by
  funext outcome
  cases outcome <;> rfl

theorem isTaken_ofOutcome :
    Observed.isTaken ∘ Observed.ofOutcome = (Fifo.Outcome.isTaken : Fifo.Outcome Value → Bool) := by
  funext outcome
  cases outcome <;> rfl

theorem isDropped_ofOutcome :
    Observed.isDropped ∘ Observed.ofOutcome =
      (Fifo.Outcome.isDropped : Fifo.Outcome Value → Bool) := by
  funext outcome
  cases outcome <;> rfl

/-- The ring of a Push stream, a Watch or a Topic is a bounded queue with its overflow policy. -/
theorem ring_refines_fifo (traits : QueueTraits Value) (operations : List (RingOperation Value)) :
    Refines traits (run traits {} operations) (Fifo.run traits.depth traits.overflow.policy []
        (operations.filterMap (RingOperation.queued? traits))) := by
  have follows := follows_run (Holds.empty traits) operations
  have stored := @Fifo.stored_of_run Value traits.depth traits.overflow.policy []
    (operations.filterMap (RingOperation.queued? traits))
  refine ⟨follows.observed, follows.holds.contents, follows.numbered, ?_, ?_⟩
  · rw [observed, follows.observed, countP_map, countP_map, isAccepted_ofOutcome,
      isTaken_ofOutcome, follows.holds.size, ← stored]
    exact (Nat.zero_add _).symm
  · rw [observed, follows.observed, countP_map, isDropped_ofOutcome,
      follows.replaced 0 (Nat.zero_mod _).symm, Nat.zero_add]
    rfl

end PublicationRing

end Solar.Remote
