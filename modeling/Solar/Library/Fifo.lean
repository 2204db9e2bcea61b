/-
This file is the theory of a bounded queue that drops its oldest item, drops the
new one or refuses it when it is full. An operation gives the queue after it and
its outcome; the outcomes of a run say how many items were stored, replaced and
taken, and what is stored is taken, replaced or still in the queue.
-/

import Mathlib

namespace Fifo

open List

/-- What a full queue does with a new item. -/
inductive Policy
  | dropOldest | dropNewest | reject

inductive Operation (Item : Type)
  | write (item : Item)
  | take

inductive Outcome (Item : Type)
  | stored
  | replaced (oldest : Item)
  | dropped
  | refused
  | taken (item : Item)
  | empty

variable {Item : Type}

namespace Outcome

/-- The new item is in the queue. -/
def isStored : Outcome Item → Bool
  | .stored | .replaced _ => true
  | _ => false

def isReplaced : Outcome Item → Bool
  | .replaced _ => true
  | _ => false

def isDropped : Outcome Item → Bool
  | .dropped => true
  | _ => false

def isTaken : Outcome Item → Bool
  | .taken _ => true
  | _ => false

end Outcome

variable {depth : Nat} {policy : Policy}

/-- A write to a queue that has no room. -/
def overflow (policy : Policy) (item : Item) : List Item → List Item × Outcome Item
  | [] => ([], .refused)
  | oldest :: rest =>
      match policy with
      | .dropOldest => (rest ++ [item], .replaced oldest)
      | .dropNewest => (oldest :: rest, .dropped)
      | .reject => (oldest :: rest, .refused)

/-- One operation. -/
def apply (depth : Nat) (policy : Policy) (items : List Item) :
    Operation Item → List Item × Outcome Item
  | .write item =>
      if items.length < depth then (items ++ [item], .stored) else overflow policy item items
  | .take =>
      match items with
      | [] => ([], .empty)
      | oldest :: rest => (rest, .taken oldest)

/-- The operations one after another. -/
def run (depth : Nat) (policy : Policy) :
    List Item → List (Operation Item) → List Item × List (Outcome Item)
  | items, [] => (items, [])
  | items, operation :: rest =>
      let next := apply depth policy items operation
      let later := run depth policy next.1 rest
      (later.1, next.2 :: later.2)

section

variable (items : List Item)

theorem run_cons (operation : Operation Item) (rest : List (Operation Item)) :
    run depth policy items (operation :: rest) =
      ((run depth policy (apply depth policy items operation).1 rest).1,
        (apply depth policy items operation).2 ::
          (run depth policy (apply depth policy items operation).1 rest).2) := rfl

theorem apply_write_of_room {items : List Item} (room : items.length < depth) (item : Item) :
    apply depth policy items (.write item) = (items ++ [item], .stored) := if_pos room

theorem apply_write_of_full {items : List Item} (full : ¬ items.length < depth) (item : Item) :
    apply depth policy items (.write item) = overflow policy item items := if_neg full

/-- One operation adds an item for one that is stored and takes one away for each that is taken or
replaced. -/
theorem length_apply (operation : Operation Item) :
    items.length + (apply depth policy items operation).2.isStored.toNat =
      (apply depth policy items operation).2.isTaken.toNat +
        (apply depth policy items operation).2.isReplaced.toNat +
          (apply depth policy items operation).1.length := by
  cases operation with
  | write item =>
    by_cases room : items.length < depth
    · rw [apply_write_of_room room]
      show items.length + 1 = 0 + 0 + (items ++ [item]).length
      rw [length_append, length_singleton, Nat.zero_add]
    · rw [apply_write_of_full room]
      cases items with
      | nil => rfl
      | cons oldest rest =>
        cases policy with
        | dropOldest =>
          show rest.length + 1 + 1 = 0 + 1 + (rest ++ [item]).length
          rw [length_append, length_singleton, Nat.add_comm 1]
        | _ =>
          show rest.length + 1 + 0 = 0 + 0 + (rest.length + 1)
          rw [Nat.zero_add]
  | take =>
    cases items with
    | nil => rfl
    | cons oldest rest =>
      show rest.length + 1 + 0 = 1 + 0 + rest.length
      rw [Nat.add_zero, Nat.add_comm]

theorem countP_cons_toNat (kind : Outcome Item → Bool) (first : Outcome Item)
    (rest : List (Outcome Item)) :
    (first :: rest).countP kind = rest.countP kind + (kind first).toNat := by
  rw [countP_cons]
  cases kind first <;> rfl

theorem stored_of_run (operations : List (Operation Item)) :
    items.length + (run depth policy items operations).2.countP Outcome.isStored =
      (run depth policy items operations).2.countP Outcome.isTaken +
        (run depth policy items operations).2.countP Outcome.isReplaced +
          (run depth policy items operations).1.length := by
  induction operations generalizing items with
  | nil =>
    show items.length + 0 = 0 + 0 + items.length
    rw [Nat.add_zero, Nat.zero_add]
  | cons operation rest ih =>
    have later := ih (apply depth policy items operation).1
    have here := @length_apply Item depth policy items operation
    rw [run_cons, countP_cons_toNat, countP_cons_toNat, countP_cons_toNat]
    dsimp only
    omega

end

end Fifo
