/-
This file is the theory of a queue whose items are handed to someone. An item that
is admitted gets the next number. It waits until it is handed over or dropped at
the head, or is replaced at the end by a new item. The ledger says of each number
where it is; it accounts for the queue if every number is in one place, the items
that wait are those of the queue, and numbers are handed over in their order.
-/

import Mathlib

namespace Custody

open List Option

structure Ledger (Item : Type) where
  admitted : List Item := []
  waiting : List Nat := []
  handed : List Nat := []
  replaced : List Nat := []
  dropped : List Nat := []

namespace Ledger

variable {Item : Type} (ledger : Ledger Item)

/-- An item is put at the end of the queue. -/
def accept (item : Item) : Ledger Item :=
  { ledger with
    admitted := ledger.admitted ++ [item]
    waiting := ledger.waiting ++ [ledger.admitted.length] }

/-- An item takes the place of the last one. -/
def replaceLast (item : Item) : Ledger Item :=
  { ledger with
    admitted := ledger.admitted ++ [item]
    waiting := ledger.waiting.dropLast ++ [ledger.admitted.length]
    replaced := ledger.replaced ++ ledger.waiting.getLast?.toList }

/-- The head leaves the queue, and an item is handed over. -/
def hand (number : Nat) : Ledger Item :=
  { ledger with waiting := ledger.waiting.tail, handed := ledger.handed ++ [number] }

/-- The head is dropped. -/
def drop : Ledger Item :=
  { ledger with
    waiting := ledger.waiting.tail
    dropped := ledger.dropped ++ ledger.waiting.head?.toList }

/-- In how many places a number is. -/
def count (number : Nat) : Nat :=
  ledger.waiting.count number + ledger.handed.count number + ledger.replaced.count number +
    ledger.dropped.count number

/-- The ledger accounts for a queue. -/
structure Accounts (items : List Item) : Prop where
  waits : ledger.waiting.map (ledger.admitted[·]?) = items.map some
  once : ∀ number, ledger.count number = if number < ledger.admitted.length then 1 else 0
  ordered : (ledger.handed ++ ledger.waiting).Pairwise (· < ·)

namespace Accounts

variable {ledger} {items : List Item} {item : Item} {number : Nat}

theorem empty : ({} : Ledger Item).Accounts [] := ⟨rfl, fun _ => rfl, Pairwise.nil⟩

section

variable (accounts : ledger.Accounts items)

include accounts

theorem lt_of_mem_waiting (member : number ∈ ledger.waiting) : number < ledger.admitted.length := by
  by_contra outside
  have counted := accounts.once number
  rw [if_neg outside, count] at counted
  have positive := count_pos_iff.mpr member
  omega

theorem lt_of_mem_handed (member : number ∈ ledger.handed) : number < ledger.admitted.length := by
  by_contra outside
  have counted := accounts.once number
  rw [if_neg outside, count] at counted
  have positive := count_pos_iff.mpr member
  omega

theorem map_admitted {numbers : List Nat} (known : ∀ number ∈ numbers, number ∈ ledger.waiting)
    (item : Item) :
    numbers.map ((ledger.admitted ++ [item])[·]?) = numbers.map (ledger.admitted[·]?) :=
  map_congr_left fun number member =>
    getElem?_append_left (accounts.lt_of_mem_waiting (known number member))

theorem accept (item : Item) :
    (ledger.accept item).Accounts (items ++ [item]) where
  waits := by
    show (ledger.waiting ++ [ledger.admitted.length]).map ((ledger.admitted ++ [item])[·]?) = _
    rw [map_append, map_append, map_admitted accounts (fun _ => id), accounts.waits,
      map_singleton, getElem?_concat_length]
    rfl
  once number := by
    have before := accounts.once number
    simp only [count] at before
    simp only [count, Ledger.accept, count_append, count_singleton, length_append,
      length_singleton, beq_iff_eq]
    split_ifs at before ⊢ <;> omega
  ordered := by
    show (ledger.handed ++ (ledger.waiting ++ [ledger.admitted.length])).Pairwise (· < ·)
    rw [← append_assoc, pairwise_append]
    refine ⟨accounts.ordered, pairwise_singleton _ _, fun number member last here => ?_⟩
    rw [mem_singleton.mp here]
    exact (mem_append.mp member).elim accounts.lt_of_mem_handed accounts.lt_of_mem_waiting

end

theorem exists_last (accounts : ledger.Accounts (items ++ [item])) :
    ∃ before number, ledger.waiting = before ++ [number] ∧
      before.map (ledger.admitted[·]?) = items.map some := by
  have waits := accounts.waits
  rw [map_append] at waits
  obtain ⟨before, after, split, first, second⟩ := map_eq_append_iff.mp waits
  obtain ⟨number, rfl, -⟩ := map_eq_singleton_iff.mp second
  exact ⟨before, number, split, first⟩

theorem replaceLast (accounts : ledger.Accounts (items ++ [item])) (new : Item) :
    (ledger.replaceLast new).Accounts (items ++ [new]) := by
  obtain ⟨before, last, split, kept⟩ := accounts.exists_last
  constructor
  · show (ledger.waiting.dropLast ++ [ledger.admitted.length]).map
      ((ledger.admitted ++ [new])[·]?) = _
    rw [split, dropLast_concat, map_append, map_append, ← kept,
      map_admitted accounts (fun number member => split ▸ mem_append_left _ member),
      map_singleton, getElem?_concat_length]
    rfl
  · intro number
    have before := accounts.once number
    simp only [count, split, count_append, count_singleton, beq_iff_eq] at before
    simp only [count, Ledger.replaceLast, split, dropLast_concat, getLast?_concat,
      toList_some, count_append, count_singleton, length_append,
      length_singleton, beq_iff_eq]
    split_ifs at before ⊢ <;> omega
  · show (ledger.handed ++ (ledger.waiting.dropLast ++ [ledger.admitted.length])).Pairwise (· < ·)
    have ordered := accounts.ordered
    rw [split, ← append_assoc] at ordered
    rw [split, dropLast_concat, ← append_assoc, pairwise_append]
    refine ⟨(pairwise_append.mp ordered).1, pairwise_singleton _ _, ?_⟩
    intro number member latest here
    rw [mem_singleton.mp here]
    refine (mem_append.mp member).elim accounts.lt_of_mem_handed fun waits => ?_
    exact accounts.lt_of_mem_waiting (split ▸ mem_append_left _ waits)

section

variable (accounts : ledger.Accounts (item :: items))

include accounts

theorem exists_head :
    ∃ number rest, ledger.waiting = number :: rest ∧ ledger.admitted[number]? = some item ∧
      rest.map (ledger.admitted[·]?) = items.map some := by
  obtain ⟨number, rest, split, first, later⟩ := map_eq_cons_iff.mp accounts.waits
  exact ⟨number, rest, split, first, later⟩

theorem drop : ledger.drop.Accounts items := by
  obtain ⟨first, rest, split, -, kept⟩ := accounts.exists_head
  constructor
  · show ledger.waiting.tail.map _ = _
    rw [split]
    exact kept
  · intro number
    have before := accounts.once number
    simp only [count, split, count_cons, beq_iff_eq] at before
    simp only [count, Ledger.drop, split, tail_cons, head?_cons, toList_some,
      count_append, count_singleton, beq_iff_eq]
    split_ifs at before ⊢ <;> omega
  · refine accounts.ordered.sublist (Sublist.append_left ?_ _)
    exact tail_sublist _

theorem hand (first : ledger.waiting.head? = some number) :
    (ledger.hand number).Accounts items := by
  obtain ⟨head, rest, split, -, kept⟩ := accounts.exists_head
  obtain rfl : head = number := by
    rw [split] at first
    exact some.inj first
  constructor
  · show ledger.waiting.tail.map _ = _
    rw [split]
    exact kept
  · intro number
    have before := accounts.once number
    simp only [count, split, count_cons, beq_iff_eq] at before
    simp only [count, Ledger.hand, split, tail_cons, count_append, count_singleton, beq_iff_eq]
    split_ifs at before ⊢ <;> omega
  · show (ledger.handed ++ [head] ++ ledger.waiting.tail).Pairwise (· < ·)
    have ordered := accounts.ordered
    rw [split] at ordered
    rw [split, append_assoc]
    exact ordered

theorem not_hand (other : ledger.waiting.head? ≠ some number) :
    ¬ (ledger.hand number).Accounts items := by
  obtain ⟨head, rest, split, -, -⟩ := accounts.exists_head
  rw [split] at other
  have different : head ≠ number := fun same => other (congrArg some same)
  intro after
  have once := accounts.once head
  have gone := after.once head
  have known := accounts.lt_of_mem_waiting (split ▸ mem_cons_self)
  simp only [count, split, count_cons, beq_iff_eq, if_pos, if_pos known] at once
  have unhanded : ([number] : List Nat).count head = 0 :=
    count_eq_zero.mpr fun inside => different (mem_singleton.mp inside)
  simp only [count, Ledger.hand, split, tail_cons, count_append, unhanded, if_pos known] at gone
  omega

end

end Accounts

end Ledger

end Custody
