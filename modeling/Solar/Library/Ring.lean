/-
This file is the theory of a ring of slots that holds a queue. The items stand in
their order from the head on, and the tail is the slot after the last of them. The
number of items is kept in a word, which wraps when it is decremented at zero: a
ring holds a queue again after a step only if the queue had room for the item that
was pushed, or an item to drop.
-/

import Mathlib

namespace Ring

open List Function

/-- The slots, the two indices and the number of items. -/
structure Slots (Item : Type) where
  storage : Nat → Option Item := fun _ => none
  head : Nat := 0
  tail : Nat := 0
  count : Nat := 0

variable {Item : Type} {capacity modulus : Nat} {slots : Slots Item} {items : List Item}

/-- Write an item at the tail. -/
def Slots.push (capacity modulus : Nat) (slots : Slots Item) (item : Item) : Slots Item where
  storage := update slots.storage slots.tail (some item)
  head := slots.head
  tail := (slots.tail + 1) % capacity
  count := (slots.count + 1) % modulus

/-- Give up the item at the head. Its slot keeps what it holds. -/
def Slots.drop (capacity modulus : Nat) (slots : Slots Item) : Slots Item where
  storage := slots.storage
  head := (slots.head + 1) % capacity
  tail := slots.tail
  count := (slots.count + (modulus - 1)) % modulus

/-- Give up all items. -/
def Slots.clear (slots : Slots Item) : Slots Item :=
  { slots with head := 0, tail := 0, count := 0 }

/-- The slots hold the queue of these items. -/
structure Holds (capacity : Nat) (slots : Slots Item) (items : List Item) : Prop where
  count : slots.count = items.length
  bounded : items.length ≤ capacity
  tail : slots.tail = (slots.head + items.length) % capacity
  cells : ∀ offset item, items[offset]? = some item →
    slots.storage ((slots.head + offset) % capacity) = some item

namespace Holds

theorem empty (capacity : Nat) : Holds capacity ({} : Slots Item) [] where
  count := rfl
  bounded := Nat.zero_le _
  tail := (Nat.zero_mod _).symm
  cells _ _ found := absurd found nofun

theorem clear (capacity : Nat) (slots : Slots Item) : Holds capacity slots.clear [] where
  count := rfl
  bounded := Nat.zero_le _
  tail := (Nat.zero_mod _).symm
  cells _ _ found := absurd found nofun

theorem slot_ne {head offset place : Nat} (before : offset < place) (fits : place < capacity) :
    (head + offset) % capacity ≠ (head + place) % capacity := by
  intro same
  have congruent : offset % capacity = place % capacity := Nat.ModEq.add_left_cancel' head same
  rw [Nat.mod_eq_of_lt (Nat.lt_trans before fits), Nat.mod_eq_of_lt fits] at congruent
  exact absurd congruent before.ne

theorem push (holds : Holds capacity slots items) (room : items.length < capacity)
    (small : capacity < modulus) (item : Item) :
    Holds capacity (slots.push capacity modulus item) (items ++ [item]) where
  count := by
    rw [length_append, Slots.push, holds.count]
    exact Nat.mod_eq_of_lt (Nat.lt_of_le_of_lt room small)
  bounded := by
    rw [length_append]
    exact room
  tail := by
    rw [length_append, length_singleton, Slots.push, holds.tail, Nat.mod_add_mod, Nat.add_assoc]
  cells offset found here := by
    show update slots.storage slots.tail (some item) _ = _
    obtain earlier | rfl : offset < items.length ∨ offset = items.length := by
      have bounded := (List.getElem?_eq_some_iff.mp here).1
      rw [length_append] at bounded
      exact Nat.lt_succ_iff_lt_or_eq.mp bounded
    · rw [List.getElem?_append_left earlier] at here
      rw [holds.tail]
      have apart : (slots.push capacity modulus item).head = slots.head := rfl
      rw [apart, update_of_ne (slot_ne earlier room)]
      exact holds.cells offset found here
    · rw [List.getElem?_concat_length] at here
      rw [holds.tail]
      have same : (slots.push capacity modulus item).head = slots.head := rfl
      rw [same, update_self]
      exact here

variable {rest : List Item} {item : Item}

theorem head (holds : Holds capacity slots (item :: rest))
    (inside : slots.head < capacity) : slots.storage slots.head = some item := by
  have first := holds.cells 0 item rfl
  rwa [Nat.add_zero, Nat.mod_eq_of_lt inside] at first

theorem drop (holds : Holds capacity slots (item :: rest))
    (small : capacity < modulus) : Holds capacity (slots.drop capacity modulus) rest where
  count := by
    have fits := holds.bounded
    rw [length_cons] at fits
    rw [Slots.drop, holds.count, length_cons]
    have wraps : rest.length + 1 + (modulus - 1) = rest.length + modulus := by omega
    rw [wraps, Nat.add_mod_right]
    exact Nat.mod_eq_of_lt (by omega)
  bounded := Nat.le_of_succ_le holds.bounded
  tail := by
    show slots.tail = ((slots.head + 1) % capacity + rest.length) % capacity
    rw [holds.tail, length_cons, Nat.mod_add_mod, Nat.add_assoc, Nat.add_comm 1]
  cells offset found here := by
    show slots.storage (((slots.head + 1) % capacity + offset) % capacity) = _
    rw [Nat.mod_add_mod, Nat.add_assoc, Nat.add_comm 1]
    exact holds.cells (offset + 1) found here

theorem drop_update (holds : Holds capacity slots (item :: rest))
    (small : capacity < modulus) (inside : slots.head < capacity) (left : Option Item) :
    Holds capacity { slots.drop capacity modulus with
        storage := update slots.storage slots.head left } rest where
  count := (holds.drop small).count
  bounded := (holds.drop small).bounded
  tail := (holds.drop small).tail
  cells offset found here := by
    have fits : offset + 1 < capacity :=
      (Nat.succ_lt_succ (List.getElem?_eq_some_iff.mp here).1).trans_le holds.bounded
    have apart : ((slots.head + 1) % capacity + offset) % capacity ≠ slots.head := by
      have different := @slot_ne capacity slots.head 0 (offset + 1) (Nat.succ_pos offset) fits
      rw [Nat.add_zero, Nat.mod_eq_of_lt inside] at different
      rw [Nat.mod_add_mod, Nat.add_assoc, Nat.add_comm 1]
      exact different.symm
    exact (update_of_ne apart _ _).trans ((holds.drop small).cells offset found here)

theorem map_cells (holds : Holds capacity slots items) :
    (range items.length).map (fun offset => slots.storage ((slots.head + offset) % capacity)) =
      items.map some := by
  refine ext_getElem? fun offset => ?_
  rw [getElem?_map, getElem?_map]
  cases found : items[offset]? with
  | none =>
    rw [getElem?_eq_none (by rw [length_range]; exact getElem?_eq_none_iff.mp found)]
    rfl
  | some item =>
    rw [List.getElem?_range (List.getElem?_eq_some_iff.mp found).1]
    exact congrArg some (holds.cells offset item found)

end Holds

end Ring
