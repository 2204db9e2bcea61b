/-
This file is the theory of a fixed pool of slots searched from the front: find
the first slot a predicate accepts, overwrite one slot, count or list the slots
a predicate accepts. The number of slots is part of the type, so no operation can
lose one.
-/

import Mathlib

/-- A fixed number of slots. -/
@[ext]
structure Pool (Slot : Type) (size : Nat) where
  slots : List Slot
  length_slots : slots.length = size

namespace Pool

open List Option

variable {Slot : Type} {size : Nat}

/-- Every slot holds the same value. -/
def fill (size : Nat) (slot : Slot) : Pool Slot size :=
  ⟨replicate size slot, length_replicate⟩

section

variable (pool : Pool Slot size)

/-- The content of one slot. -/
def get? (index : Nat) : Option Slot := pool.slots[index]?

section

variable (predicate : Slot → Bool)

/-- The first slot the predicate accepts, with its index. -/
def find? : Option (Nat × Slot) :=
  (pool.slots.findIdx? predicate).bind fun index =>
    pool.slots[index]?.map fun slot => (index, slot)

/-- Overwrite one slot. -/
def put (index : Nat) (slot : Slot) : Pool Slot size :=
  ⟨pool.slots.set index slot, by rw [length_set, pool.length_slots]⟩

/-- Change every slot. -/
def map (change : Slot → Slot) : Pool Slot size :=
  ⟨pool.slots.map change, by rw [length_map, pool.length_slots]⟩

/-- The number of slots the predicate accepts. -/
def count : Nat := pool.slots.countP predicate

/-- The slots the predicate accepts, from the front. -/
def select : List Slot :=
  pool.slots.filter predicate

end

end

/-! ### Reading a pool -/

variable {pool : Pool Slot size} {predicate : Slot → Bool} {index : Nat} {slot old : Slot}

theorem get?_lt (found : pool.get? index = some slot) : index < size := by
  obtain ⟨bound, _⟩ := List.getElem?_eq_some_iff.mp found
  rwa [pool.length_slots] at bound

theorem mem_slots_iff :
    slot ∈ pool.slots ↔ ∃ index, pool.get? index = some slot := mem_iff_getElem?

@[simp] theorem get?_fill (bound : index < size) : (fill size slot).get? index = some slot := by
  show (replicate size slot)[index]? = some slot
  rw [getElem?_replicate, if_pos bound]

theorem eq_of_get?_fill {other : Slot} (found : (fill size slot).get? index = some other) :
    other = slot := by
  rw [get?_fill (get?_lt found)] at found
  exact (some.inj found).symm

theorem find?_eq_some_iff :
    pool.find? predicate = some (index, slot) ↔
      pool.get? index = some slot ∧ predicate slot = true ∧
        ∀ earlier < index, ∀ other, pool.get? earlier = some other → predicate other = false := by
  unfold find? get?
  constructor
  · intro found
    obtain ⟨place, placed, read⟩ := bind_eq_some_iff.mp found
    obtain ⟨content, stored, pair⟩ := map_eq_some_iff.mp read
    obtain ⟨⟩ := pair
    obtain ⟨bound, accepted, before⟩ := findIdx?_eq_some_iff_getElem.mp placed
    obtain ⟨_, here⟩ := List.getElem?_eq_some_iff.mp stored
    refine ⟨stored, here ▸ accepted, fun earlier smaller other otherStored => ?_⟩
    obtain ⟨_, there⟩ := List.getElem?_eq_some_iff.mp otherStored
    have rejected := before earlier smaller
    rw [there] at rejected
    exact Bool.eq_false_iff.mpr rejected
  · rintro ⟨stored, accepted, before⟩
    obtain ⟨bound, here⟩ := List.getElem?_eq_some_iff.mp stored
    have placed : pool.slots.findIdx? predicate = some index := by
      refine findIdx?_eq_some_iff_getElem.mpr ⟨bound, by rw [here]; exact accepted, ?_⟩
      intro earlier smaller
      have rejected := before earlier smaller _
        (getElem?_eq_getElem (Nat.lt_trans smaller bound))
      exact Bool.eq_false_iff.mp rejected
    rw [placed, bind_some, stored, map_some]

theorem find?_eq_none_iff :
    pool.find? predicate = none ↔
      ∀ index slot, pool.get? index = some slot → predicate slot = false := by
  constructor
  · intro missing index slot stored
    obtain ⟨bound, here⟩ := List.getElem?_eq_some_iff.mp stored
    cases placed : pool.slots.findIdx? predicate with
    | none =>
      have rejected := findIdx?_eq_none_iff.mp placed slot (here ▸ getElem_mem bound)
      exact rejected
    | some place =>
      obtain ⟨within, _⟩ := findIdx?_eq_some_iff_getElem.mp placed
      rw [find?, placed, bind_some, getElem?_eq_getElem within] at missing
      exact absurd missing (by simp)
  · intro rejected
    have placed : pool.slots.findIdx? predicate = none := by
      refine findIdx?_eq_none_iff.mpr fun slot member => ?_
      obtain ⟨index, stored⟩ := mem_slots_iff.mp member
      exact rejected index slot stored
    rw [find?, placed, bind_none]

/-! ### Overwriting one slot -/

theorem get?_put_self (slot : Slot) (bound : index < size) :
    (pool.put index slot).get? index = some slot := by
  show (pool.slots.set index slot)[index]? = some slot
  rw [getElem?_set_self (by rwa [pool.length_slots])]

variable {other : Nat}

theorem get?_put_of_ne (different : other ≠ index) :
    (pool.put index slot).get? other = pool.get? other := by
  exact getElem?_set_ne different.symm

theorem get?_put {found : Slot} (stored : (pool.put index slot).get? other = some found) :
    (other = index ∧ found = slot) ∨ (other ≠ index ∧ pool.get? other = some found) := by
  by_cases same : other = index
  · subst same
    have bound := get?_lt stored
    rw [get?_put_self slot bound] at stored
    exact .inl ⟨rfl, (some.inj stored).symm⟩
  · rw [get?_put_of_ne same] at stored
    exact .inr ⟨same, stored⟩

theorem find?_put_of_ne {new : Slot}
    (found : pool.find? predicate = some (index, slot)) (different : index ≠ other)
    (rejected : predicate new = false) :
    (pool.put other new).find? predicate = some (index, slot) := by
  obtain ⟨stored, accepted, before⟩ := find?_eq_some_iff.mp found
  refine find?_eq_some_iff.mpr ⟨(get?_put_of_ne different).trans stored, accepted, ?_⟩
  intro earlier smaller content held
  rcases get?_put held with ⟨-, rfl⟩ | ⟨-, kept⟩
  · exact rejected
  · exact before earlier smaller content kept

theorem find?_put_self {new : Slot} (bound : index < size) (accepted : predicate new = true)
    (before : ∀ earlier < index, ∀ other, pool.get? earlier = some other →
      predicate other = false) : (pool.put index new).find? predicate = some (index, new) := by
  refine find?_eq_some_iff.mpr ⟨get?_put_self new bound, accepted, ?_⟩
  intro earlier smaller content held
  rw [get?_put_of_ne (Nat.ne_of_lt smaller)] at held
  exact before earlier smaller content held

theorem count_put (slot : Slot) (predicate : Slot → Bool) (stored : pool.get? index = some old) :
    (pool.put index slot).count predicate + (if predicate old = true then 1 else 0) =
      pool.count predicate + (if predicate slot = true then 1 else 0) := by
  obtain ⟨bound, here⟩ := List.getElem?_eq_some_iff.mp stored
  have positive : predicate old = true → 0 < pool.slots.countP predicate := by
    intro accepted
    exact countP_pos_iff.mpr ⟨old, here ▸ getElem_mem bound, accepted⟩
  show (pool.slots.set index slot).countP predicate + _ = pool.slots.countP predicate + _
  rw [countP_set bound, here]
  split
  · rename_i accepted
    have := positive accepted
    omega
  · omega

theorem count_add_count_not (pool : Pool Slot size) (predicate : Slot → Bool) :
    pool.count predicate + pool.count (fun slot => !predicate slot) = size := by
  have split := length_eq_countP_add_countP (p := predicate) (l := pool.slots)
  have negated : pool.slots.countP (fun slot => !predicate slot) =
      pool.slots.countP (fun slot => decide ¬predicate slot = true) := by
    refine countP_congr fun slot _ => ?_
    simp
  unfold count
  rw [negated, ← split, pool.length_slots]

theorem count_eq_zero_iff :
    pool.count predicate = 0 ↔
      ∀ index slot, pool.get? index = some slot → predicate slot = false := by
  unfold count
  rw [countP_eq_zero]
  constructor
  · intro rejected index slot stored
    exact Bool.eq_false_iff.mpr (rejected slot (mem_slots_iff.mpr ⟨index, stored⟩))
  · intro rejected slot member
    obtain ⟨index, stored⟩ := mem_slots_iff.mp member
    exact Bool.eq_false_iff.mp (rejected index slot stored)

theorem mem_select_iff :
    slot ∈ pool.select predicate ↔
      predicate slot = true ∧ ∃ index, pool.get? index = some slot := by
  rw [select, mem_filter, mem_slots_iff, and_comm]

section

variable (stored : pool.get? index = some old)

include stored

theorem exists_split :
    ∃ before after, pool.slots = before ++ old :: after ∧ before.length = index ∧
      ∀ slot, (pool.put index slot).slots = before ++ slot :: after := by
  obtain ⟨bound, here⟩ := List.getElem?_eq_some_iff.mp stored
  refine ⟨pool.slots.take index, pool.slots.drop (index + 1), ?_, ?_, fun slot => ?_⟩
  · rw [← here, getElem_cons_drop, take_append_drop]
  · exact length_take_of_le (Nat.le_of_lt bound)
  · exact set_eq_take_append_cons_drop.trans (if_pos bound)

theorem select_put_of_not (rejected : predicate old = false) (replaced : predicate slot = false) :
    (pool.put index slot).select predicate = pool.select predicate := by
  obtain ⟨before, after, split, _, puts⟩ := exists_split stored
  rw [select, select, puts, split, filter_append, filter_append,
    filter_cons_of_neg (Bool.eq_false_iff.mp rejected),
    filter_cons_of_neg (Bool.eq_false_iff.mp replaced)]

theorem select_put_last (rejected : predicate old = false) (accepted : predicate slot = true)
    (last : ∀ later ∈ pool.slots.drop (index + 1), predicate later = false) :
    (pool.put index slot).select predicate = pool.select predicate ++ [slot] := by
  obtain ⟨before, after, split, length, puts⟩ := exists_split stored
  have rest : pool.slots.drop (index + 1) = after := by
    rw [split, ← length]
    simp
  have none : after.filter predicate = [] :=
    filter_eq_nil_iff.mpr fun later member =>
      Bool.eq_false_iff.mp (last later (rest ▸ member))
  rw [select, select, puts, split, filter_append, filter_append,
    filter_cons_of_neg (Bool.eq_false_iff.mp rejected),
    filter_cons_of_pos accepted, none, append_nil]

theorem select_put_first (accepted : predicate old = true) (replaced : predicate slot = false)
    (first : ∀ earlier < index, ∀ other, pool.get? earlier = some other → predicate other = false) :
    pool.select predicate = old :: (pool.put index slot).select predicate := by
  obtain ⟨before, after, split, length, puts⟩ := exists_split stored
  have none : before.filter predicate = [] := by
    refine filter_eq_nil_iff.mpr fun other member => ?_
    obtain ⟨place, bound, here⟩ := mem_iff_getElem.mp member
    refine Bool.eq_false_iff.mp (first place (length ▸ bound) other ?_)
    rw [get?, split, getElem?_append_left bound, getElem?_eq_getElem bound, here]
  rw [select, select, puts, split, filter_append, filter_append,
    filter_cons_of_pos accepted,
    filter_cons_of_neg (Bool.eq_false_iff.mp replaced), none, nil_append,
    nil_append]

theorem select_put_erase (accepted : predicate old = true) (replaced : predicate slot = false) :
    ∃ front back, pool.select predicate = front ++ old :: back ∧
      (pool.put index slot).select predicate = front ++ back := by
  obtain ⟨before, after, split, _, puts⟩ := exists_split stored
  refine ⟨before.filter predicate, after.filter predicate, ?_, ?_⟩
  · rw [select, split, filter_append, filter_cons_of_pos accepted]
  · rw [select, puts, filter_append,
      filter_cons_of_neg (Bool.eq_false_iff.mp replaced)]

end

end Pool
