/-
This file counts what is still owed to someone who is told numbered news in order.
The news are numbered without a gap; some have been told, up to a number, and the
numbers after it are owed, each once and in any order. Whoever always tells the
least number that is owed tells the next one, and when nothing is owed the last
number has been told.
-/

import Mathlib

namespace Owing

open List

variable {owed rest : List Nat} {told last number : Nat}

/-- The numbers from the one after `told` up to `last` are owed. -/
structure Owes (owed : List Nat) (told last : Nat) : Prop where
  le : told ≤ last
  perm : owed.Perm (range' (told + 1) (last - told))

namespace Owes

theorem refl (last : Nat) : Owes [] last last where
  le := Nat.le_refl last
  perm := by rw [Nat.sub_self]; exact .nil

theorem mem_iff (owes : Owes owed told last) : number ∈ owed ↔ told < number ∧ number ≤ last := by
  rw [owes.perm.mem_iff, mem_range'_1]
  omega

theorem of_perm (owes : Owes owed told last) {other : List Nat} (same : other.Perm owed) :
    Owes other told last :=
  ⟨owes.le, same.trans owes.perm⟩

theorem grow (owes : Owes owed told last) : Owes (owed ++ [last + 1]) told (last + 1) where
  le := Nat.le_succ_of_le owes.le
  perm := by
    have next : last + 1 - told = last - told + 1 := Nat.succ_sub owes.le
    have behind : told + 1 + 1 * (last - told) = last + 1 := by
      omega
    rw [next, range'_concat, behind]
    exact owes.perm.append_right [last + 1]

theorem next (owes : Owes (number :: rest) told last)
    (least : ∀ other ∈ rest, number ≤ other) : number = told + 1 ∧ Owes rest (told + 1) last := by
  have within := owes.mem_iff.mp mem_cons_self
  have first : told + 1 ∈ number :: rest := owes.mem_iff.mpr ⟨Nat.lt_succ_self told, by omega⟩
  have same : number = told + 1 := by
    obtain here | later := mem_cons.mp first
    · exact here.symm
    · have bound := least _ later
      omega
  subst same
  refine ⟨rfl, by omega, ?_⟩
  have split : last - told = last - (told + 1) + 1 := by omega
  have perm := owes.perm
  rw [split] at perm
  exact (perm_cons _).mp perm

theorem eq_of_nil (owes : Owes [] told last) : told = last := by
  by_contra different
  have missing : told + 1 ∈ ([] : List Nat) :=
    owes.mem_iff.mpr ⟨Nat.lt_succ_self told, by have bounded := owes.le; omega⟩
  exact not_mem_nil missing

end Owes

end Owing
