/-
This file is the theory of places that are lent. Every loan has a number of its own, a place
has the number of the loan it is lent under, and a loan that ends leaves its place and is
written down. What is written down and what the places have are together the numbers given
out so far, each once: a loan has ended or has a place, and never both.
-/

import Solar.Library.Shelves

namespace Lending

open List Option

variable {Place : Type} {places : List Place} {tenant next : Place → Option Nat} {place : Place}
variable {granted : Nat} {ended : List Nat}

/-- The numbers the places have. -/
def held (places : List Place) (tenant : Place → Option Nat) : List Nat :=
  Shelves.contents places fun place => (tenant place).toList

/-- The loans that were granted are the ended ones and those that have a place. -/
def Lent (places : List Place) (tenant : Place → Option Nat) (granted : Nat) (ended : List Nat) :
    Prop :=
  (ended ++ held places tenant).Perm (range granted)

namespace Lent

theorem initial (vacant : ∀ place ∈ places, tenant place = none) : Lent places tenant 0 [] := by
  have nothing : held places tenant = [] := by
    refine flatMap_eq_nil_iff.mpr fun place inside => ?_
    rw [vacant place inside, toList_none]
  rw [Lent, nothing]
  exact Perm.refl _

section

variable (lent : Lent places tenant granted ended)

include lent

theorem grant (distinct : places.Nodup) (inside : place ∈ places) (vacant : tenant place = none)
    (taken : next place = some granted)
    (others : ∀ other ∈ places, other ≠ place → next other = tenant other) :
    Lent places next (granted + 1) ended := by
  have put : (held places next).Perm (held places tenant ++ [granted]) := by
    refine Shelves.perm_of_put distinct inside ?_ fun other member apart =>
      congrArg toList (others other member apart)
    rw [taken, vacant]
    rfl
  rw [Lent, range_succ]
  refine (put.append_left ended).trans ?_
  rw [← append_assoc]
  exact lent.append_right [granted]

theorem finish (distinct : places.Nodup) {number : Nat} (inside : place ∈ places)
    (occupied : tenant place = some number) (left : next place = none)
    (others : ∀ other ∈ places, other ≠ place → next other = tenant other) :
    Lent places next granted (ended ++ [number]) := by
  have take : (held places tenant).Perm (number :: held places next) := by
    refine Shelves.perm_of_take distinct inside ?_ fun other member apart =>
      congrArg toList (others other member apart)
    rw [occupied, left]
    rfl
  rw [Lent, append_assoc]
  exact (take.symm.append_left ended).trans lent

theorem count {number : Nat} (given : number < granted) :
    ended.count number + (held places tenant).count number = 1 := by
  rw [← count_append, lent.count_eq number]
  exact count_eq_one_of_mem nodup_range (mem_range.mpr given)

theorem total : granted = ended.length + (held places tenant).length := by
  rw [← length_append, lent.length_eq, length_range]

end

end Lent

end Lending
