/-
This file is the theory of items on shelves. There is a shelf for each of a list of
places; what the shelves hold together changes with a shelf as that shelf does. An
item that moves from one shelf, or list, to another is there exactly once.
-/

import Mathlib

namespace Shelves

open List

variable {Place Item : Type} {places : List Place} {shelf next : Place → List Item} {place : Place}

/-- What the shelves hold. -/
def contents (places : List Place) (shelf : Place → List Item) : List Item := places.flatMap shelf

theorem contents_congr (same : ∀ place ∈ places, next place = shelf place) :
    contents places next = contents places shelf :=
  flatMap_congr same

/-- One shelf changes. -/
theorem perm_of_change (distinct : places.Nodup) (inside : place ∈ places)
    (others : ∀ other ∈ places, other ≠ place → next other = shelf other) :
    (contents places next ++ shelf place).Perm (contents places shelf ++ next place) := by
  induction places with
  | nil => cases inside
  | cons first rest ih =>
    obtain ⟨outside, distinct⟩ := nodup_cons.mp distinct
    simp only [contents, flatMap_cons] at ih ⊢
    by_cases here : first = place
    · subst here
      have same : rest.flatMap next = rest.flatMap shelf :=
        contents_congr fun other member => others other (mem_cons_of_mem _ member)
          fun equal => outside (equal ▸ member)
      rw [same, append_assoc]
      exact perm_append_comm.trans ((perm_append_comm.append_right _).trans
        (append_assoc _ _ _ ▸ Perm.refl _))
    · have later : place ∈ rest := (mem_cons.mp inside).resolve_left fun equal =>
        here equal.symm
      rw [others first mem_cons_self here, append_assoc, append_assoc]
      exact (ih distinct later fun other member =>
        others other (mem_cons_of_mem _ member)).append_left _

theorem perm_of_put (distinct : places.Nodup) (inside : place ∈ places) {item : Item}
    (put : next place = shelf place ++ [item])
    (others : ∀ other ∈ places, other ≠ place → next other = shelf other) :
    (contents places next).Perm (contents places shelf ++ [item]) := by
  have change := perm_of_change distinct inside others
  rw [put, ← append_assoc] at change
  refine (perm_append_right_iff (shelf place)).mp (change.trans ?_)
  rw [append_assoc, append_assoc]
  exact perm_append_comm.append_left _

theorem perm_of_take (distinct : places.Nodup) (inside : place ∈ places) {item : Item}
    (taken : shelf place = item :: next place)
    (others : ∀ other ∈ places, other ≠ place → next other = shelf other) :
    (contents places shelf).Perm (item :: contents places next) := by
  have change := perm_of_change distinct inside others
  rw [taken] at change
  refine (perm_append_right_iff (next place)).mp (change.symm.trans ?_)
  exact perm_middle

end Shelves
