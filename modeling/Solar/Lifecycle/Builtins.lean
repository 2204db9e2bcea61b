/-
This file models how a blueprint selects its built-in facilities. Passes over the
candidates extend the selection until one pass changes nothing; the selection is
then the least set of candidates that has what is asked for and what its members
require, however the requirements run and in whatever order the candidates stand.
-/

import Mathlib

namespace Solar.Lifecycle

open List

/-- What a blueprint asks of its built-in candidates. `explicit` is in its own section,
`alwaysPresent`, `demanded` and `requirements` are the traits of the candidates. -/
structure Builtins (Builtin : Type) where
  explicit : List Builtin
  alwaysPresent : Builtin → Bool
  demanded : Builtin → Bool
  requirements : Builtin → List Builtin

namespace Builtins

variable {Builtin : Type} [DecidableEq Builtin]

/-- `builtin_requested_v`. -/
def requested (builtins : Builtins Builtin) (selected : List Builtin) (candidate : Builtin) :
    Bool :=
  builtins.explicit.contains candidate || builtins.alwaysPresent candidate ||
    builtins.demanded candidate ||
    selected.any fun current => (builtins.requirements current).contains candidate

/-- `SelectBuiltinPass`. -/
def selectPass (builtins : Builtins Builtin) : List Builtin → List Builtin → List Builtin
  | [], selected => selected
  | head :: tail, selected =>
      builtins.selectPass tail
        (if builtins.requested selected head && !selected.contains head then selected ++ [head]
          else selected)

/-- `CloseBuiltins`, which ends with a diagnostic when the budget is spent. -/
def close (builtins : Builtins Builtin) (candidates : List Builtin) :
    Nat → List Builtin → Option (List Builtin)
  | remaining, selected =>
      if builtins.selectPass candidates selected = selected then
        some (builtins.selectPass candidates selected)
      else
        match remaining with
        | 0 => none
        | remaining + 1 =>
            builtins.close candidates remaining (builtins.selectPass candidates selected)

/-- `SelectedBuiltins`. -/
def selected? (builtins : Builtins Builtin) (candidates : List Builtin) : Option (List Builtin) :=
  builtins.close candidates (candidates.length + 1) []

/-- `OrderSelectedBuiltins`. -/
def orderSelected (candidates selected : List Builtin) : List Builtin :=
  candidates.filter (selected.contains ·)

/-- The set has the candidates that are asked for, and those that its members require. -/
def Closed (builtins : Builtins Builtin) (candidates : List Builtin) (set : Set Builtin) : Prop :=
  ∀ candidate ∈ candidates,
    candidate ∈ builtins.explicit ∨ builtins.alwaysPresent candidate = true ∨
      builtins.demanded candidate = true ∨
      (∃ current ∈ set, candidate ∈ builtins.requirements current) → candidate ∈ set

variable {builtins : Builtins Builtin} {candidates selected : List Builtin} {set : Set Builtin}

theorem requested_iff {candidate : Builtin} :
    builtins.requested selected candidate = true ↔
      candidate ∈ builtins.explicit ∨ builtins.alwaysPresent candidate = true ∨
        builtins.demanded candidate = true ∨
        ∃ current ∈ selected, candidate ∈ builtins.requirements current := by
  simp [requested, or_assoc]

theorem prefix_selectPass : selected <+: builtins.selectPass candidates selected := by
  induction candidates generalizing selected with
  | nil => exact prefix_rfl
  | cons head tail ih =>
    rw [selectPass]
    split
    · exact (prefix_append selected [head]).trans ih
    · exact ih

theorem nodup_selectPass (distinct : selected.Nodup) (listed : ∀ item ∈ selected, item ∈ set)
    (all : ∀ candidate ∈ candidates, candidate ∈ set) :
    (builtins.selectPass candidates selected).Nodup ∧
      ∀ item ∈ builtins.selectPass candidates selected, item ∈ set := by
  induction candidates generalizing selected with
  | nil => exact ⟨distinct, listed⟩
  | cons head tail ih =>
    have later := fun candidate member => all candidate (mem_cons_of_mem head member)
    rw [selectPass]
    split
    · rename_i added
      have fresh : head ∉ selected := by simpa using (Bool.and_eq_true_iff.mp added).2
      refine ih ?_ ?_ later
      · rw [← concat_eq_append]
        exact distinct.concat fresh
      · rw [forall_mem_append, forall_mem_singleton]
        exact ⟨listed, all head mem_cons_self⟩
    · exact ih distinct listed later

theorem selectPass_subset (closed : builtins.Closed candidates set)
    (within : ∀ item ∈ selected, item ∈ set) :
    ∀ item ∈ builtins.selectPass candidates selected, item ∈ set := by
  induction candidates generalizing selected with
  | nil => exact within
  | cons head tail ih =>
    have later : builtins.Closed tail set :=
      fun candidate member => closed candidate (mem_cons_of_mem head member)
    rw [selectPass]
    split
    · rename_i added
      have asked := requested_iff.mp (Bool.and_eq_true_iff.mp added).1
      have member : head ∈ set := by
        refine closed head mem_cons_self ?_
        refine Or.imp_right (Or.imp_right (Or.imp_right ?_)) asked
        exact fun ⟨current, chosen, requires⟩ => ⟨current, within current chosen, requires⟩
      refine ih later ?_
      rw [forall_mem_append, forall_mem_singleton]
      exact ⟨within, member⟩
    · exact ih later within

theorem closed_of_selectPass_eq (unchanged : builtins.selectPass candidates selected = selected) :
    builtins.Closed candidates {item | item ∈ selected} := by
  induction candidates with
  | nil => exact fun _ member => absurd member not_mem_nil
  | cons head tail ih =>
    rw [selectPass] at unchanged
    split at unchanged
    · have longer : selected ++ [head] <+: builtins.selectPass tail (selected ++ [head]) :=
        prefix_selectPass
      have length := longer.length_le
      rw [unchanged, length_append, length_singleton] at length
      omega
    · rename_i passed
      refine forall_mem_cons.mpr ⟨fun asked => ?_, ih unchanged⟩
      have chosen : builtins.requested selected head = true := requested_iff.mpr asked
      simpa [chosen] using passed

/-- With enough budget the passes end, in the least closed set that has what was selected. -/
theorem close_spec {remaining : Nat} (distinct : selected.Nodup)
    (listed : ∀ item ∈ selected, item ∈ candidates)
    (enough : candidates.length < selected.length + remaining) :
    ∃ result, builtins.close candidates remaining selected = some result ∧ result.Nodup ∧
      (∀ item ∈ result, item ∈ candidates) ∧ builtins.Closed candidates {item | item ∈ result} ∧
      ∀ set : Set Builtin, builtins.Closed candidates set → (∀ item ∈ selected, item ∈ set) →
        ∀ item ∈ result, item ∈ set := by
  induction remaining generalizing selected with
  | zero => exact absurd (distinct.subperm listed).length_le enough.not_ge
  | succ remaining ih =>
    have added : selected <+: builtins.selectPass candidates selected := prefix_selectPass
    obtain ⟨once, members⟩ : (builtins.selectPass candidates selected).Nodup ∧
        ∀ item ∈ builtins.selectPass candidates selected, item ∈ candidates :=
      @nodup_selectPass _ _ builtins candidates selected {item | item ∈ candidates} distinct listed
        fun _ member => member
    unfold close
    split
    · rename_i unchanged
      rw [unchanged]
      exact ⟨selected, rfl, distinct, listed, closed_of_selectPass_eq unchanged,
        fun _ _ within => within⟩
    · rename_i changed
      have grown : selected.length < (builtins.selectPass candidates selected).length :=
        lt_of_le_of_ne added.length_le fun same => changed (added.eq_of_length same).symm
      obtain ⟨result, ends, unique, inside, closed, least⟩ :=
        ih once members (by omega)
      exact ⟨result, ends, unique, inside, closed, fun set closedSet within =>
        least set closedSet (selectPass_subset closedSet within)⟩

theorem selected?_spec (builtins : Builtins Builtin) (candidates : List Builtin) :
    ∃ selected, builtins.selected? candidates = some selected ∧ selected.Nodup ∧
      IsLeast {set | set ⊆ {item | item ∈ candidates} ∧ builtins.Closed candidates set}
        {item | item ∈ selected} := by
  have nothing : ∀ set : Set Builtin, ∀ item ∈ ([] : List Builtin), item ∈ set :=
    fun _ _ member => absurd member not_mem_nil
  have enough : candidates.length < ([] : List Builtin).length + (candidates.length + 1) := by simp
  obtain ⟨selected, ends, once, inside, closed, least⟩ :=
    @close_spec _ _ builtins candidates [] _ .nil (nothing {item | item ∈ candidates}) enough
  exact ⟨selected, ends, once, ⟨inside, closed⟩, fun set ⟨_, closedSet⟩ =>
    least set closedSet (nothing set)⟩

theorem builtins_are_closed (builtins : Builtins Builtin) (candidates : List Builtin) :
    ∃ selected, builtins.selected? candidates = some selected ∧ selected.Nodup ∧
      IsLeast {set | set ⊆ {item | item ∈ candidates} ∧ builtins.Closed candidates set}
        {item | item ∈ selected} ∧
      ∀ scanned, (∀ item, item ∈ scanned ↔ item ∈ candidates) →
        ∃ other, builtins.selected? scanned = some other ∧
          orderSelected candidates other = orderSelected candidates selected := by
  obtain ⟨selected, ends, once, least⟩ := builtins.selected?_spec candidates
  refine ⟨selected, ends, once, least, fun scanned same => ?_⟩
  obtain ⟨other, otherEnds, -, otherLeast⟩ := builtins.selected?_spec scanned
  simp only [same, Closed] at otherLeast
  have equal : {item | item ∈ other} = {item | item ∈ selected} := otherLeast.unique least
  refine ⟨other, otherEnds, filter_congr fun item _ => ?_⟩
  simpa using Set.ext_iff.mp equal item

end Builtins

end Solar.Lifecycle
