/-
This file holds facts about lists that are related member by member: a related
member for each member, lists of related members, and traversals that may fail.
-/

import Mathlib

namespace Solar.Pointwise

open List

variable {α : Type} {left : List α} {β : Type} {relation : α → β → Prop}

theorem exists_of_mem {right : List β} (related : Forall₂ relation left right) {value : α}
    (member : value ∈ left) : ∃ other, (value, other) ∈ left.zip right ∧ relation value other := by
  induction related with
  | nil => exact absurd member not_mem_nil
  | cons first rest ih =>
    rcases mem_cons.mp member with rfl | later
    · exact ⟨_, mem_cons_self, first⟩
    · obtain ⟨other, inside, holds⟩ := ih later
      exact ⟨other, mem_cons_of_mem _ inside, holds⟩

theorem exists_iff :
    (∃ right, Forall₂ relation left right) ↔ ∀ value ∈ left, ∃ other, relation value other := by
  constructor
  · rintro ⟨right, related⟩ value member
    obtain ⟨other, -, holds⟩ := exists_of_mem related member
    exact ⟨other, holds⟩
  · intro each
    induction left with
    | nil => exact ⟨[], Forall₂.nil⟩
    | cons value rest ih =>
      obtain ⟨other, holds⟩ := each value mem_cons_self
      obtain ⟨others, related⟩ := ih fun next member =>
        each next (mem_cons_of_mem _ member)
      exact ⟨other :: others, Forall₂.cons holds related⟩

variable {first second : α → β → Prop}

theorem forall₂_and_iff {right : List β} :
    Forall₂ (fun value other => first value other ∧ second value other) left right ↔
      Forall₂ first left right ∧ Forall₂ second left right := by
  constructor
  · intro both
    exact ⟨both.imp fun _ _ holds => holds.1, both.imp fun _ _ holds => holds.2⟩
  · rintro ⟨one, two⟩
    obtain ⟨lengths, firstly⟩ := forall₂_iff_zip.mp one
    obtain ⟨-, secondly⟩ := forall₂_iff_zip.mp two
    exact forall₂_iff_zip.mpr ⟨lengths, fun inside => ⟨firstly inside, secondly inside⟩⟩

theorem exists_and_iff :
    (∃ right, Forall₂ first left right ∧ Forall₂ second left right) ↔
      ∀ value ∈ left, ∃ other, first value other ∧ second value other := by
  rw [← exists_iff]
  exact exists_congr fun right => forall₂_and_iff.symm

/-- A traversal succeeds if it does for each member. -/
theorem mapM_eq_ok_iff {ε : Type} {function : α → Except ε β} {inputs : List α} {outputs : List β} :
    inputs.mapM function = .ok outputs ↔
      Forall₂ (fun input output => function input = .ok output) inputs outputs := by
  induction inputs generalizing outputs with
  | nil =>
    rw [forall₂_nil_left_iff]
    exact ⟨fun same => (Except.ok.inj same).symm, fun same => same ▸ rfl⟩
  | cons input rest ih =>
    rw [mapM_cons, forall₂_cons_left_iff]
    cases first : function input with
    | error reason => simp [bind, Except.bind]
    | ok output =>
      cases later : rest.mapM function with
      | error reason =>
        have none : ∀ others, ¬Forall₂ (fun input output => function input = .ok output)
            rest others := by
          intro others related
          rw [← ih, later] at related
          exact absurd related (by simp)
        simp [bind, Except.bind, none]
      | ok others =>
        have only : ∀ right, Forall₂ (fun input output => function input = .ok output)
            rest right ↔ others = right := by
          intro right
          rw [← ih, later, Except.ok.injEq]
        simp [bind, Except.bind, pure, Except.pure, only, eq_comm]

end Solar.Pointwise
