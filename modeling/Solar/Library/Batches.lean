/-
This file is the theory of items that are handled in batches. Handling an item may fail;
a batch ends with the first item that fails, and the results of the items before it are
lost with those behind it. Handled one by one, the same items lose only the one that
fails, and `batches_iff` says for which batches this makes no difference.
-/

import Mathlib

namespace Batches

open List

variable {State Item Failure Result : Type}

/-- What handling items does to a state: the state, and a result or a failure. -/
abbrev Handler (State Item Failure Result : Type) : Type :=
  State → Item → State × Except Failure (Option Result)

/-- The results of an item. -/
def results : Except Failure (Option Result) → List Result
  | .ok result => result.toList
  | .error _ => []

variable (handle : Handler State Item Failure Result)

/-- The items are handled one by one. -/
def each : State → List Item → State × List Result
  | state, [] => (state, [])
  | state, item :: rest =>
      let handled := handle state item
      let later := each handled.1 rest
      (later.1, results handled.2 ++ later.2)

/-- The items are handled until one fails. -/
def batch : State → List Item → State × Except Failure (List Result)
  | state, [] => (state, .ok [])
  | state, item :: rest =>
      match handle state item with
      | (next, .error failure) => (next, .error failure)
      | (next, .ok result) =>
          match batch next rest with
          | (final, .error failure) => (final, .error failure)
          | (final, .ok later) => (final, .ok (result.toList ++ later))

/-- What the caller of a batch has. -/
def caught (outcome : State × Except Failure (List Result)) : State × List Result :=
  (outcome.1, outcome.2.toOption.getD [])

/-- Batches are handled one after another. -/
def batches : State → List (List Item) → State × List Result
  | state, [] => (state, [])
  | state, first :: rest =>
      let handled := caught (batch handle state first)
      let later := batches handled.1 rest
      (later.1, handled.2 ++ later.2)

/-- No item of the list fails. -/
def Sound : State → List Item → Prop
  | _, [] => True
  | state, item :: rest =>
      match handle state item with
      | (_, .error _) => False
      | (next, .ok _) => Sound next rest

/-- A batch whose failure costs nothing: before the item that fails no other has a result, and those
behind it have neither results nor, together, an effect. -/
def Spared : State → List Item → Prop
  | _, [] => True
  | state, item :: rest =>
      match handle state item with
      | (next, .error _) => each handle next rest = (next, [])
      | (next, .ok none) => Spared next rest
      | (next, .ok (some _)) => Sound handle next rest

/-- Each batch is spared, given the states that the items before it lead to. -/
def AllSpared : State → List (List Item) → Prop
  | _, [] => True
  | state, first :: rest =>
      Spared handle state first ∧ AllSpared (each handle state first).1 rest

theorem each_append (state : State) (first second : List Item) :
    each handle state (first ++ second) = ((each handle (each handle state first).1 second).1,
        (each handle state first).2 ++ (each handle (each handle state first).1 second).2) := by
  induction first generalizing state with
  | nil => rfl
  | cons item rest ih => rw [cons_append, each, each, ih, append_assoc]

variable {handle} {state : State} {items : List Item}

theorem caught_batch_of_sound (sound : Sound handle state items) :
    caught (batch handle state items) = each handle state items ∧
      ∃ final results, batch handle state items = (final, .ok results) := by
  induction items generalizing state with
  | nil => exact ⟨rfl, _, _, rfl⟩
  | cons item rest ih =>
    unfold Sound at sound
    unfold batch each
    rcases handled : handle state item with ⟨next, failure | result⟩
    · rw [handled] at sound
      exact sound.elim
    · rw [handled] at sound
      obtain ⟨same, final, later, ok⟩ := ih sound
      dsimp only
      rw [ok] at same ⊢
      rw [← same]
      exact ⟨rfl, final, _, rfl⟩

theorem batch_of_not_sound (failing : ¬Sound handle state items) :
    ∃ final failure, batch handle state items = (final, .error failure) := by
  induction items generalizing state with
  | nil => exact absurd trivial failing
  | cons item rest ih =>
    unfold Sound at failing
    unfold batch
    rcases handled : handle state item with ⟨next, failure | result⟩
    · exact ⟨next, failure, rfl⟩
    · rw [handled] at failing
      obtain ⟨final, failure, later⟩ := ih failing
      exact ⟨final, failure, by dsimp only; rw [later]⟩

/-- A batch does what its items do one by one exactly if it is spared. -/
theorem caught_batch_iff :
    caught (batch handle state items) = each handle state items ↔ Spared handle state items := by
  induction items generalizing state with
  | nil => exact ⟨fun _ => trivial, fun _ => rfl⟩
  | cons item rest ih =>
    unfold batch each Spared
    rcases handled : handle state item with ⟨next, failure | none | result⟩
    · exact eq_comm
    · dsimp only
      rw [← ih]
      rcases later : batch handle next rest with ⟨final, failure | results⟩ <;> exact Iff.rfl
    · dsimp only
      constructor
      · intro same
        by_contra failing
        obtain ⟨final, failure, later⟩ := batch_of_not_sound failing
        rw [later] at same
        cases congrArg Prod.snd same
      · intro sound
        obtain ⟨same, final, results, ok⟩ := caught_batch_of_sound sound
        rw [ok] at same ⊢
        rw [← same]
        rfl

/-- The exact condition: up to each of the batches they have done what the items do one by one if
and only if each batch is spared. -/
theorem batches_iff {list : List (List Item)} :
    (∀ first rest, list = first ++ rest →
        batches handle state first = each handle state first.flatten) ↔
      AllSpared handle state list := by
  induction list generalizing state with
  | nil =>
    refine ⟨fun _ => trivial, fun _ first rest same => ?_⟩
    obtain ⟨rfl, -⟩ := append_eq_nil_iff.mp same.symm
    rfl
  | cons items later ih =>
    unfold AllSpared
    rw [← ih, ← caught_batch_iff]
    have split (first : List (List Item)) (same : caught (batch handle state items) =
        each handle state items) :
        batches handle state (items :: first) = each handle state (items :: first).flatten ↔
          batches handle (each handle state items).1 first =
            each handle (each handle state items).1 first.flatten := by
      rw [batches, flatten_cons, each_append, same]
      constructor
      · intro equal
        obtain ⟨states, lists⟩ := Prod.ext_iff.mp equal
        exact Prod.ext states (append_cancel_left lists)
      · intro equal
        rw [equal]
    constructor
    · intro all
      have one := all [items] later rfl
      rw [flatten_singleton] at one
      have same : caught (batch handle state items) = each handle state items := by
        rw [← one]
        exact Prod.ext rfl (append_nil _).symm
      exact ⟨same, fun first rest parts =>
        (split first same).mp (all (items :: first) rest (congrArg (items :: ·) parts))⟩
    · rintro ⟨same, all⟩ first rest parts
      cases first with
      | nil => rfl
      | cons head tail =>
        obtain ⟨rfl, others⟩ := cons.inj parts
        exact (split tail same).mpr (all tail rest others)

theorem allSpared_of_short {list : List (List Item)} (short : ∀ items ∈ list, items.length ≤ 1) :
    AllSpared handle state list := by
  induction list generalizing state with
  | nil => trivial
  | cons items later ih =>
    refine ⟨?_, ih fun other member => short other (mem_cons_of_mem _ member)⟩
    match items, short items mem_cons_self with
    | [], _ => trivial
    | [item], _ =>
      unfold Spared
      rcases handle state item with ⟨next, failure | none | result⟩
      · rfl
      · trivial
      · trivial

end Batches
