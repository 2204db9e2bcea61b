/-
This file is the theory of streams of elements in which one element, the mark,
closes what stands before it. A scanner keeps the elements that are not closed
yet; it has room for a limited number of them, and drops those of a longer body
up to the next mark.

The bodies of a stream do not depend on the scanner. Over a whole stream a new
scanner closes exactly these bodies, in order, and gives up those beyond its
limit; a mark always leaves it as new.
-/

import Mathlib

namespace Delimited

open List

variable {α : Type} [DecidableEq α]

/-- The elements behind the last mark, unless they are dropped. -/
structure Scanner (α : Type) where
  pending : List α := []
  dropping : Bool := false

/-- One element of the stream. A mark closes a body, or one that was given up. -/
def Scanner.step (limit : Nat) (mark : α) (scanner : Scanner α) (element : α) :
    Scanner α × Option (Option (List α)) :=
  if element = mark then
    if scanner.dropping then ({}, some none)
    else if scanner.pending = [] then (scanner, none)
    else ({}, some (some scanner.pending))
  else if scanner.dropping then (scanner, none)
  else if scanner.pending.length < limit then
    ({ pending := scanner.pending ++ [element] }, none)
  else ({ dropping := true }, none)

/-- The scanner after a stream, and what was closed. -/
def Scanner.scan (limit : Nat) (mark : α) (scanner : Scanner α) :
    List α → Scanner α × List (Option (List α))
  | [] => (scanner, [])
  | element :: rest =>
      let stepped := scanner.step limit mark element
      let later := stepped.1.scan limit mark rest
      (later.1, stepped.2.toList ++ later.2)

/-- The bodies of a stream, behind the elements of one that is open. Empty bodies do not count. -/
def bodiesFrom (mark : α) (run : List α) : List α → List (List α)
  | [] => []
  | element :: rest =>
      if element = mark then
        if run = [] then bodiesFrom mark [] rest else run :: bodiesFrom mark [] rest
      else bodiesFrom mark (run ++ [element]) rest

def bodies (mark : α) (stream : List α) : List (List α) := bodiesFrom mark [] stream

/-- A body beyond the limit is given up. -/
def within (limit : Nat) (body : List α) : Option (List α) :=
  if limit < body.length then none else some body

namespace Scanner

variable {limit : Nat} {mark : α} {scanner : Scanner α}

theorem scan_append (scanner : Scanner α) (first second : List α) :
    scanner.scan limit mark (first ++ second) =
      (((scanner.scan limit mark first).1.scan limit mark second).1,
        (scanner.scan limit mark first).2 ++
          ((scanner.scan limit mark first).1.scan limit mark second).2) := by
  induction first generalizing scanner with
  | nil => rfl
  | cons element rest ih => rw [cons_append, scan, scan, ih, append_assoc]

/-- The scanner has what is open of a stream: its elements, if there is room for them. -/
def Holds (limit : Nat) (scanner : Scanner α) (run : List α) : Prop :=
  (run.length ≤ limit ∧ scanner = { pending := run }) ∨
    (limit < run.length ∧ scanner = { dropping := true })

omit [DecidableEq α] in
theorem holds_nil (limit : Nat) : Holds limit ({} : Scanner α) [] :=
  .inl ⟨Nat.zero_le _, rfl⟩

variable {run : List α}

section

variable (holds : scanner.Holds limit run)

include holds

theorem Holds.step_mark :
    scanner.step limit mark mark = ({}, if run = [] then none else some (within limit run)) := by
  rw [step, if_pos rfl]
  rcases holds with ⟨short, rfl⟩ | ⟨long, rfl⟩
  · rw [if_neg nofun]
    by_cases nothing : run = []
    · rw [if_pos nothing, if_pos nothing, nothing]
    · rw [if_neg nothing, if_neg nothing, within, if_neg (Nat.not_lt.mpr short)]
  · have something : run ≠ [] := by
      rintro rfl
      exact absurd long (Nat.not_lt_zero _)
    rw [if_pos rfl, if_neg something, within, if_pos long]

theorem Holds.step_element {element : α} (other : element ≠ mark) :
    (scanner.step limit mark element).2 = none ∧
      (scanner.step limit mark element).1.Holds limit (run ++ [element]) := by
  have length : (run ++ [element]).length = run.length + 1 := by
    rw [length_append, length_singleton]
  rw [step, if_neg other]
  rcases holds with ⟨short, rfl⟩ | ⟨long, rfl⟩
  · by_cases room : run.length < limit
    · rw [if_pos room]
      exact ⟨rfl, .inl ⟨by omega, rfl⟩⟩
    · rw [if_neg room]
      exact ⟨rfl, .inr ⟨by omega, rfl⟩⟩
  · exact ⟨rfl, .inr ⟨by omega, rfl⟩⟩

theorem Holds.scan_snd (stream : List α) :
    (scanner.scan limit mark stream).2 = (bodiesFrom mark run stream).map (within limit) := by
  induction stream generalizing scanner run with
  | nil => rfl
  | cons element rest ih =>
    rw [scan, bodiesFrom]
    by_cases same : element = mark
    · rw [same, holds.step_mark, if_pos rfl]
      rw [ih (holds_nil limit)]
      by_cases nothing : run = []
      · rw [if_pos nothing, if_pos nothing]
        rfl
      · rw [if_neg nothing, if_neg nothing]
        rfl
    · rcases holds.step_element same with ⟨silent, following⟩
      rw [if_neg same]
      rw [silent, ih following]
      rfl

end

theorem step_mark (limit : Nat) (mark : α) (scanner : Scanner α) :
    (scanner.step limit mark mark).1 = {} := by
  rcases scanner with ⟨pending, dropping⟩
  rw [step, if_pos rfl]
  cases dropping with
  | true => rfl
  | false =>
    rw [if_neg nofun]
    split
    · rename_i nothing
      exact congrArg (Scanner.mk · false) nothing
    · rfl

theorem scan_mark (limit : Nat) (mark : α) (scanner : Scanner α) (stream : List α) :
    (scanner.scan limit mark (stream ++ [mark])).1 = {} := by
  rw [scan_append]
  exact step_mark limit mark _

omit [DecidableEq α] in
theorem Holds.eq_empty_iff (holds : scanner.Holds limit run) : scanner = {} ↔ run = [] := by
  rcases holds with ⟨short, rfl⟩ | ⟨long, rfl⟩
  · exact ⟨congrArg Scanner.pending, congrArg (Scanner.mk · false)⟩
  · refine ⟨nofun, ?_⟩
    rintro rfl
    exact absurd long (Nat.not_lt_zero _)

theorem exists_holds (limit : Nat) (mark : α) (stream : List α) :
    ∃ run, (({} : Scanner α).scan limit mark stream).1.Holds limit run := by
  induction stream using reverseRecOn with
  | nil => exact ⟨[], holds_nil limit⟩
  | append_singleton stream element ih =>
    rcases ih with ⟨run, holds⟩
    by_cases same : element = mark
    · subst same
      rw [scan_mark]
      exact ⟨[], holds_nil limit⟩
    · rw [scan_append]
      exact ⟨run ++ [element], (holds.step_element same).2⟩

theorem scan_eq_empty_iff (limit : Nat) (mark : α) (stream : List α) :
    (({} : Scanner α).scan limit mark stream).1 = {} ↔
      stream = [] ∨ stream.getLast? = some mark := by
  induction stream using reverseRecOn with
  | nil => exact ⟨fun _ => .inl rfl, fun _ => rfl⟩
  | append_singleton stream element _ =>
    rw [getLast?_concat, Option.some_inj]
    by_cases same : element = mark
    · subst same
      exact ⟨fun _ => .inr rfl, fun _ => scan_mark limit element _ stream⟩
    · rcases exists_holds limit mark stream with ⟨run, holds⟩
      rw [scan_append]
      refine (holds.step_element same).2.eq_empty_iff.trans ⟨?_, ?_⟩
      · intro nothing
        exact absurd nothing (append_ne_nil_of_right_ne_nil _ (cons_ne_nil _ _))
      · rintro (nothing | marked)
        · exact absurd nothing (append_ne_nil_of_right_ne_nil _ (cons_ne_nil _ _))
        · exact absurd marked same

end Scanner

theorem bodiesFrom_append_mark {mark : α} {body : List α} (run rest : List α)
    (unmarked : mark ∉ body) (something : run ++ body ≠ []) :
    bodiesFrom mark run (body ++ mark :: rest) = (run ++ body) :: bodies mark rest := by
  induction body generalizing run with
  | nil =>
    rw [append_nil] at something ⊢
    rw [nil_append, bodiesFrom, if_pos rfl, if_neg something]
    rfl
  | cons element later ih =>
    have other : element ≠ mark := fun same => unmarked (same ▸ mem_cons_self)
    have same : run ++ [element] ++ later = run ++ element :: later := append_assoc _ _ _
    rw [cons_append, bodiesFrom, if_neg other,
      ih (run ++ [element]) (fun member => unmarked (mem_cons_of_mem _ member))
        (same ▸ something), same]

end Delimited
