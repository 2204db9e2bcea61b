/-
This file is the rule for loops that go through a list once. What such a loop has
done is told by the part of the list it has gone through: a property of that part
and of the state is proved by one step at each place of the list. A list is sorted
along a relation when what an element needs stands before it; then, in the
reversed list, what needs an element stands before it.
-/

import Mathlib

namespace Prefixes

open List

variable {Item State : Type}

theorem foldl_rule (step : State → Item → State) (items : List Item) (start : State)
    {motive : List Item → State → Prop} (initially : motive [] start)
    (keeps : ∀ done item rest, items = done ++ item :: rest → motive done (done.foldl step start) →
      motive (done ++ [item]) (step (done.foldl step start) item)) :
    motive items (items.foldl step start) := by
  have prefixes : ∀ done rest, items = done ++ rest → motive done (done.foldl step start) := by
    intro done
    induction done using reverseRecOn with
    | nil => exact fun _ _ => initially
    | append_singleton done item ih =>
      intro rest split
      have here : items = done ++ item :: rest := by
        rw [split, append_assoc, singleton_append]
      have stepped := keeps done item rest here (ih (item :: rest) here)
      rw [foldl_append]
      exact stepped
  exact prefixes items [] (append_nil items).symm

theorem foldl_invariant (step : State → Item → State) (items : List Item) (start : State)
    {motive : State → Prop} (initially : motive start)
    (keeps : ∀ state item, item ∈ items → motive state → motive (step state item)) :
    motive (items.foldl step start) := by
  refine foldl_rule step items start (motive := fun _ state => motive state) initially ?_
  intro done item rest split holds
  refine keeps _ item ?_ holds
  rw [split]
  exact mem_append_right _ mem_cons_self

variable {item : Item} {good : List Item → Item → Prop}

theorem notMem_of_nodup {items done rest : List Item} (distinct : items.Nodup)
    (split : items = done ++ item :: rest) : item ∉ done := by
  rw [split] at distinct
  exact fun before => (nodup_append.mp distinct).2.2 item before item mem_cons_self rfl

/-- Each item stands in the relation to what is before it. -/
def Each (good : List Item → Item → Prop) (items : List Item) : Prop :=
  ∀ done item rest, items = done ++ item :: rest → good done item

theorem Each.nil : Each good [] := by
  intro done item rest split
  exact absurd split.symm (append_ne_nil_of_right_ne_nil _ (cons_ne_nil _ _))

variable {items : List Item}

theorem Each.concat (each : Each good items) (here : good items item) :
    Each good (items ++ [item]) := by
  intro done other rest split
  obtain rfl | ⟨before, last, rfl⟩ := eq_nil_or_concat rest
  · obtain ⟨rfl, same⟩ := append_inj' split rfl
    obtain rfl := singleton_inj.mp same
    exact here
  · rw [concat_eq_append, ← cons_append, ← append_assoc] at split
    obtain ⟨same, -⟩ := append_inj' split rfl
    exact each done other before same

theorem Each.concat_iff : Each good (items ++ [item]) ↔ Each good items ∧ good items item := by
  refine ⟨fun each => ⟨fun done other rest split => ?_, each items item [] rfl⟩,
    fun ⟨each, here⟩ => each.concat here⟩
  exact each done other (rest ++ [item]) (by rw [split, append_assoc, cons_append])

theorem Each.cons_iff :
    Each good (item :: items) ↔ good [] item ∧ Each (fun done => good (item :: done)) items := by
  refine ⟨fun each => ⟨each [] item items rfl, fun done other rest split => ?_⟩, ?_⟩
  · exact each (item :: done) other rest (by rw [split, cons_append])
  · rintro ⟨here, each⟩ done other rest split
    cases done with
    | nil =>
      obtain ⟨rfl, -⟩ := cons.inj split
      exact here
    | cons first done =>
      obtain ⟨rfl, rfl⟩ := cons.inj split
      exact each done other rest rfl

/-- What an item needs stands before it. -/
def Sorted (needs : Item → List Item) (items : List Item) : Prop :=
  ∀ done item rest, items = done ++ item :: rest → ∀ needed ∈ needs item, needed ∈ done

namespace Sorted

variable {needs : Item → List Item}

theorem nil : Sorted needs [] := Each.nil

theorem concat (sorted : Sorted needs items)
    (met : ∀ needed ∈ needs item, needed ∈ items) : Sorted needs (items ++ [item]) :=
  Each.concat sorted met

theorem reverse (sorted : Sorted needs items) (distinct : items.Nodup) {done rest : List Item}
    {needing : Item} (split : items.reverse = done ++ item :: rest)
    (present : needing ∈ items) (listed : item ∈ needs needing) : needing ∈ done := by
  have forward : items = rest.reverse ++ item :: done.reverse := by
    rw [← reverse_reverse items, split, reverse_append, reverse_cons,
      append_assoc, singleton_append]
  have once : item ∉ rest.reverse := notMem_of_nodup distinct forward
  rw [forward, mem_append, mem_cons, mem_reverse] at present
  obtain before | same | after := present
  · -- What stands before the item does not need it, as the item stands there only once.
    obtain ⟨first, second, place⟩ := append_of_mem (mem_reverse.mpr before)
    refine absurd ?_ once
    rw [place]
    refine mem_append_left _ (sorted first needing (second ++ item :: done.reverse) ?_ item listed)
    rw [forward, place, append_assoc, cons_append]
  · subst same
    exact absurd (sorted _ _ _ forward needing listed) once
  · exact mem_reverse.mp after

end Sorted

end Prefixes
