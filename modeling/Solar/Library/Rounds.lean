/-
This file is the theory of rounds. Each item visits a list of places one after another,
and a book has an entry for each visit. Rounds start, go on and end in any order; an item
whose round has ended stands in the book once with every place.
-/

import Mathlib

namespace Rounds

open List

variable {Item Place : Type} {places : List Place} {finished : List Item}
  {underway next rest : List (Item × Nat)} {entries : List (Item × Place)} {item : Item}
  {position : Nat} {place : Place}

/-- The visits of an item that is that far on its round. -/
def visits (places : List Place) (round : Item × Nat) : List (Item × Place) :=
  (places.take round.2).map fun place => (round.1, place)

/-- The book has the visits of the finished rounds and those so far of the rounds that go on. -/
def Booked (places : List Place) (finished : List Item) (underway : List (Item × Nat))
    (entries : List (Item × Place)) : Prop :=
  entries.Perm ((finished.map fun item => (item, places.length)).flatMap (visits places) ++
    underway.flatMap (visits places))

theorem visits_zero : visits places (item, 0) = [] := by
  rw [visits, take_zero, map_nil]

theorem visits_succ (here : places[position]? = some place) :
    visits places (item, position + 1) = visits places (item, position) ++ [(item, place)] := by
  unfold visits
  rw [take_add_one, here, Option.toList_some, map_append, map_singleton]

theorem visits_end (past : places.length ≤ position) :
    visits places (item, position) = visits places (item, places.length) := by
  unfold visits
  rw [take_of_length_le past, take_length]

theorem Booked.nil : Booked places finished ([] : List (Item × Nat))
    ((finished.map fun item => (item, places.length)).flatMap (visits places)) := by
  unfold Booked
  rw [flatMap_nil, append_nil]

section

variable (booked : Booked places finished underway entries)

include booked

theorem Booked.start (started : next.Perm ((item, 0) :: underway)) :
    Booked places finished next entries := by
  refine booked.trans (Perm.append_left _ ((started.flatMap_right _).trans ?_).symm)
  rw [flatMap_cons, visits_zero, nil_append]

theorem Booked.visit (before : underway.Perm ((item, position) :: rest))
    (after : next.Perm ((item, position + 1) :: rest)) (here : places[position]? = some place) :
    Booked places finished next (entries ++ [(item, place)]) := by
  have moved : (underway.flatMap (visits places) ++ [(item, place)]).Perm
      (next.flatMap (visits places)) := by
    refine ((before.flatMap_right _).append_right _).trans ((after.flatMap_right _).trans ?_).symm
    rw [flatMap_cons, flatMap_cons, visits_succ here, append_assoc, append_assoc]
    exact perm_append_comm.append_left _
  refine (booked.append_right _).trans ?_
  rw [append_assoc]
  exact moved.append_left _

theorem Booked.finish (before : underway.Perm ((item, position) :: next))
    (past : places.length ≤ position) : Booked places (finished ++ [item]) next entries := by
  refine booked.trans ?_
  rw [map_append, flatMap_append, append_assoc]
  refine Perm.append_left _ ((before.flatMap_right _).trans ?_)
  rw [flatMap_cons, visits_end past, map_singleton, flatMap_singleton]

theorem Booked.once [DecidableEq Item] [DecidableEq Place] (distinct : places.Nodup)
    (items : (finished ++ underway.map (·.1)).Nodup) (ended : item ∈ finished)
    (inside : place ∈ places) : entries.count (item, place) = 1 := by
  obtain ⟨finishedOnce, -, apart⟩ := nodup_append.mp items
  have going : (underway.flatMap (visits places)).count (item, place) = 0 := by
    refine count_eq_zero_of_not_mem fun member => ?_
    obtain ⟨round, going, visited⟩ := mem_flatMap.mp member
    obtain ⟨_, _, same⟩ := mem_map.mp visited
    exact apart item ended round.1 (mem_map_of_mem going) (Prod.ext_iff.mp same).1.symm
  have own : ((finished.map fun item => (item, places.length)).flatMap
      (visits places)).count (item, place) = 1 := by
    refine count_eq_one_of_mem ?_ ?_
    · simp only [flatMap_map, visits, take_length]
      exact finishedOnce.product distinct
    · simp only [flatMap_map, visits, take_length]
      exact mem_flatMap.mpr ⟨item, ended, mem_map_of_mem inside⟩
  rw [booked.count_eq, count_append, own, going]

end

end Rounds
