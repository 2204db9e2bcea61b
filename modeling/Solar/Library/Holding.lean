/-
This file is the theory of reservations that are held by someone. Each place may
hold one key; the books are balanced when the reserved keys are exactly the held
ones and no key is held twice. A key may be taken up by an empty place, handed
from one place to another, or given up together with its reservation, and a whole
class of keys may be given up at once.
-/

import Mathlib

namespace Holding

open Option

variable {Place Key : Type} {holder next : Place → Option Key} {reserved kept : Key → Prop}

/-- The reserved keys are the held ones, each held by one place. -/
structure Balanced (holder : Place → Option Key) (reserved : Key → Prop) : Prop where
  held : ∀ key, reserved key ↔ ∃ place, holder place = some key
  unique : ∀ first second key, holder first = some key → holder second = some key →
    first = second

namespace Balanced

section

variable (balanced : Balanced holder reserved)

include balanced

theorem congr (same : ∀ place, next place = holder place)
    (reservations : ∀ key, kept key ↔ reserved key) : Balanced next kept where
  held key := by
    rw [reservations, balanced.held]
    simp only [same]
  unique first second key firstHolds secondHolds := by
    rw [same] at firstHolds secondHolds
    exact balanced.unique first second key firstHolds secondHolds

/-- An empty place takes up a key that nobody holds. -/
theorem add {place : Place} {key : Key} (vacant : holder place = none) (fresh : ¬ reserved key)
    (taken : next place = some key) (others : ∀ other, other ≠ place → next other = holder other)
    (reservations : ∀ other, kept other ↔ reserved other ∨ other = key) :
    Balanced next kept where
  held other := by
    rw [reservations, balanced.held]
    constructor
    · rintro (⟨holds, found⟩ | rfl)
      · have apart : holds ≠ place := by
          rintro rfl
          exact nomatch vacant.symm.trans found
        exact ⟨holds, (others holds apart).trans found⟩
      · exact ⟨place, taken⟩
    · rintro ⟨holds, found⟩
      by_cases same : holds = place
      · subst same
        exact .inr (some.inj (found.symm.trans taken))
      · exact .inl ⟨holds, (others holds same).symm.trans found⟩
  unique := by
    have foreign : ∀ holds, holds ≠ place → next holds ≠ some key := by
      intro holds apart found
      exact fresh ((balanced.held key).mpr ⟨holds, (others holds apart).symm.trans found⟩)
    intro first second other firstHolds secondHolds
    by_cases firstHere : first = place
    · by_cases secondHere : second = place
      · rw [firstHere, secondHere]
      · rw [firstHere, taken] at firstHolds
        rw [← some.inj firstHolds] at secondHolds
        exact absurd secondHolds (foreign second secondHere)
    · by_cases secondHere : second = place
      · rw [secondHere, taken] at secondHolds
        rw [← some.inj secondHolds] at firstHolds
        exact absurd firstHolds (foreign first firstHere)
      · rw [others first firstHere] at firstHolds
        rw [others second secondHere] at secondHolds
        exact balanced.unique first second other firstHolds secondHolds

/-- A place gives up its key and the reservation goes with it. -/
theorem drop {place : Place} (gone : next place = none)
    (others : ∀ other, other ≠ place → next other = holder other)
    (reservations : ∀ key, kept key ↔ reserved key ∧ holder place ≠ some key) :
    Balanced next kept where
  held key := by
    rw [reservations, balanced.held]
    constructor
    · rintro ⟨⟨holds, found⟩, foreign⟩
      have apart : holds ≠ place := by
        rintro rfl
        exact foreign found
      exact ⟨holds, (others holds apart).trans found⟩
    · rintro ⟨holds, found⟩
      have apart : holds ≠ place := by
        rintro rfl
        exact nomatch gone.symm.trans found
      have held := (others holds apart).symm.trans found
      exact ⟨⟨holds, held⟩, fun same => apart (balanced.unique holds place key held same)⟩
  unique first second key firstHolds secondHolds := by
    have apart : ∀ holds, next holds = some key → holds ≠ place := by
      rintro holds found rfl
      exact nomatch gone.symm.trans found
    rw [others first (apart first firstHolds)] at firstHolds
    rw [others second (apart second secondHolds)] at secondHolds
    exact balanced.unique first second key firstHolds secondHolds

/-- A key is handed to a place that holds none. -/
theorem move {source target : Place} (different : source ≠ target) (vacant : holder target = none)
    (gone : next source = none) (arrived : next target = holder source)
    (others : ∀ other, other ≠ source → other ≠ target → next other = holder other) :
    Balanced next reserved := by
  -- Read back along the exchange of the two places, nothing has changed.
  have back : ∀ place key, next place = some key →
      ∃ origin, holder origin = some key ∧ (origin = source ↔ place = target) ∧
        (place ≠ target → origin = place) := by
    intro place key found
    by_cases here : place = target
    · subst here
      exact ⟨source, arrived.symm.trans found, by simp, fun apart => absurd rfl apart⟩
    · have apart : place ≠ source := by
        rintro rfl
        exact nomatch gone.symm.trans found
      refine ⟨place, (others place apart here).symm.trans found, ?_, fun _ => rfl⟩
      simp only [apart, here]
  constructor
  · intro key
    rw [balanced.held]
    constructor
    · rintro ⟨place, found⟩
      by_cases here : place = source
      · subst here
        exact ⟨target, arrived.trans found⟩
      · have apart : place ≠ target := by
          rintro rfl
          exact nomatch vacant.symm.trans found
        exact ⟨place, (others place here apart).trans found⟩
    · rintro ⟨place, found⟩
      obtain ⟨origin, held, _⟩ := back place key found
      exact ⟨origin, held⟩
  · intro first second key firstHolds secondHolds
    obtain ⟨firstOrigin, firstHeld, firstMoved, firstStays⟩ := back first key firstHolds
    obtain ⟨secondOrigin, secondHeld, secondMoved, secondStays⟩ := back second key secondHolds
    have same := balanced.unique firstOrigin secondOrigin key firstHeld secondHeld
    by_cases here : first = target
    · rw [here, secondMoved.mp (same ▸ firstMoved.mpr here)]
    · have there : second ≠ target := fun moved => here (firstMoved.mp (same ▸ secondMoved.mpr moved))
      rw [← firstStays here, ← secondStays there, same]

theorem restrict {keep : Key → Prop}
    (holders : ∀ place key, next place = some key ↔ holder place = some key ∧ keep key)
    (reservations : ∀ key, kept key ↔ reserved key ∧ keep key) : Balanced next kept where
  held key := by
    rw [reservations, balanced.held]
    constructor
    · rintro ⟨⟨place, found⟩, stays⟩
      exact ⟨place, (holders place key).mpr ⟨found, stays⟩⟩
    · rintro ⟨place, found⟩
      obtain ⟨held, stays⟩ := (holders place key).mp found
      exact ⟨⟨place, held⟩, stays⟩
  unique first second key firstHolds secondHolds :=
    balanced.unique first second key ((holders first key).mp firstHolds).1
      ((holders second key).mp secondHolds).1

end

end Balanced

end Holding
