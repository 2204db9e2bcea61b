/-
This file is about dictionaries of open objects. The objects are numbered and stay
once they exist, while a dictionary finds the number of the open object of a key:
every object it finds exists, has the key, and is not closed. Adding an object,
changing one, closing one together with its entry, and emptying the dictionary
keep this. What holds of each object, and of each number without one, is kept where
it is kept at the number that changes.
-/

import Mathlib

namespace Registry

open Option Function

variable {Key Object : Type} [DecidableEq Key] {key : Object → Key} {closed : Object → Bool}
variable {object : Nat → Option Object} {entry : Key → Option Nat}

/-- The entries find open objects of their key. -/
def Sound (key : Object → Key) (closed : Object → Bool) (object : Nat → Option Object)
    (entry : Key → Option Nat) : Prop :=
  ∀ wanted number, entry wanted = some number →
    ∃ found, object number = some found ∧ key found = wanted ∧ closed found = false

omit [DecidableEq Key] in
theorem sound_empty (object : Nat → Option Object) :
    Sound key closed object (fun _ : Key => none) := nofun

section

variable (sound : Sound key closed object entry)

include sound

variable {number : Nat}

theorem Sound.add (added : Object) (fresh : object number = none)
    (isOpen : closed added = false) :
    Sound key closed (update object number (some added))
      (update entry (key added) (some number)) := by
  intro wanted other listed
  by_cases same : wanted = key added
  · subst same
    rw [update_self] at listed
    exact ⟨added, by rw [← some.inj listed, update_self], rfl, isOpen⟩
  · rw [update_of_ne same] at listed
    obtain ⟨found, present, keyed, alive⟩ := sound wanted other listed
    refine ⟨found, ?_, keyed, alive⟩
    rw [update_of_ne, present]
    rintro rfl
    cases fresh.symm.trans present

omit [DecidableEq Key] in
theorem Sound.modify {before after : Object} (found : object number = some before)
    (keyed : key after = key before) (alike : closed after = closed before) :
    Sound key closed (update object number (some after)) entry := by
  intro wanted other listed
  obtain ⟨old, present, same, alive⟩ := sound wanted other listed
  by_cases self : other = number
  · subst self
    obtain ⟨⟩ := present.symm.trans found
    exact ⟨after, update_self .., keyed.trans same, alike.trans alive⟩
  · exact ⟨old, by rw [update_of_ne self, present], same, alive⟩

theorem Sound.remove {before : Object} (after : Option Object)
    (found : object number = some before) :
    Sound key closed (update object number after)
      (update entry (key before) none) := by
  intro wanted other listed
  by_cases same : wanted = key before
  · rw [same, update_self] at listed
    cases listed
  · rw [update_of_ne same] at listed
    obtain ⟨old, present, keyed, alive⟩ := sound wanted other listed
    refine ⟨old, ?_, keyed, alive⟩
    rw [update_of_ne, present]
    rintro rfl
    obtain ⟨⟩ := present.symm.trans found
    exact same keyed.symm

end

/-! ### Each object -/

omit [DecidableEq Key]

/-- One thing holds of each object, another of each number that has none. -/
def Each (present : Nat → Object → Prop) (absent : Nat → Prop) (object : Nat → Option Object) :
    Prop :=
  (∀ number found, object number = some found → present number found) ∧
    ∀ number, object number = none → absent number

variable {present later : Nat → Object → Prop} {absent missing : Nat → Prop}

section

variable (each : Each present absent object)

include each

theorem Each.mono (objects : ∀ number found, present number found → later number found)
    (numbers : ∀ number, absent number → missing number) : Each later missing object :=
  ⟨fun number found is => objects number found (each.1 number found is),
    fun number none => numbers number (each.2 number none)⟩

theorem Each.update {number : Nat} {after : Object} (here : later number after)
    (elsewhere : ∀ other, other ≠ number → (∀ found, present other found → later other found) ∧
      (absent other → missing other)) :
    Each later missing (update object number (some after)) := by
  constructor
  · intro other found is
    by_cases same : other = number
    · subst same
      rw [update_self] at is
      exact some.inj is ▸ here
    · rw [update_of_ne same] at is
      exact (elsewhere other same).1 found (each.1 other found is)
  · intro other none
    by_cases same : other = number
    · subst same
      rw [update_self] at none
      cases none
    · rw [update_of_ne same] at none
      exact (elsewhere other same).2 (each.2 other none)

theorem Each.map (change : Nat → Object → Object)
    (objects : ∀ number found, object number = some found → present number found →
      later number (change number found))
    (numbers : ∀ number, absent number → missing number) :
    Each later missing fun number => (object number).map (change number) := by
  constructor
  · intro number found is
    obtain ⟨before, was, rfl⟩ := map_eq_some_iff.mp is
    exact objects number before was (each.1 number before was)
  · exact fun number none => numbers number (each.2 number (map_eq_none_iff.mp none))

end

end Registry
