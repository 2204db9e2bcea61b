/-
This file says what the boot does to the slots: a load touches the slots it is
for and no record, so after the boot a slot is what its own load made of the
slot `init` set up.
-/

import Solar.Parameters.Effects

namespace Solar.Parameters

open List

namespace Facility

variable {A : Architecture} {parameter : A.Parameter}

/-! ### The same update on several slots -/

section

variable {update : (parameter : A.Parameter) → Slot (A.Value parameter) → Slot (A.Value parameter)}
  {members : List A.Parameter}

theorem slot_updateSlots_of_not_mem (absent : parameter ∉ members) (facility : Facility A) :
    (facility.updateSlots update members).slot parameter = facility.slot parameter := by
  induction members generalizing facility with
  | nil => rfl
  | cons member rest ih =>
    rw [mem_cons, not_or] at absent
    rw [updateSlots, ih absent.2, slot_updateSlot_of_ne _ _ _ absent.1]

theorem slot_updateSlots_of_mem (distinct : members.Nodup) (listed : parameter ∈ members)
    (facility : Facility A) :
    (facility.updateSlots update members).slot parameter =
      update parameter (facility.slot parameter) := by
  induction members generalizing facility with
  | nil => exact absurd listed not_mem_nil
  | cons member rest ih =>
    rw [nodup_cons] at distinct
    rw [updateSlots]
    obtain rfl | later := mem_cons.mp listed
    · rw [slot_updateSlots_of_not_mem distinct.1, slot_updateSlot_self]
    · have different : parameter ≠ member := fun same => distinct.1 (same ▸ later)
      rw [ih distinct.2 later, slot_updateSlot_of_ne _ _ _ different]

end

section

variable (update : (parameter : A.Parameter) → Slot (A.Value parameter) → Slot (A.Value parameter))
  (members : List A.Parameter) (facility : Facility A)

theorem stored_updateSlots : (facility.updateSlots update members).stored = facility.stored := by
  induction members generalizing facility with
  | nil => rfl
  | cons member rest ih => rw [updateSlots, ih, stored_updateSlot]

theorem group_updateSlots : (facility.updateSlots update members).group = facility.group := by
  induction members generalizing facility with
  | nil => rfl
  | cons member rest ih => rw [updateSlots, ih, group_updateSlot]

end

/-! ### Loads in a row -/

theorem loadEach_rule {Item : Type} {load : Facility A → Item → Facility A × Except Status Unit}
    {motive : Facility A → Prop} {items : List Item}
    (keeps : ∀ facility, motive facility → ∀ item ∈ items, motive (load facility item).1)
    {facility loaded : Facility A} (initially : motive facility)
    (ended : loadEach load items facility = .ok loaded) : motive loaded := by
  induction items generalizing facility with
  | nil => exact Except.ok.inj ended ▸ initially
  | cons item rest ih =>
    have first := keeps facility initially item mem_cons_self
    unfold loadEach at ended
    generalize load facility item = outcome at first ended
    obtain ⟨next, _ | _⟩ := outcome
    · exact nomatch ended
    · exact ih (fun facility holds item listed =>
        keeps facility holds item (mem_cons_of_mem _ listed)) first ended

theorem loadPersistentParameter_of_ne {other : A.Parameter} (different : parameter ≠ other)
    (facility : Facility A) :
    (facility.loadPersistentParameter other).1.slot parameter = facility.slot parameter := by
  unfold loadPersistentParameter
  split
  · simp only
    exact slot_updateSlot_of_ne _ _ _ different
  · rfl

theorem stored_loadPersistentParameter (facility : Facility A) (other : A.Parameter) :
    (facility.loadPersistentParameter other).1.stored = facility.stored := by
  unfold loadPersistentParameter
  split <;> rfl

theorem loadPersistentParameter_self {commit : Commit}
    (single : A.persistence parameter = .single commit) (facility : Facility A) :
    (facility.loadPersistentParameter parameter).1.slot parameter =
      (loadSlot A parameter (facility.parameterRecord parameter) (facility.slot parameter)).1 := by
  simp only [loadPersistentParameter, single, slot_updateSlot_self]
  rfl

theorem loadPersistentGroup_of_not_mem {group : A.Group}
    (absent : parameter ∉ (A.group group).members) (facility : Facility A) :
    (facility.loadPersistentGroup group).1.slot parameter = facility.slot parameter := by
  unfold loadPersistentGroup
  split
  · exact slot_updateSlots_of_not_mem absent facility
  · split
    · rfl
    · split_ifs
      · exact slot_updateSlots_of_not_mem absent facility
      · exact slot_updateSlots_of_not_mem absent facility

theorem stored_loadPersistentGroup (facility : Facility A) (group : A.Group) :
    (facility.loadPersistentGroup group).1.stored = facility.stored := by
  unfold loadPersistentGroup
  split
  · exact stored_updateSlots _ _ _
  · split
    · rfl
    · split_ifs
      · exact stored_updateSlots _ _ _
      · exact stored_updateSlots _ _ _

/-- The slot before anything is loaded. -/
def initialSlot (A : Architecture) (parameter : A.Parameter) : Slot (A.Value parameter) :=
  (initial A fun _ _ => none).slot parameter

section

variable {contents : A.Store → Key → Option Words.Bytes} {start : Facility A}

theorem stored_boot (booted : boot A contents = .ok start) : start.stored = contents := by
  unfold boot at booted
  split at booted
  · exact nomatch booted
  next loaded first =>
  have parameters : loaded.stored = contents := loadEach_rule
    (fun facility holds other _ => (stored_loadPersistentParameter facility other).trans holds)
    (rfl : (initial A contents).stored = contents) first
  exact loadEach_rule
    (fun facility holds group _ => (stored_loadPersistentGroup facility group).trans holds)
    parameters booted

/-- Of loads in a row, the one that touches a part of the facility decides it. -/
theorem loadEach_own {Item Part : Type} {load : Facility A → Item → Facility A × Except Status Unit}
    {own : Item} (part : Facility A → Part)
    (others : ∀ facility item, item ≠ own → part (load facility item).1 = part facility)
    {items : List Item} (distinct : items.Nodup) (listed : own ∈ items)
    {facility loaded : Facility A} (ended : loadEach load items facility = .ok loaded) :
    ∃ before, part before = part facility ∧ part loaded = part (load before own).1 := by
  induction items generalizing facility with
  | nil => exact absurd listed not_mem_nil
  | cons first rest ih =>
    rw [nodup_cons] at distinct
    unfold loadEach at ended
    rcases outcome : load facility first with ⟨next, _ | _⟩ <;> rw [outcome] at ended
    · exact nomatch ended
    have same : (load facility first).1 = next := by rw [outcome]
    obtain rfl | later := mem_cons.mp listed
    · refine ⟨facility, rfl, ?_⟩
      rw [same]
      exact loadEach_rule (motive := fun facility => part facility = part next)
        (fun facility holds item inRest =>
          (others facility item fun equal => distinct.1 (equal ▸ inRest)).trans holds) rfl ended
    · obtain ⟨before, kept, final⟩ := ih distinct.2 later ended
      have different : first ≠ own := fun equal => distinct.1 (equal ▸ later)
      exact ⟨before, kept.trans (same ▸ others facility first different), final⟩

theorem slot_boot {commit : Commit} (single : A.persistence parameter = .single commit)
    (booted : boot A contents = .ok start) :
    start.slot parameter = (loadSlot A parameter (start.parameterRecord parameter)
      (initialSlot A parameter)).1 := by
  have stored := stored_boot booted
  unfold boot at booted
  split at booted
  · exact nomatch booted
  next loaded first =>
  obtain ⟨before, same, decided⟩ := loadEach_own
    (fun facility => (facility.slot parameter, facility.stored))
    (fun facility other different => Prod.ext
      (loadPersistentParameter_of_ne different.symm facility)
      (stored_loadPersistentParameter facility other))
    A.nodup_parameters (A.mem_parameters parameter) first
  obtain ⟨slot, unread⟩ := Prod.mk.inj same
  have own : loaded.slot parameter = (loadSlot A parameter (before.parameterRecord parameter)
      (before.slot parameter)).1 :=
    (congrArg Prod.fst decided).trans (loadPersistentParameter_self single before)
  have kept : start.slot parameter = loaded.slot parameter := loadEach_rule
    (motive := fun facility => facility.slot parameter = loaded.slot parameter)
    (fun facility holds group _ => (loadPersistentGroup_of_not_mem (fun member => by
      rw [(A.transactional_iff parameter group).mpr member] at single
      exact nomatch single) facility).trans holds) rfl booted
  rw [kept, own, parameterRecord, parameterRecord, slot, unread, stored]
  rfl

end

end Facility

end Solar.Parameters
