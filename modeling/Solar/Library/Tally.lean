/-
This file is the theory of a counter word that says how many members a finite
set has. The word follows the set: it goes up when a member enters, goes down
when a member leaves, and stays when one member takes another's place. A member
leaves a set it is in, so the word never goes below zero; it does not overflow
as long as the sets stay small enough.
-/

import Mathlib

namespace Tally

variable {Member : Type} {word : UInt32} {members next : Set Member} {member other : Member}

/-- The word is the number of members. -/
structure Counts (word : UInt32) (members : Set Member) : Prop where
  finite : members.Finite
  exact : word.toNat = members.ncard

theorem toNat_add_one (small : word.toNat + 1 < 2 ^ 32) : (word + 1).toNat = word.toNat + 1 := by
  exact Nat.mod_eq_of_lt small

theorem toNat_sub_one (positive : 0 < word.toNat) : (word - 1).toNat = word.toNat - 1 :=
  UInt32.toNat_sub_of_le word 1 (UInt32.le_iff_toNat_le.mpr positive)

namespace Counts

theorem empty : Counts 0 (∅ : Set Member) where
  finite := Set.finite_empty
  exact := Set.ncard_empty Member |>.symm

section

variable (counts : Counts word members)

include counts

theorem congr (same : next = members) : Counts word next :=
  same ▸ counts

theorem pos (inside : member ∈ members) : 0 < word.toNat := by
  rw [counts.exact]
  exact (Set.ncard_pos counts.finite).mpr ⟨member, inside⟩

theorem enter (member : Member) (outside : member ∉ members) (small : word.toNat + 1 < 2 ^ 32) :
    Counts (word + 1) (insert member members) where
  finite := counts.finite.insert member
  exact := by
    rw [toNat_add_one small, counts.exact, Set.ncard_insert_of_notMem outside counts.finite]

theorem leave (member : Member) (inside : member ∈ members) :
    Counts (word - 1) (members \ {member}) where
  finite := counts.finite.sdiff
  exact := by
    rw [toNat_sub_one (counts.pos inside), counts.exact, Set.ncard_sdiff_singleton_of_mem inside]

end

theorem toNat_le {size : Nat} {indices : Set (Fin size)} (counts : Counts word indices) :
    word.toNat ≤ size := by
  rw [counts.exact]
  refine (Set.ncard_le_card _).trans_eq ?_
  rw [Nat.card_eq_fintype_card, Fintype.card_fin]

theorem exchange (counts : Counts word members) (member other : Member)
    (inside : member ∈ members) (outside : other ∉ members) :
    Counts word (insert other (members \ {member})) where
  finite := counts.finite.sdiff.insert other
  exact := by
    have absent : other ∉ members \ {member} := fun found => outside found.1
    have positive := counts.pos inside
    rw [Set.ncard_insert_of_notMem absent counts.finite.sdiff,
      Set.ncard_sdiff_singleton_of_mem inside, ← counts.exact]
    exact (Nat.sub_add_cancel positive).symm

theorem dismiss (counts : Counts word members) (dismissed : Set Member)
    (inside : dismissed ⊆ members) :
    Counts (word - UInt32.ofNat dismissed.ncard) (members \ dismissed) where
  finite := counts.finite.sdiff
  exact := by
    have fewer : dismissed.ncard ≤ word.toNat := by
      rw [counts.exact]
      exact Set.ncard_le_ncard inside counts.finite
    have size : (UInt32.ofNat dismissed.ncard).toNat = dismissed.ncard := by
      exact Nat.mod_eq_of_lt (fewer.trans_lt word.toNat_lt)
    have below : UInt32.ofNat dismissed.ncard ≤ word := by
      rw [UInt32.le_iff_toNat_le, size]
      exact fewer
    rw [UInt32.toNat_sub_of_le _ _ below, size, counts.exact,
      Set.ncard_sdiff inside (counts.finite.subset inside)]

variable [DecidableEq Member] {holds : Member → Bool}

section

variable (counts : Counts word {member | holds member = true})

include counts

theorem turnOn (off : holds member = false) (small : word.toNat + 1 < 2 ^ 32) :
    Counts (word + 1) {other | Function.update holds member true other = true} := by
  refine (counts.enter member ?_ small).congr ?_
  · exact fun inside => Bool.false_ne_true (off.symm.trans inside)
  · ext other
    by_cases here : other = member
    · simp [here]
    · simp [here]

theorem turnOff (on : holds member = true) :
    Counts (word - 1) {other | Function.update holds member false other = true} := by
  refine (counts.leave member on).congr ?_
  ext other
  by_cases here : other = member
  · simp [here]
  · simp [here]

theorem update (member : Member) (enable : Bool) (small : word.toNat + 1 < 2 ^ 32) :
    Counts (if decide (holds member ≠ enable) = true then
        (if enable = true then word + 1 else word - 1) else word)
      {other | Function.update holds member enable other = true} := by
  by_cases same : holds member = enable
  · rw [if_neg (by simpa using same), ← same, Function.update_eq_self]
    exact counts
  rw [if_pos (by simpa using same)]
  cases enable with
  | true => exact counts.turnOn (eq_false_of_ne_true same) small
  | false => exact counts.turnOff (eq_true_of_ne_false same)

theorem hand (on : holds member = true) (off : holds other = false) :
    Counts word {place |
      Function.update (Function.update holds member false) other true place = true} := by
  refine (counts.exchange member other on ?_).congr ?_
  · exact fun inside => Bool.false_ne_true (off.symm.trans inside)
  · ext place
    by_cases here : place = other
    · simp [here]
    · by_cases there : place = member
      · subst there
        simp [here]
      · simp [here, there]

end

end Counts

theorem ncard_of_enumeration [DecidableEq Member] {everything : List Member}
    (distinct : everything.Nodup) (complete : ∀ member, member ∈ everything)
    (holds : Member → Bool) :
    {member | holds member = true}.ncard = everything.countP holds := by
  have listed : {member | holds member = true} = ↑(everything.filter holds).toFinset := by
    ext member
    simp [complete member]
  rw [listed, Set.ncard_coe_finset, List.toFinset_card_of_nodup (distinct.filter holds),
    List.countP_eq_length_filter]

end Tally
