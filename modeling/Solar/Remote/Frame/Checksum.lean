/-
This file is about the bytes that a checksum takes. A bit of CRC-32C is linear and loses
nothing, so four more bytes bring the register to any value, and among them are four
without a zero after which the checksum has no zero byte either.
-/

import Solar.Library.Words
import Solar.Remote.Frame.Host

namespace Solar.Remote

open List Function

open Words (ofLittleEndian)

namespace Host

/-! ### One bit -/

theorem crcBit_xor (left right : Nat) :
    crcBit (left ^^^ right) = crcBit left ^^^ crcBit right := by
  unfold crcBit
  rw [Nat.shiftRight_xor_distrib, Nat.and_xor_distrib_right]
  have bit (number : Nat) : number &&& 1 = 0 ∨ number &&& 1 = 1 :=
    Nat.and_one_is_mod number ▸ Nat.mod_two_eq_zero_or_one number
  rcases bit left with even | odd
  · rw [even, Nat.zero_xor, if_neg (by decide : ¬(0 : Nat) = 1), Nat.xor_zero, Nat.xor_assoc]
  · rcases bit right with even | odd'
    · rw [even, Nat.xor_zero, if_neg (by decide : ¬(0 : Nat) = 1), Nat.xor_zero,
        Nat.xor_assoc, Nat.xor_assoc, Nat.xor_comm (right >>> 1)]
    · rw [odd, odd', Nat.xor_self, if_pos rfl, if_neg (by decide : ¬(0 : Nat) = 1), Nat.xor_zero,
        Nat.xor_assoc, Nat.xor_left_comm 0x82F63B78, Nat.xor_self, Nat.xor_zero]

theorem crcBit_double (number : Nat) : crcBit (2 * number) = number := by
  unfold crcBit
  rw [Nat.and_one_is_mod, Nat.mul_mod_right, if_neg (by decide), Nat.xor_zero,
    Nat.shiftRight_eq_div_pow, Nat.mul_div_cancel_left _ (by decide)]

theorem crcBit_lt {number : Nat} (small : number < 2 ^ 32) : crcBit number < 2 ^ 32 := by
  refine Nat.xor_lt_two_pow ((Nat.shiftRight_le _ _).trans_lt small) ?_
  split <;> decide

theorem crcBit_eq_zero {number : Nat} (small : number < 2 ^ 32) (zero : crcBit number = 0) :
    number = 0 := by
  have same := Nat.xor_eq_zero_iff.mp zero
  rw [Nat.shiftRight_eq_div_pow, Nat.and_one_is_mod] at same
  split at same <;> omega

theorem iterate_crcBit_xor (bits left right : Nat) :
    crcBit^[bits] (left ^^^ right) = crcBit^[bits] left ^^^ crcBit^[bits] right := by
  induction bits generalizing left right with
  | zero => rfl
  | succ bits ih => rw [iterate_succ_apply, iterate_succ_apply, iterate_succ_apply, crcBit_xor, ih]

theorem iterate_crcBit_pow {bits number : Nat} : crcBit^[bits] (2 ^ bits * number) = number := by
  induction bits with
  | zero => exact Nat.one_mul _
  | succ bits ih =>
    rw [iterate_succ_apply, Nat.pow_succ, Nat.mul_comm _ 2, Nat.mul_assoc, crcBit_double,
      ih]

theorem iterate_crcBit_eq_zero {bits number : Nat} (small : number < 2 ^ 32)
    (zero : crcBit^[bits] number = 0) : number = 0 := by
  induction bits generalizing number with
  | zero => exact zero
  | succ bits ih => exact crcBit_eq_zero small (ih (crcBit_lt small) zero)

theorem iterate_crcBit_inj {bits left right : Nat} (small : left < 2 ^ 32) (also : right < 2 ^ 32)
    (same : crcBit^[bits] left = crcBit^[bits] right) : left = right := by
  have zero : crcBit^[bits] (left ^^^ right) = 0 := by
    rw [iterate_crcBit_xor, same, Nat.xor_self]
  exact Nat.xor_eq_zero_iff.mp (iterate_crcBit_eq_zero (Nat.xor_lt_two_pow small also) zero)

/-! ### Bytes -/

theorem byte_add (byte : UInt8) (above : Nat) :
    byte.toNat + 256 * above = byte.toNat ^^^ 256 * above := by
  refine Nat.eq_of_testBit_eq fun index => ?_
  rw [Nat.add_comm, show 256 = 2 ^ 8 from rfl,
    Nat.testBit_two_pow_mul_add above byte.toNat_lt index, Nat.testBit_xor,
    Nat.testBit_two_pow_mul]
  by_cases low : index < 8
  · rw [if_pos low, decide_eq_false low.not_ge, Bool.false_and, Bool.xor_false]
  · have high : byte.toNat.testBit index = false :=
      Nat.testBit_lt_two_pow (Nat.lt_of_lt_of_le byte.toNat_lt
        (Nat.pow_le_pow_right (by decide) (Nat.not_lt.mp low)))
    rw [if_neg low, high, decide_eq_true (Nat.not_lt.mp low), Bool.true_and, Bool.false_xor]

theorem foldl_crcByte (bytes : Bytes) (crc : Nat) :
    bytes.foldl crcByte crc = crcBit^[8 * bytes.length] (crc ^^^ ofLittleEndian bytes) := by
  induction bytes generalizing crc with
  | nil => exact (Nat.xor_zero crc).symm
  | cons byte rest ih =>
    have above : crcBit^[8] (256 * ofLittleEndian rest) = ofLittleEndian rest :=
      iterate_crcBit_pow
    rw [foldl_cons, ih, length_cons, Nat.mul_succ,
      iterate_add_apply, ofLittleEndian, byte_add, ← Nat.xor_assoc,
      iterate_crcBit_xor 8 (crc ^^^ byte.toNat), above]
    rfl

end Host

/-! ### Checksums without zeros -/

/-- The checksum after four more bytes. -/
def checksumAfter (crc : UInt32) (tail : Fin 4 → UInt8) : UInt32 :=
  ~~~((ofFn tail).foldl Frame.crcByte crc)

theorem checksumAfter_injective {crc : UInt32} : Injective (checksumAfter crc) := by
  intro first second same
  have folded := congrArg UInt32.toNat (UInt32.not_inj.mp same)
  have host (tail : Fin 4 → UInt8) : ((ofFn tail).foldl Frame.crcByte crc).toNat =
      Host.crcBit^[8 * 4] (crc.toNat ^^^ ofLittleEndian (ofFn tail)) := by
    have hom := @foldl_hom _ _ _ UInt32.toNat _ _ (ofFn tail) crc fun crc byte =>
      (Host.crcByte_toNat crc byte).symm
    rw [← hom, Host.foldl_crcByte, length_ofFn]
  have small (tail : Fin 4 → UInt8) : crc.toNat ^^^ ofLittleEndian (ofFn tail) < 2 ^ 32 := by
    refine Nat.xor_lt_two_pow crc.toNat_lt ?_
    have bound := Words.ofLittleEndian_lt (ofFn tail)
    rw [length_ofFn] at bound
    exact bound
  rw [host, host] at folded
  have words := Nat.xor_right_inj.mp (Host.iterate_crcBit_inj (small first) (small second) folded)
  exact ofFn_injective (Words.ofLittleEndian_inj (by rw [length_ofFn, length_ofFn]) words)

/-- The bytes of a word, by their places. -/
def bytesOf (word : UInt32) (place : Fin 4) : UInt8 := (putU32 word).getD place 0

theorem bytesOf_injective : Injective bytesOf := by
  intro first second same
  have equal : putU32 first = putU32 second := by
    refine ext_getElem rfl fun index inside also => ?_
    have byte : (putU32 first).getD index 0 = (putU32 second).getD index 0 :=
      congrFun same ⟨index, inside⟩
    rwa [getD_eq_getElem _ _ inside, getD_eq_getElem _ _ also] at byte
  have read := getU32_putU32 first []
  rw [equal, getU32_putU32] at read
  exact read.symm

theorem exists_mem_image_mem {α : Type} [Fintype α] [DecidableEq α] {elements : Finset α}
    {image : α → α} (injective : Injective image)
    (large : Fintype.card α < elements.card + elements.card) :
    ∃ element ∈ elements, image element ∈ elements := by
  obtain ⟨common, member⟩ := Finset.inter_nonempty_of_card_lt_card_add_card
    (Finset.subset_univ (elements.image image)) (Finset.subset_univ elements) (by
      rwa [Finset.card_image_of_injective elements injective])
  obtain ⟨reached, inside⟩ := Finset.mem_inter.mp member
  obtain ⟨element, chosen, rfl⟩ := Finset.mem_image.mp reached
  exact ⟨element, chosen, inside⟩

/-- Four bytes without a zero, after which the checksum is without a zero. There are so many of
each kind that some are both. -/
theorem exists_zero_free {crc : UInt32} :
    ∃ tail : Bytes, tail.length = 4 ∧ 0 ∉ tail ∧ 0 ∉ putU32 (~~~(tail.foldl Frame.crcByte crc)) := by
  have bytes : Fintype.card UInt8 = 256 := FinEnum.card_eq_fintypeCard.symm
  obtain ⟨free, many, mem_free⟩ : ∃ free : Finset (Fin 4 → UInt8), free.card = 255 ^ 4 ∧
      ∀ tail, tail ∈ free ↔ ∀ place, tail place ≠ 0 := by
    refine ⟨Fintype.piFinset fun _ => Finset.univ.erase 0, ?_, fun tail => ?_⟩
    · rw [Fintype.card_piFinset_const, Finset.card_erase_of_mem (Finset.mem_univ _),
        Finset.card_univ, bytes]
    · rw [Fintype.mem_piFinset]
      exact forall_congr' fun place => by rw [Finset.mem_erase, and_iff_left (Finset.mem_univ _)]
  have all : Fintype.card (Fin 4 → UInt8) = 256 ^ 4 := by
    rw [Fintype.card_fun, Fintype.card_fin, bytes]
  have enough : 256 ^ 4 < 255 ^ 4 + 255 ^ 4 := by norm_num
  obtain ⟨tail, tailFree, clean⟩ := exists_mem_image_mem
    (bytesOf_injective.comp checksumAfter_injective) (many ▸ all ▸ enough)
  refine ⟨ofFn tail, length_ofFn, ?_, ?_⟩
  · intro zero
    obtain ⟨place, equal⟩ := mem_ofFn.mp zero
    exact (mem_free tail).mp tailFree place equal
  · intro zero
    obtain ⟨index, inside, equal⟩ := mem_iff_getElem.mp zero
    refine (mem_free _).mp clean ⟨index, inside⟩ ?_
    exact (getD_eq_getElem _ _ inside).trans equal

end Solar.Remote
