/-
This file holds what is needed of byte strings that are made of words at running
offsets: little-endian words of a given size, writing a word into a byte string
at an offset, and the words of a string that is their concatenation.
-/

import Mathlib

namespace Solar.Words

open List

abbrev Bytes := List UInt8

/-! ### Little-endian words -/

/-- The lowest bytes of a number, lowest first. -/
def littleEndian : Nat → Nat → Bytes
  | 0, _ => []
  | size + 1, value => UInt8.ofNat value :: littleEndian size (value / 256)

def ofLittleEndian : Bytes → Nat
  | [] => 0
  | byte :: rest => byte.toNat + 256 * ofLittleEndian rest

@[simp] theorem length_littleEndian (size value : Nat) :
    (littleEndian size value).length = size := by
  induction size generalizing value with
  | zero => rfl
  | succ size ih => rw [littleEndian, length_cons, ih]

theorem ofLittleEndian_littleEndian {size value : Nat} (small : value < 256 ^ size) :
    ofLittleEndian (littleEndian size value) = value := by
  induction size generalizing value with
  | zero =>
    simp only [littleEndian, ofLittleEndian]
    omega
  | succ size ih =>
    have rest : value / 256 < 256 ^ size := by
      exact Nat.div_lt_of_lt_mul (by rwa [Nat.mul_comm])
    rw [littleEndian, ofLittleEndian, ih rest]
    exact Nat.mod_add_div value 256

section

variable (bytes : Bytes)

theorem ofLittleEndian_lt : ofLittleEndian bytes < 256 ^ bytes.length := by
  induction bytes with
  | nil => exact Nat.one_pos
  | cons byte rest ih =>
    have small := byte.toNat_lt
    rw [ofLittleEndian, length_cons]
    omega

theorem ofLittleEndian_inj {first second : Bytes} (length : first.length = second.length)
    (same : ofLittleEndian first = ofLittleEndian second) : first = second := by
  induction first generalizing second with
  | nil => exact (eq_nil_of_length_eq_zero length.symm).symm
  | cons byte rest ih =>
    cases second with
    | nil => cases length
    | cons other later =>
      rw [ofLittleEndian, ofLittleEndian] at same
      have small := byte.toNat_lt
      have also := other.toNat_lt
      have heads : byte = other := UInt8.toNat_inj.mp (by omega)
      rw [heads, ih (Nat.succ.inj length) (by omega)]

theorem littleEndian_ofLittleEndian : littleEndian bytes.length (ofLittleEndian bytes) = bytes :=
  ofLittleEndian_inj (length_littleEndian ..) (ofLittleEndian_littleEndian (ofLittleEndian_lt bytes))

/-! ### Words at offsets -/

/-- Write a word at an offset, if it has the room there. -/
def splice (offset : Nat) (word : Bytes) : Option Bytes :=
  if offset + word.length ≤ bytes.length then
    some (bytes.take offset ++ word ++ bytes.drop (offset + word.length))
  else none

/-- The word of a given size at an offset, if there is one. -/
def slice (offset size : Nat) : Option Bytes :=
  if offset + size ≤ bytes.length then some ((bytes.drop offset).take size) else none

end

theorem splice_append (written word rest : Bytes) (room : word.length ≤ rest.length) :
    splice (written ++ rest) written.length word =
      some (written ++ word ++ rest.drop word.length) := by
  rw [splice, if_pos (by rw [length_append]; omega)]
  simp

theorem slice_append (before word after : Bytes) :
    slice (before ++ word ++ after) before.length word.length = some word := by
  rw [slice, if_pos (by simp only [length_append]; omega), append_assoc, drop_left, take_left]

end Solar.Words
