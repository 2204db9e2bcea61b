/-
This file is the theory of consistent-overhead byte stuffing. A byte string is
cut into blocks of non-zero bytes, each headed by its length plus one; a block
of 254 bytes is followed directly by the next one, any shorter block but the
last stands for its bytes and a zero. The encoding has no zero byte, so a zero
can delimit it.

Encoding and decoding are mutually inverse on encodings, and the two lengths
differ by one byte in 254 and one more.
-/

import Mathlib

namespace Cobs

open List Option

/-- Encode the bytes after a run of non-zero bytes that is not closed yet. -/
def encodeFrom (run : List UInt8) : List UInt8 → List UInt8
  | [] => UInt8.ofNat (run.length + 1) :: run
  | byte :: rest =>
      if byte = 0 then UInt8.ofNat (run.length + 1) :: run ++ encodeFrom [] rest
      else if run.length + 1 = 254 then 255 :: (run ++ [byte]) ++ encodeFrom [] rest
      else encodeFrom (run ++ [byte]) rest

/-- The encoding of a byte string, without its delimiter. -/
def encode (bytes : List UInt8) : List UInt8 := encodeFrom [] bytes

/-- Decode at most the given number of blocks. -/
def decodeBlocks : Nat → List UInt8 → Option (List UInt8)
  | _, [] => some []
  | 0, _ :: _ => none
  | blocks + 1, code :: rest =>
      let size := code.toNat - 1
      if code = 0 ∨ rest.length < size then none
      else
        (decodeBlocks blocks (rest.drop size)).map fun later =>
          rest.take size ++ if code ≠ 255 ∧ rest.drop size ≠ [] then 0 :: later else later

/-- The bytes an encoding stands for. Every block has at least one byte. -/
def decode (bytes : List UInt8) : Option (List UInt8) := decodeBlocks bytes.length bytes

/-! ### Blocks -/

variable {size : Nat}

theorem toNat_ofNat_succ (short : size ≤ 253) :
    (UInt8.ofNat (size + 1)).toNat = size + 1 := by
  exact Nat.mod_eq_of_lt (by omega)

theorem ofNat_succ_ne_zero (short : size ≤ 253) : UInt8.ofNat (size + 1) ≠ 0 := by
  intro zero
  have value := toNat_ofNat_succ short
  rw [zero] at value
  exact nomatch value

theorem ofNat_succ_ne_full (short : size ≤ 253) : UInt8.ofNat (size + 1) ≠ 255 := by
  intro full
  have value := toNat_ofNat_succ short
  rw [full] at value
  have same : 255 = size + 1 := value
  omega

theorem encodeFrom_ne_nil (run bytes : List UInt8) : encodeFrom run bytes ≠ [] := by
  induction bytes generalizing run with
  | nil => exact cons_ne_nil _ _
  | cons byte rest ih =>
    unfold encodeFrom
    split
    · exact cons_ne_nil _ _
    · split
      · exact cons_ne_nil _ _
      · exact ih _

variable (bytes : List UInt8) {encoded : List UInt8}

theorem encode_ne_nil : encode bytes ≠ [] := encodeFrom_ne_nil [] bytes

theorem length_run_lt (run bytes : List UInt8) : run.length < (encodeFrom run bytes).length := by
  induction bytes generalizing run with
  | nil => exact Nat.lt_succ_self _
  | cons byte rest ih =>
    unfold encodeFrom
    split
    · rw [length_append, length_cons]
      omega
    · split
      · rw [length_append, length_cons, length_append]
        omega
      · have longer := ih (run ++ [byte])
        rw [length_append] at longer
        omega

theorem decodeBlocks_block {blocks : Nat} {code : UInt8} {block later : List UInt8}
    (sized : code.toNat = block.length + 1) :
    decodeBlocks (blocks + 1) (code :: (block ++ later)) =
      (decodeBlocks blocks later).map fun bytes =>
        block ++ if code ≠ 255 ∧ later ≠ [] then 0 :: bytes else bytes := by
  have size : code.toNat - 1 = block.length := by
    rw [sized, Nat.add_sub_cancel]
  have positive : code ≠ 0 := by
    rintro rfl
    exact nomatch sized
  have fits : ¬ (block ++ later).length < block.length := by
    rw [length_append]
    exact Nat.not_lt.mpr (Nat.le_add_right _ _)
  rw [decodeBlocks]
  simp [size, positive]

/-! ### Round trip -/

variable (run : List UInt8)

/-- The blocks of an encoding decode to the bytes, behind the run that is open. -/
theorem decodeBlocks_encodeFrom (short : run.length ≤ 253) (blocks : Nat)
    (enough : (encodeFrom run bytes).length ≤ blocks) :
    decodeBlocks blocks (encodeFrom run bytes) = some (run ++ bytes) := by
  induction bytes generalizing run blocks with
  | nil =>
    cases blocks with
    | zero => exact absurd enough (Nat.not_succ_le_zero _)
    | succ blocks =>
      have block := @decodeBlocks_block blocks (UInt8.ofNat (run.length + 1)) run []
        (toNat_ofNat_succ short)
      rw [append_nil] at block
      rw [encodeFrom, block]
      cases blocks <;> simp [decodeBlocks]
  | cons byte rest ih =>
    unfold encodeFrom at enough ⊢
    split
    · rename_i zero
      subst zero
      rw [if_pos rfl, cons_append, length_cons] at enough
      cases blocks with
      | zero => exact absurd enough (Nat.not_succ_le_zero _)
      | succ blocks =>
        rw [length_append] at enough
        rw [cons_append, decodeBlocks_block (toNat_ofNat_succ short),
          ih [] (Nat.zero_le _) blocks (by omega)]
        have separated : UInt8.ofNat (run.length + 1) ≠ 255 ∧ encodeFrom [] rest ≠ [] :=
          ⟨ofNat_succ_ne_full short, encodeFrom_ne_nil [] rest⟩
        rw [map_some, if_pos separated, nil_append]
    · rename_i nonzero
      rw [if_neg nonzero] at enough
      split
      · rename_i full
        rw [if_pos full, cons_append, length_cons] at enough
        cases blocks with
        | zero => exact absurd enough (Nat.not_succ_le_zero _)
        | succ blocks =>
          have sized : (255 : UInt8).toNat = (run ++ [byte]).length + 1 := by
            rw [length_append, length_singleton, full]
            rfl
          rw [length_append] at enough
          rw [cons_append, decodeBlocks_block sized,
            ih [] (Nat.zero_le _) blocks (by omega)]
          simp
      · rename_i partly
        rw [if_neg partly] at enough
        have longer : (run ++ [byte]).length ≤ 253 := by
          rw [length_append, length_singleton]
          omega
        rw [ih (run ++ [byte]) longer blocks enough, append_assoc]
        rfl

theorem decode_encode : decode (encode bytes) = some bytes :=
  decodeBlocks_encodeFrom bytes [] (Nat.zero_le _) _ le_rfl

/-! ### Zeros and lengths -/

theorem zero_not_mem_encodeFrom (short : run.length ≤ 253) (nonzero : 0 ∉ run) :
    0 ∉ encodeFrom run bytes := by
  induction bytes generalizing run with
  | nil =>
    rw [encodeFrom, mem_cons, not_or]
    exact ⟨(ofNat_succ_ne_zero short).symm, nonzero⟩
  | cons byte rest ih =>
    have later : 0 ∉ encodeFrom [] rest :=
      ih [] (Nat.zero_le _) not_mem_nil
    unfold encodeFrom
    split
    · rw [cons_append, mem_cons, mem_append, not_or, not_or]
      exact ⟨(ofNat_succ_ne_zero short).symm, nonzero, later⟩
    · rename_i present
      have extended : 0 ∉ run ++ [byte] := by
        rw [mem_append, mem_singleton, not_or]
        exact ⟨nonzero, Ne.symm present⟩
      split
      · rw [cons_append, mem_cons, mem_append, not_or, not_or]
        exact ⟨by decide, extended, later⟩
      · refine ih (run ++ [byte]) ?_ extended
        rw [length_append, length_singleton]
        omega

theorem zero_not_mem_encode : 0 ∉ encode bytes :=
  zero_not_mem_encodeFrom bytes [] (Nat.zero_le _) not_mem_nil

/-- Every 254 bytes cost one more, and a zero can only save that. -/
theorem length_encodeFrom (short : run.length ≤ 253) :
    (encodeFrom run bytes).length ≤
        run.length + bytes.length + (run.length + bytes.length) / 254 + 1 ∧
      (0 ∉ bytes → run.length + bytes.length + (run.length + bytes.length) / 254 + 1 ≤
        (encodeFrom run bytes).length) := by
  induction bytes generalizing run with
  | nil =>
    rw [encodeFrom, length_cons, length_nil]
    exact ⟨by omega, fun _ => by omega⟩
  | cons byte rest ih =>
    obtain ⟨later, reaches⟩ := ih [] (Nat.zero_le _)
    rw [length_nil, Nat.zero_add] at later reaches
    unfold encodeFrom
    split
    · next zero =>
      rw [length_cons, length_append, length_cons]
      exact ⟨by omega, fun nonzero => absurd (zero ▸ mem_cons_self) nonzero⟩
    · split
      · have carried : (run.length + (rest.length + 1)) / 254 = rest.length / 254 + 1 := by
          rw [show run.length + (rest.length + 1) = rest.length + 254 by omega]
          exact Nat.add_div_right _ (by decide)
        rw [cons_append, length_cons, length_append, length_append,
          length_singleton, length_cons, carried]
        refine ⟨by omega, fun nonzero => ?_⟩
        have reached := reaches (not_or.mp (mem_cons.not.mp nonzero)).2
        omega
      · have further := ih (run ++ [byte]) (by
          rw [length_append, length_singleton]
          omega)
        rw [length_append, length_singleton,
          show run.length + 1 + rest.length = run.length + (rest.length + 1) by omega] at further
        exact further.imp_right fun reached nonzero =>
          reached (not_or.mp (mem_cons.not.mp nonzero)).2

theorem length_encode_le : (encode bytes).length ≤ bytes.length + bytes.length / 254 + 1 := by
  have bound := (length_encodeFrom bytes [] (Nat.zero_le _)).1
  rw [length_nil, Nat.zero_add] at bound
  exact bound

/-- Without zeros the bound is met. -/
theorem length_encode_nonzero {bytes : List UInt8} (nonzero : 0 ∉ bytes) :
    (encode bytes).length = bytes.length + bytes.length / 254 + 1 := by
  have bound := (length_encodeFrom bytes [] (Nat.zero_le _)).2 nonzero
  rw [length_nil, Nat.zero_add] at bound
  exact (length_encode_le bytes).antisymm bound

theorem length_encodeFrom_zero (run rest : List UInt8) :
    (encodeFrom run (bytes ++ 0 :: rest)).length =
      (encodeFrom run bytes).length + (encode rest).length := by
  induction bytes generalizing run with
  | nil =>
    have closed : encodeFrom run (0 :: rest) = UInt8.ofNat (run.length + 1) :: run ++ encode rest :=
      if_pos rfl
    rw [nil_append, closed, length_append, encodeFrom]
  | cons byte later ih =>
    rw [cons_append, encodeFrom, encodeFrom]
    by_cases zero : byte = 0
    · rw [if_pos zero, if_pos zero, length_append, length_append, ih,
        Nat.add_assoc]
    · rw [if_neg zero, if_neg zero]
      by_cases full : run.length + 1 = 254
      · rw [if_pos full, if_pos full, length_append, length_append,
          ih, Nat.add_assoc]
      · rw [if_neg full, if_neg full, ih]

theorem length_encode_zero (rest : List UInt8) :
    (encode (bytes ++ 0 :: rest)).length = (encode bytes).length + (encode rest).length :=
  length_encodeFrom_zero bytes [] rest

section

variable {bytes : List UInt8}

/-- What decodes is longer than its bytes by no more than an encoding is. -/
theorem length_le_of_decodeBlocks {blocks : Nat}
    (decoded : decodeBlocks blocks encoded = some bytes) :
    encoded.length ≤ bytes.length + bytes.length / 254 + 1 := by
  induction blocks generalizing encoded bytes with
  | zero =>
    cases encoded with
    | nil => exact Nat.zero_le _
    | cons code rest => exact nomatch decoded
  | succ blocks ih =>
    cases encoded with
    | nil => exact Nat.zero_le _
    | cons code rest =>
      rcases ite_none_left_eq_some.mp decoded with ⟨fits, mapped⟩
      rcases map_eq_some_iff.mp mapped with ⟨later, further, rfl⟩
      rw [not_or, Nat.not_lt] at fits
      have bound := ih further
      have size : (rest.take (code.toNat - 1)).length = code.toNat - 1 := by
        rw [length_take, Nat.min_eq_left fits.2]
      rw [length_drop] at bound
      rw [length_cons, length_append, size]
      by_cases separated : code ≠ 255 ∧ rest.drop (code.toNat - 1) ≠ []
      · rw [if_pos separated, length_cons]
        have monotone : later.length / 254 ≤
            (code.toNat - 1 + (later.length + 1)) / 254 := Nat.div_le_div_right (by omega)
        omega
      · rw [if_neg separated]
        by_cases last : rest.drop (code.toNat - 1) = []
        · have ended : rest.length - (code.toNat - 1) = 0 := by
            rw [← length_drop, last, length_nil]
          omega
        · have full : code = 255 := by
            by_contra different
            exact separated ⟨different, last⟩
          subst full
          have carried : ((255 : UInt8).toNat - 1 + later.length) / 254 =
              later.length / 254 + 1 := by
            rw [Nat.add_comm]
            exact Nat.add_div_right _ (by decide)
          rw [carried]
          have value : (255 : UInt8).toNat = 255 := rfl
          omega

theorem length_le_of_decode (decoded : decode encoded = some bytes) :
    encoded.length ≤ bytes.length + bytes.length / 254 + 1 :=
  length_le_of_decodeBlocks decoded

/-- What decodes has at least one byte more than it stands for, unless it is empty. -/
theorem length_decodeBlocks_le {blocks : Nat} (decoded : decodeBlocks blocks encoded = some bytes) :
    bytes.length ≤ encoded.length - 1 := by
  induction blocks generalizing encoded bytes with
  | zero =>
    cases encoded with
    | nil =>
      cases decoded
      exact le_rfl
    | cons code rest => exact nomatch decoded
  | succ blocks ih =>
    cases encoded with
    | nil =>
      cases decoded
      exact le_rfl
    | cons code rest =>
      rcases ite_none_left_eq_some.mp decoded with ⟨fits, mapped⟩
      rcases map_eq_some_iff.mp mapped with ⟨later, further, rfl⟩
      rw [not_or, Nat.not_lt] at fits
      have bound := ih further
      rw [length_drop] at bound
      rw [length_cons, length_append, length_take, Nat.min_eq_left fits.2]
      split
      · rename_i separated
        have more : 0 < rest.length - (code.toNat - 1) := by
          rw [← length_drop]
          exact length_pos_iff.mpr separated.2
        rw [length_cons]
        omega
      · omega

end

theorem length_lt_encode : bytes.length < (encode bytes).length := by
  have bound : bytes.length ≤ (encode bytes).length - 1 :=
    length_decodeBlocks_le (decode_encode bytes)
  have positive : 0 < (encode bytes).length := length_pos_iff.mpr (encode_ne_nil bytes)
  omega

end Cobs
