/-
This file models the floating-point conversions of the CBOR codec on the bits of
the numbers: the firmware's own conversions between single and half precision,
and the built-in ones between double and single precision, which also make a NaN quiet.
The encoder narrows a number only after the comparison of the narrowed number with the
original, and a comparison that succeeds leaves nothing lost.
-/

import Solar.Remote.Schema

namespace Solar.Remote.Cbor

/-! ### Half precision -/

/-- `float_to_half`. -/
def floatToHalf (value : BitVec 32) : BitVec 16 :=
  let sign : BitVec 16 := ((value >>> 16) &&& 0x8000).truncate 16
  let exponent : Int := (((value >>> 23) &&& 0xFF).toNat : Int) - 127 + 15
  let mantissa := value &&& 0x7FFFFF
  if exponent ≤ 0 then
    if exponent < -10 then
      sign
    else
      let mantissa := mantissa ||| 0x800000
      let shift := (14 - exponent).toNat
      let half := ((1 : BitVec 32) <<< (shift - 1)) - 1
      let rounded := (mantissa + half + ((mantissa >>> shift) &&& 1)) >>> shift
      sign ||| rounded.truncate 16
  else if 31 ≤ exponent then
    sign ||| 0x7C00 ||| (if mantissa ≠ 0 then 0x0200 else 0)
  else
    let mantissa := mantissa + (0x0FFF + ((mantissa >>> 13) &&& 1))
    if mantissa &&& 0x800000 ≠ 0 then
      if 31 ≤ exponent + 1 then
        sign ||| 0x7C00
      else
        sign ||| (BitVec.ofInt 16 (exponent + 1) <<< 10)
    else
      sign ||| (BitVec.ofInt 16 exponent <<< 10) ||| (mantissa >>> 13).truncate 16

/-- The loop of `half_to_float` that shifts the leading bit of a subnormal into place. Ten rounds
are enough for its ten bits. -/
def normalize : Nat → Nat → BitVec 32 → Nat × BitVec 32
  | 0, adjustment, mantissa => (adjustment, mantissa)
  | rounds + 1, adjustment, mantissa =>
    if (mantissa <<< 1) &&& 0x0400 = 0 then
      normalize rounds (adjustment + 1) (mantissa <<< 1)
    else
      (adjustment, mantissa <<< 1)

/-- `half_to_float`. -/
def halfToFloat (value : BitVec 16) : BitVec 32 :=
  let sign : BitVec 32 := (value &&& 0x8000).zeroExtend 32 <<< 16
  let exponent : BitVec 32 := ((value >>> 10) &&& 0x1F).zeroExtend 32
  let mantissa : BitVec 32 := (value &&& 0x03FF).zeroExtend 32
  if exponent = 0 then
    if mantissa = 0 then
      sign
    else
      let (adjustment, mantissa) := normalize 10 0 mantissa
      sign ||| (BitVec.ofNat 32 (127 - 15 - adjustment) <<< 23) ||| ((mantissa &&& 0x03FF) <<< 13)
  else if exponent = 31 then
    sign ||| 0x7F800000 ||| (mantissa <<< 13)
  else
    sign ||| ((exponent + (127 - 15)) <<< 23) ||| (mantissa <<< 13)

/-! ### Double precision -/

/-- Shift right, rounding to the nearest and ties to even. -/
def roundShift (mantissa shift : Nat) : Nat :=
  (mantissa + (2 ^ (shift - 1) - 1) + mantissa / 2 ^ shift % 2) / 2 ^ shift

section

variable (exponent mantissa : Nat)

/-- The exponent and mantissa of a `double` in a `float`. The payload of a NaN is kept as far as it
fits. -/
def narrowParts : Nat :=
  if exponent = 2047 then
    255 * 2 ^ 23 +
      (if mantissa = 0 then 0 else if mantissa / 2 ^ 29 = 0 then 2 ^ 22 else mantissa / 2 ^ 29)
  else if 1151 ≤ exponent then 255 * 2 ^ 23
  else if 897 ≤ exponent then (exponent - 896) * 2 ^ 23 + roundShift mantissa 29
  else if exponent = 0 then 0
  else roundShift (2 ^ 52 + mantissa) (926 - exponent)

/-- The bits of a `float` for those of a `double`. -/
def narrowBits (value : BitVec 64) : BitVec 32 :=
  BitVec.ofNat 32 (value.toNat / 2 ^ 63 * 2 ^ 31 +
    narrowParts (value.toNat / 2 ^ 52 % 2048) (value.toNat % 2 ^ 52))

/-- The exponent of a `float` in a `double`. -/
def widenExponent : Nat :=
  if exponent = 255 then 2047
  else if 1 ≤ exponent then exponent + 896
  else if mantissa = 0 then 0
  else mantissa.log2 + 874

/-- The mantissa of a `float` in a `double`, where every number but zero is normal. -/
def widenMantissa : Nat :=
  if exponent = 0 ∧ mantissa ≠ 0 then (mantissa - 2 ^ mantissa.log2) * 2 ^ (52 - mantissa.log2)
  else mantissa * 2 ^ 29

end

/-- The number of a `float` as a `double`. -/
def widenBits (value : BitVec 32) : BitVec 64 :=
  let exponent := value.toNat / 2 ^ 23 % 256
  let mantissa := value.toNat % 2 ^ 23
  BitVec.ofNat 64 (value.toNat / 2 ^ 31 * 2 ^ 63 +
    (widenExponent exponent mantissa * 2 ^ 52 + widenMantissa exponent mantissa))

/-! ### Comparison -/

def infinity32 : Nat := 0x7F800000
def infinity64 : Nat := 0x7FF0000000000000

/-- The magnitude of a number, with its sign taken off. -/
def magnitude {bits : Nat} (value : BitVec bits) : Nat := value.toNat % 2 ^ (bits - 1)

/-- Not a number: the magnitude is above that of infinity. -/
def IsNan {bits : Nat} (infinity : Nat) (value : BitVec bits) : Prop := infinity < magnitude value

instance {bits : Nat} (infinity : Nat) (value : BitVec bits) : Decidable (IsNan infinity value) :=
  inferInstanceAs (Decidable (_ < _))

/-- A NaN is a signalling one if the first bit of its mantissa is not set. -/
def Signalling {bits : Nat} (infinity first : Nat) (value : BitVec bits) : Prop :=
  IsNan infinity value ∧ value.toNat / first % 2 = 0

instance {bits : Nat} (infinity first : Nat) (value : BitVec bits) :
    Decidable (Signalling infinity first value) := inferInstanceAs (Decidable (_ ∧ _))

/-- What an operation makes of a NaN: it sets the first bit of the mantissa. -/
def quiet {bits : Nat} (infinity first : Nat) (value : BitVec bits) : BitVec bits :=
  if Signalling infinity first value then value + BitVec.ofNat bits first else value

/-- The conversion from `double` to `float`. -/
def narrow (value : BitVec 64) : BitVec 32 := quiet infinity32 (2 ^ 22) (narrowBits value)

/-- The conversion from `float` to `double`. -/
def widen (value : BitVec 32) : BitVec 64 := quiet infinity64 (2 ^ 51) (widenBits value)

/-- The comparison `==`, under which the two zeros are equal and no number is not a number. -/
def Equals {bits : Nat} (infinity : Nat) (left right : BitVec bits) : Prop :=
  ¬IsNan infinity left ∧ ¬IsNan infinity right ∧
    (left = right ∨ magnitude left = 0 ∧ magnitude right = 0)

instance {bits : Nat} (infinity : Nat) (left right : BitVec bits) :
    Decidable (Equals infinity left right) := inferInstanceAs (Decidable (_ ∧ _ ∧ _))

theorem eq_zero_of_magnitude {bits : Nat} (positive : 0 < bits) {value : BitVec bits}
    (zero : magnitude value = 0) : value = 0 ∨ value = BitVec.ofNat bits (2 ^ (bits - 1)) := by
  have double : 2 ^ bits = 2 * 2 ^ (bits - 1) := by
    rw [← Nat.pow_succ', Nat.succ_eq_add_one, Nat.sub_add_cancel positive]
  have half : value.toNat % 2 ^ (bits - 1) = 0 := zero
  obtain ⟨factor, product⟩ := Nat.dvd_of_mod_eq_zero half
  have small : 2 ^ (bits - 1) * factor < 2 ^ (bits - 1) * 2 := by
    rw [← product, Nat.mul_comm _ 2, ← double]
    exact value.isLt
  have cases : factor = 0 ∨ factor = 1 := by
    have := Nat.lt_of_mul_lt_mul_left small
    omega
  rcases cases with rfl | rfl
  · exact .inl (BitVec.eq_of_toNat_eq (by simpa using product))
  · refine .inr (BitVec.eq_of_toNat_eq ?_)
    rw [BitVec.toNat_ofNat, Nat.mod_eq_of_lt, product, Nat.mul_one]
    omega

variable {value : BitVec 32}

theorem halfToFloat_floatToHalf (same : Equals infinity32 (halfToFloat (floatToHalf value)) value) :
    halfToFloat (floatToHalf value) = value := by
  obtain ⟨-, -, equal | ⟨-, zero⟩⟩ := same
  · exact equal
  · rcases eq_zero_of_magnitude (by decide) zero with rfl | rfl <;> decide

theorem widen_narrow {value : BitVec 64} (same : Equals infinity64 (widen (narrow value)) value) :
    widen (narrow value) = value := by
  obtain ⟨-, -, equal | ⟨-, zero⟩⟩ := same
  · exact equal
  · rcases eq_zero_of_magnitude (by decide) zero with rfl | rfl <;> decide

/-! ### Single precision within double precision -/

theorem roundShift_mul {value : Nat} {shift : Nat} (positive : 0 < shift) :
    roundShift (value * 2 ^ shift) shift = value := by
  have whole : 2 ^ shift = 2 * 2 ^ (shift - 1) := by
    rw [← Nat.pow_succ', Nat.succ_eq_add_one, Nat.sub_add_cancel positive]
  have one := Nat.two_pow_pos (shift - 1)
  rw [roundShift, Nat.mul_div_cancel _ (Nat.two_pow_pos shift), Nat.add_assoc,
    Nat.mul_comm value, Nat.mul_add_div (Nat.two_pow_pos shift), Nat.div_eq_of_lt, Nat.add_zero]
  omega

variable {mantissa : Nat}

theorem double_parts {sign exponent : Nat} (bit : sign < 2) (small : exponent < 2048)
    (short : mantissa < 2 ^ 52) :
    let value := BitVec.ofNat 64 (sign * 2 ^ 63 + (exponent * 2 ^ 52 + mantissa))
    value.toNat / 2 ^ 63 = sign ∧ value.toNat / 2 ^ 52 % 2048 = exponent ∧
      value.toNat % 2 ^ 52 = mantissa := by
  simp only [BitVec.toNat_ofNat]
  omega

theorem widen_subnormal (nonzero : mantissa ≠ 0) (short : mantissa < 2 ^ 23) :
    mantissa.log2 ≤ 22 ∧ (mantissa - 2 ^ mantissa.log2) * 2 ^ (52 - mantissa.log2) < 2 ^ 52 ∧
      2 ^ 52 + (mantissa - 2 ^ mantissa.log2) * 2 ^ (52 - mantissa.log2) =
        mantissa * 2 ^ (52 - mantissa.log2) := by
  have low := Nat.log2_self_le nonzero
  have high : mantissa < 2 ^ (mantissa.log2 + 1) := Nat.lt_log2_self
  have few : mantissa.log2 < 23 := (Nat.log2_lt nonzero).mpr short
  have power : 2 ^ mantissa.log2 * 2 ^ (52 - mantissa.log2) = 2 ^ 52 := by
    rw [← Nat.pow_add, Nat.add_sub_cancel' (by omega)]
  refine ⟨by omega, ?_, ?_⟩
  · rw [← power]
    refine Nat.mul_lt_mul_of_pos_right ?_ (Nat.two_pow_pos _)
    omega
  · rw [← power, ← Nat.add_mul, Nat.add_sub_cancel' low]

theorem widen_parts_lt {exponent : Nat} (small : exponent < 256) (short : mantissa < 2 ^ 23) :
    widenExponent exponent mantissa < 2048 ∧ widenMantissa exponent mantissa < 2 ^ 52 := by
  constructor
  · unfold widenExponent
    split_ifs with top normal zero
    · decide
    · omega
    · decide
    · have := (widen_subnormal zero short).1
      omega
  · unfold widenMantissa
    split_ifs with subnormal
    · exact (widen_subnormal subnormal.2 short).2.1
    · omega

theorem narrowParts_widen {exponent : Nat} (small : exponent < 256) (short : mantissa < 2 ^ 23) :
    narrowParts (widenExponent exponent mantissa) (widenMantissa exponent mantissa) =
      exponent * 2 ^ 23 + mantissa := by
  by_cases normal : 1 ≤ exponent
  · have mantissas : widenMantissa exponent mantissa = mantissa * 2 ^ 29 := by
      rw [widenMantissa, if_neg (by omega)]
    by_cases top : exponent = 255
    · have exponents : widenExponent exponent mantissa = 2047 := by
        rw [widenExponent, if_pos top]
      rw [exponents, mantissas, narrowParts, if_pos rfl, Nat.mul_div_cancel _ (by decide), top]
      by_cases zero : mantissa = 0
      · subst zero
        rw [Nat.zero_mul, if_pos rfl]
      · rw [if_neg (Nat.mul_ne_zero zero (by decide)), if_neg zero]
    · have exponents : widenExponent exponent mantissa = exponent + 896 := by
        rw [widenExponent, if_neg top, if_pos normal]
      rw [exponents, mantissas, narrowParts, if_neg (by omega), if_neg (by omega), if_pos (by omega),
        roundShift_mul (by decide), Nat.add_sub_cancel]
  · obtain rfl : exponent = 0 := by omega
    by_cases zero : mantissa = 0
    · subst zero
      decide
    · obtain ⟨few, -, shifted⟩ := widen_subnormal zero short
      have exponents : widenExponent 0 mantissa = mantissa.log2 + 874 := by
        rw [widenExponent, if_neg (by decide), if_neg (by decide), if_neg zero]
      have mantissas : widenMantissa 0 mantissa =
          (mantissa - 2 ^ mantissa.log2) * 2 ^ (52 - mantissa.log2) := by
        rw [widenMantissa, if_pos ⟨rfl, zero⟩]
      have shift : 926 - (mantissa.log2 + 874) = 52 - mantissa.log2 := by omega
      rw [exponents, mantissas, narrowParts, if_neg (by omega), if_neg (by omega), if_neg (by omega),
        if_neg (by omega), shifted, shift, roundShift_mul (by omega), Nat.zero_mul,
        Nat.zero_add]

theorem narrowBits_widenBits (value : BitVec 32) : narrowBits (widenBits value) = value := by
  have sign : value.toNat / 2 ^ 31 < 2 := by omega
  have small : value.toNat / 2 ^ 23 % 256 < 256 := Nat.mod_lt _ (by decide)
  have short : value.toNat % 2 ^ 23 < 2 ^ 23 := Nat.mod_lt _ (by decide)
  obtain ⟨exponents, mantissas⟩ := widen_parts_lt small short
  obtain ⟨signPart, exponentPart, mantissaPart⟩ := double_parts sign exponents mantissas
  rw [narrowBits, widenBits]
  simp only [signPart, exponentPart, mantissaPart, narrowParts_widen small short]
  refine BitVec.eq_of_toNat_eq ?_
  rw [BitVec.toNat_ofNat]
  omega

/-! ### NaNs -/

theorem quiet_of_not {bits infinity first : Nat} {value : BitVec bits}
    (plain : ¬Signalling infinity first value) : quiet infinity first value = value := if_neg plain

theorem signalling_widenBits :
    Signalling infinity64 (2 ^ 51) (widenBits value) ↔ Signalling infinity32 (2 ^ 22) value := by
  have sign : value.toNat / 2 ^ 31 < 2 := by omega
  have small : value.toNat / 2 ^ 23 % 256 < 256 := Nat.mod_lt _ (by decide)
  have short : value.toNat % 2 ^ 23 < 2 ^ 23 := Nat.mod_lt _ (by decide)
  obtain ⟨exponents, mantissas⟩ := widen_parts_lt small short
  simp only [Signalling, IsNan, magnitude, widenBits, BitVec.toNat_ofNat, infinity32, infinity64]
  by_cases top : value.toNat / 2 ^ 23 % 256 = 255
  · rw [top, widenExponent, if_pos rfl, widenMantissa, if_neg (by omega)]
    omega
  · have lower : widenExponent (value.toNat / 2 ^ 23 % 256) (value.toNat % 2 ^ 23) < 2047 := by
      unfold widenExponent
      split_ifs with normal zero
      · omega
      · decide
      · have := (widen_subnormal zero short).1
        omega
    omega

/-- A number that is no signalling NaN is the same in double precision. -/
theorem widen_eq (plain : ¬Signalling infinity32 (2 ^ 22) value) :
    widen value = widenBits value := quiet_of_not (mt signalling_widenBits.mp plain)

theorem narrow_widen (plain : ¬Signalling infinity32 (2 ^ 22) value) :
    narrow (widen value) = value := by
  rw [widen_eq plain, narrow, narrowBits_widenBits, quiet_of_not plain]

theorem widen_ne (trap : Signalling infinity32 (2 ^ 22) value) : widen value ≠ widenBits value := by
  rw [widen, quiet, if_pos (signalling_widenBits.mpr trap)]
  exact fun same => absurd (add_eq_left.mp same) (by decide)

theorem isNan_widen (trap : Signalling infinity32 (2 ^ 22) value) :
    IsNan infinity64 (widen value) := by
  obtain ⟨nan, unset⟩ := signalling_widenBits.mpr trap
  rw [widen, quiet, if_pos ⟨nan, unset⟩]
  unfold IsNan magnitude infinity64 at nan ⊢
  rw [BitVec.toNat_add, BitVec.toNat_ofNat]
  omega

theorem narrowParts_nan (some : mantissa ≠ 0) (short : mantissa < 2 ^ 52) :
    255 * 2 ^ 23 < narrowParts 2047 mantissa ∧ narrowParts 2047 mantissa < 2 ^ 31 := by
  rw [narrowParts, if_pos rfl, if_neg some]
  split_ifs <;> omega

/-- A NaN stays one. -/
theorem isNan_narrow {value : BitVec 64} (nan : IsNan infinity64 value) :
    IsNan infinity32 (narrow value) := by
  have kept : IsNan infinity32 (narrowBits value) := by
    unfold IsNan magnitude infinity64 at nan
    unfold IsNan magnitude infinity32 narrowBits
    have top : value.toNat / 2 ^ 52 % 2048 = 2047 := by omega
    have some : value.toNat % 2 ^ 52 ≠ 0 := by omega
    have parts := narrowParts_nan some (Nat.mod_lt _ (by decide))
    rw [top, BitVec.toNat_ofNat]
    omega
  unfold narrow quiet
  split_ifs with trap
  · obtain ⟨_, unset⟩ := trap
    unfold IsNan magnitude infinity32 at kept ⊢
    rw [BitVec.toNat_add, BitVec.toNat_ofNat]
    omega
  · exact kept

end Solar.Remote.Cbor
