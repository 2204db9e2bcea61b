/-
This file defines CBOR data items and a reader and a writer for them. The writer
gives definite lengths and the shortest heads; the reader accepts every
definite-length item and keeps arrays, maps, tags and the other simple values as
the bytes they take. What is written is read back.
-/

import Mathlib

namespace Solar.Cbor

open List Option

abbrev Bytes := List UInt8

/-- A data item. Negative numbers are `-1 - value`; text is kept as bytes. -/
inductive Item
  | unsigned (value : Nat)
  | negative (value : Nat)
  | bytes (content : Bytes)
  | text (content : Bytes)
  | boolean (value : Bool)
  | half (bits : BitVec 16)
  | single (bits : BitVec 32)
  | double (bits : BitVec 64)
  | other (content : Bytes)
  deriving DecidableEq

/-- The items that fit the 64-bit arguments of the heads. -/
def Item.Fits : Item → Prop
  | .unsigned value | .negative value => value < 2 ^ 64
  | .bytes content | .text content => content.length < 2 ^ 64
  | .boolean _ | .half _ | .single _ | .double _ => True
  | .other _ => False

/-! ### Numbers, highest byte first -/

def bigEndian : Nat → Nat → Bytes
  | 0, _ => []
  | size + 1, value => UInt8.ofNat (value / 256 ^ size) :: bigEndian size value

def ofBigEndian (bytes : Bytes) : Nat :=
  bytes.foldl (fun value byte => 256 * value + byte.toNat) 0

@[simp] theorem length_bigEndian (size value : Nat) : (bigEndian size value).length = size := by
  induction size with
  | zero => rfl
  | succ size ih => rw [bigEndian, length_cons, ih]

theorem foldl_bigEndian (size value start : Nat) :
    (bigEndian size value).foldl (fun value byte => 256 * value + byte.toNat) start =
      256 ^ size * start + value % 256 ^ size := by
  induction size generalizing start with
  | zero => simp [bigEndian, Nat.mod_one]
  | succ size ih =>
    have digit : (UInt8.ofNat (value / 256 ^ size)).toNat = value / 256 ^ size % 256 := by
      rw [UInt8.toNat_ofNat']
    rw [bigEndian, foldl_cons, ih, digit, Nat.pow_succ, Nat.mod_mul,
      Nat.mul_add, Nat.mul_assoc, Nat.add_assoc, Nat.add_comm (value % 256 ^ size)]

theorem ofBigEndian_bigEndian {size value : Nat} (small : value < 256 ^ size) :
    ofBigEndian (bigEndian size value) = value := by
  rw [ofBigEndian, foldl_bigEndian, Nat.mul_zero, Nat.zero_add, Nat.mod_eq_of_lt small]

/-! ### Heads -/

/-- The first byte of an item: its major type and the additional information. -/
def initial (major info : Nat) : UInt8 := UInt8.ofNat (32 * major + info)

/-- The shortest head of a major type and an argument. -/
def head (major argument : Nat) : Bytes :=
  if argument < 24 then [initial major argument]
  else if argument < 2 ^ 8 then initial major 24 :: bigEndian 1 argument
  else if argument < 2 ^ 16 then initial major 25 :: bigEndian 2 argument
  else if argument < 2 ^ 32 then initial major 26 :: bigEndian 4 argument
  else initial major 27 :: bigEndian 8 argument

/-- How many bytes of argument follow the first byte. -/
def argumentSize (info : Nat) : Option Nat :=
  if info < 24 then some 0
  else if info = 24 then some 1
  else if info = 25 then some 2
  else if info = 26 then some 4
  else if info = 27 then some 8
  else none

/-- A head as it was read: major type, additional information, argument. -/
structure Head where
  major : Nat
  info : Nat
  argument : Nat

/-- The first `count` bytes, if there are so many. -/
def take? (count : Nat) (bytes : Bytes) : Option (Bytes × Bytes) :=
  if count ≤ bytes.length then some (bytes.take count, bytes.drop count) else none

def readHead : Bytes → Option (Head × Bytes)
  | [] => none
  | byte :: rest => do
    let major := byte.toNat / 32
    let info := byte.toNat % 32
    let size ← argumentSize info
    let (digits, rest) ← take? size rest
    some (⟨major, info, if info < 24 then info else ofBigEndian digits⟩, rest)

theorem take?_append (first rest : Bytes) :
    take? first.length (first ++ rest) = some (first, rest) := by
  rw [take?, if_pos (by rw [length_append]; omega), take_left, drop_left]

theorem toNat_initial {major info : Nat} (few : major < 8) (small : info < 32) :
    (initial major info).toNat = 32 * major + info := by
  exact Nat.mod_eq_of_lt (by omega)

theorem readHead_short {major info : Nat} (few : major < 8) (small : info < 24) (rest : Bytes) :
    readHead (initial major info :: rest) = some (⟨major, info, info⟩, rest) := by
  have upper : (32 * major + info) / 32 = major := by omega
  have lower : (32 * major + info) % 32 = info := by omega
  simp only [readHead, toNat_initial few (Nat.lt_trans small (by decide)), upper, lower,
    argumentSize, if_pos small]
  rfl

theorem readHead_long (major info : Nat) {size argument : Nat} (few : major < 8) (small : info < 32)
    (large : 24 ≤ info) (sized : argumentSize info = some size) (fits : argument < 256 ^ size)
    (rest : Bytes) :
    readHead (initial major info :: bigEndian size argument ++ rest) =
      some (⟨major, info, argument⟩, rest) := by
  have upper : (32 * major + info) / 32 = major := by omega
  have lower : (32 * major + info) % 32 = info := by omega
  have taken : take? size (bigEndian size argument ++ rest) =
      some (bigEndian size argument, rest) := by
    simpa using take?_append (bigEndian size argument) rest
  rw [cons_append]
  simp [readHead, toNat_initial few small, upper, lower, sized, taken, if_neg (Nat.not_lt.mpr
    large), ofBigEndian_bigEndian fits]

theorem readHead_head (major : Nat) {argument : Nat} (few : major < 8) (fits : argument < 2 ^ 64)
    (rest : Bytes) :
    ∃ info, readHead (head major argument ++ rest) = some (⟨major, info, argument⟩, rest) := by
  unfold head
  split_ifs with tiny byte short word
  · exact ⟨argument, readHead_short few tiny rest⟩
  · exact ⟨24, readHead_long major 24 few (by decide) (by decide) rfl byte rest⟩
  · exact ⟨25, readHead_long major 25 few (by decide) (by decide) rfl short rest⟩
  · exact ⟨26, readHead_long major 26 few (by decide) (by decide) rfl word rest⟩
  · exact ⟨27, readHead_long major 27 few (by decide) (by decide) rfl fits rest⟩

/-! ### Items -/

def write : Item → Bytes
  | .unsigned value => head 0 value
  | .negative value => head 1 value
  | .bytes content => head 2 content.length ++ content
  | .text content => head 3 content.length ++ content
  | .boolean value => [initial 7 (if value then 21 else 20)]
  | .half bits => initial 7 25 :: bigEndian 2 bits.toNat
  | .single bits => initial 7 26 :: bigEndian 4 bits.toNat
  | .double bits => initial 7 27 :: bigEndian 8 bits.toNat
  | .other content => content

mutual

/-- The bytes after one item. The fuel bounds the depth of nesting and the number of items. -/
def skip : Nat → Bytes → Option Bytes
  | 0, _ => none
  | fuel + 1, bytes => do
    let (found, rest) ← readHead bytes
    match found.major with
    | 0 | 1 | 7 => some rest
    | 2 | 3 => (take? found.argument rest).map Prod.snd
    | 4 => skipAll fuel found.argument rest
    | 5 => skipAll fuel (2 * found.argument) rest
    | _ => skip fuel rest

/-- The bytes after `count` items. -/
def skipAll : Nat → Nat → Bytes → Option Bytes
  | _, 0, bytes => some bytes
  | 0, _ + 1, _ => none
  | fuel + 1, count + 1, bytes => do skipAll fuel count (← skip fuel bytes)

end

/-- Keep an item as the bytes it takes. -/
def readOther (bytes : Bytes) : Option (Item × Bytes) := do
  let rest ← skip (2 * bytes.length + 1) bytes
  some (.other (bytes.take (bytes.length - rest.length)), rest)

def read (bytes : Bytes) : Option (Item × Bytes) := do
  let (found, rest) ← readHead bytes
  match found.major, found.info with
  | 0, _ => some (.unsigned found.argument, rest)
  | 1, _ => some (.negative found.argument, rest)
  | 2, _ => (take? found.argument rest).map fun (content, rest) => (.bytes content, rest)
  | 3, _ => (take? found.argument rest).map fun (content, rest) => (.text content, rest)
  | 7, 20 => some (.boolean false, rest)
  | 7, 21 => some (.boolean true, rest)
  | 7, 25 => some (.half (BitVec.ofNat 16 found.argument), rest)
  | 7, 26 => some (.single (BitVec.ofNat 32 found.argument), rest)
  | 7, 27 => some (.double (BitVec.ofNat 64 found.argument), rest)
  | _, _ => readOther bytes

/-- The head of a map of so many pairs. -/
def mapHead (count : Nat) : Bytes := head 5 count

def readMapHead (bytes : Bytes) : Option (Nat × Bytes) := do
  let (found, rest) ← readHead bytes
  if found.major = 5 then some (found.argument, rest) else none

/-- A written item is read back, and the bytes behind it are left. -/
theorem read_write {item : Item} (fits : item.Fits) (rest : Bytes) :
    read (write item ++ rest) = some (item, rest) := by
  cases item with
  | unsigned value =>
    obtain ⟨info, found⟩ := readHead_head 0 (by decide) fits rest
    simp [read, write, found]
  | negative value =>
    obtain ⟨info, found⟩ := readHead_head 1 (by decide) fits rest
    simp [read, write, found]
  | bytes content =>
    obtain ⟨info, found⟩ := readHead_head 2 (by decide) fits (content ++ rest)
    simp [read, write, found, take?_append]
  | text content =>
    obtain ⟨info, found⟩ := readHead_head 3 (by decide) fits (content ++ rest)
    simp [read, write, found, take?_append]
  | boolean value =>
    cases value with
    | false =>
      simp [read, write, readHead_short (show (7 : Nat) < 8 by decide) (show (20 : Nat) < 24 by decide)]
    | true =>
      simp only [read, write, if_true, singleton_append,
        readHead_short (show (7 : Nat) < 8 by decide) (show (21 : Nat) < 24 by decide),
        bind_eq_bind, bind_some]
  | half bits =>
    have found := readHead_long 7 25 (by decide) (by decide) (by decide) rfl
      (show bits.toNat < 256 ^ 2 from bits.isLt) rest
    simp only [read, write, found, bind_eq_bind, bind_some, BitVec.ofNat_toNat, BitVec.setWidth_eq]
  | single bits =>
    have found := readHead_long 7 26 (by decide) (by decide) (by decide) rfl
      (show bits.toNat < 256 ^ 4 from bits.isLt) rest
    simp only [read, write, found, bind_eq_bind, bind_some, BitVec.ofNat_toNat, BitVec.setWidth_eq]
  | double bits =>
    have found := readHead_long 7 27 (by decide) (by decide) (by decide) rfl
      (show bits.toNat < 256 ^ 8 from bits.isLt) rest
    simp only [read, write, found, bind_eq_bind, bind_some, BitVec.ofNat_toNat, BitVec.setWidth_eq]
  | other content => exact absurd fits id

theorem readMapHead_mapHead {count : Nat} (fits : count < 2 ^ 64) (rest : Bytes) :
    readMapHead (mapHead count ++ rest) = some (count, rest) := by
  obtain ⟨info, found⟩ := readHead_head 5 (by decide) fits rest
  simp [readMapHead, mapHead, found]

end Solar.Cbor
