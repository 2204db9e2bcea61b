/-
This file proves what the envelope of a record detects. A byte of the header is
compared with what is expected of it, and the checksum of the payload depends on
every byte: its step loses neither the hash nor the byte. The version is only
compared, so one changed byte can turn the record of another version into one
of the current version.
-/

import Solar.Parameters.Groups

namespace Solar.Parameters

open List Words

/-! ### The checksum -/

/-- One byte of `checksum`. -/
def hashByte (hash : UInt32) (byte : UInt8) : UInt32 := (hash ^^^ byte.toUInt32) * 16777619

theorem xor_eq_of_hashByte {first second : UInt32} {byte other : UInt8}
    (same : hashByte first byte = hashByte second other) :
    first ^^^ byte.toUInt32 = second ^^^ other.toUInt32 := by
  -- The multiplier is odd, so it has an inverse.
  have inverse : (16777619 : UInt32) * 899433627 = 1 := rfl
  have restored := congrArg (· * (899433627 : UInt32)) same
  simpa only [hashByte, UInt32.mul_assoc, inverse, UInt32.mul_one] using restored

theorem foldl_hashByte_inj {first second : UInt32} {bytes : Bytes}
    (same : bytes.foldl hashByte first = bytes.foldl hashByte second) : first = second := by
  induction bytes generalizing first second with
  | nil => exact same
  | cons byte rest ih => exact (UInt32.xor_left_inj _).mp (xor_eq_of_hashByte (ih same))

theorem set_eq_of_foldl_hashByte {hash : UInt32} {bytes : Bytes} {index : Nat} {byte : UInt8}
    (same : (bytes.set index byte).foldl hashByte hash = bytes.foldl hashByte hash) :
    bytes.set index byte = bytes := by
  induction bytes generalizing hash index with
  | nil => rfl
  | cons first rest ih =>
    cases index with
    | zero =>
      have bits := (UInt32.xor_right_inj _).mp (xor_eq_of_hashByte (foldl_hashByte_inj same))
      rw [set_cons_zero, UInt8.toUInt32_inj.mp bits]
    | succ index => rw [set_cons_succ, ih same]

/-! ### Accepted records -/

section

variable (record : DecodedRecord)

/-- What `encode_record` writes before the payload. The kind may be any value of its type. -/
def DecodedRecord.header : Bytes :=
  littleEndian 4 recordMagic ++ [record.kind, 0] ++ littleEndian 2 record.version.toNat ++
    littleEndian 8 record.stableId.toNat ++ littleEndian 4 record.payload.length ++
    littleEndian 4 (checksum record.payload).toNat

/-- The image that `encode_record` writes. -/
def DecodedRecord.image : Bytes := record.header ++ record.payload

theorem DecodedRecord.length_header : record.header.length = 24 := by
  simp [header]

end

/-- One byte of a record is another than it was, and not the reserved one. -/
structure Corrupts (record : Bytes) (index : Nat) (byte : UInt8) : Prop where
  inside : index < record.length
  reserved : index ≠ 5
  changed : record[index]? ≠ some byte

variable {input record payload : Bytes} {decoded other : DecodedRecord} {index : Nat} {byte : UInt8}

theorem drop_eq_littleEndian (input : Bytes) {size offset : Nat}
    (inside : offset + size ≤ input.length) : input.drop offset =
      littleEndian size (readLittle size input offset) ++ input.drop (offset + size) := by
  have length : ((input.drop offset).take size).length = size := by
    rw [length_take, length_drop]
    omega
  have word := littleEndian_ofLittleEndian ((input.drop offset).take size)
  rw [length] at word
  rw [readLittle, word, ← drop_drop, take_append_drop]

theorem readLittle_lt (input : Bytes) (size offset : Nat) :
    readLittle size input offset < 256 ^ size :=
  Nat.lt_of_lt_of_le (ofLittleEndian_lt _) (Nat.pow_le_pow_right (by decide) (length_take_le ..))

/-- Only images are accepted, but for the reserved byte. -/
theorem set_eq_image (accepted : decodeRecord input = .ok decoded) :
    input.set 5 0 = decoded.image := by
  unfold decodeRecord at accepted
  split_ifs at accepted with magic size sum
  obtain rfl := Except.ok.inj accepted
  simp only [not_or, Nat.not_lt, not_not, ne_eq, envelopeSize] at magic size sum
  obtain ⟨long, magic⟩ := magic
  have kind : input.drop 4 = input.getD 4 0 :: input.drop 5 := by
    rw [drop_eq_getElem_cons (by omega), getD_eq_getElem _ _ (by omega)]
  have start := drop_eq_littleEndian input (show 0 + 4 ≤ input.length by omega)
  rw [drop_zero, magic, Nat.zero_add, kind] at start
  have front : input.take 5 = littleEndian 4 recordMagic ++ [input.getD 4 0] := by
    rw [start, take_append, length_littleEndian, take_of_length_le (by simp)]
    rfl
  have whole := drop_eq_littleEndian input (show 20 + 4 ≤ input.length by omega)
  have payload : (input.drop 24).take (readLittle 4 input 16) = input.drop 24 :=
    take_of_length_le (by rw [length_drop]; omega)
  have version := readLittle_lt input 2 6
  have stableId := readLittle_lt input 8 8
  rw [set_eq_take_append_cons_drop, if_pos (by omega), front,
    drop_eq_littleEndian input (show 6 + 2 ≤ input.length by omega),
    drop_eq_littleEndian input (show 8 + 8 ≤ input.length by omega),
    drop_eq_littleEndian input (show 16 + 4 ≤ input.length by omega), whole, ← sum]
  unfold DecodedRecord.image DecodedRecord.header
  have length : (input.drop 24).length = readLittle 4 input 16 := by rw [length_drop]; omega
  simp only [envelopeSize, payload, length, UInt16.toNat_ofNat_of_lt' version,
    UInt64.toNat_ofNat_of_lt' stableId]
  simp

/-- A corrupted record is refused, or it is the record of another key or version. -/
theorem decodeRecord_corrupted (accepted : decodeRecord input = .ok decoded)
    (corrupts : Corrupts input index byte)
    (again : decodeRecord (input.set index byte) = .ok other) :
    (other.kind, other.stableId, other.version) ≠
      (decoded.kind, decoded.stableId, decoded.version) := by
  intro same
  simp only [Prod.mk.injEq] at same
  obtain ⟨kind, stableId, version⟩ := same
  have image := set_eq_image again
  rw [set_comm _ _ corrupts.reserved, set_eq_image accepted] at image
  suffices kept : decoded.image.set index byte = decoded.image by
    refine corrupts.changed ?_
    have there := congrArg (·[index]?) kept
    rw [← set_eq_image accepted, getElem?_set_self (by simpa using corrupts.inside),
      getElem?_set_ne corrupts.reserved.symm] at there
    exact there.symm
  unfold DecodedRecord.image at image ⊢
  by_cases inHeader : index < 24
  · rw [set_append_left _ _ (by rwa [decoded.length_header])] at image ⊢
    obtain ⟨headers, payloads⟩ := append_inj image (by simp [DecodedRecord.length_header])
    rw [headers]
    simp only [DecodedRecord.header, kind, stableId, version, payloads]
  · rw [set_append_right _ _ (by rw [decoded.length_header]; omega)] at image ⊢
    obtain ⟨headers, payloads⟩ := append_inj image (by simp [DecodedRecord.length_header])
    have sums := (append_inj' headers (by simp)).2
    have sum : checksum decoded.payload = checksum other.payload := by
      refine UInt32.toNat_inj.mp ?_
      have words := congrArg ofLittleEndian sums
      rwa [ofLittleEndian_littleEndian (checksum decoded.payload).toNat_lt,
        ofLittleEndian_littleEndian (checksum other.payload).toNat_lt] at words
    rw [← payloads] at sum
    rw [set_eq_of_foldl_hashByte sum.symm]

/-! ### Scalar codecs -/

/-- The types of `ScalarCodec`: a `bool`, or a number or an enumeration by its bits. -/
inductive ScalarType
  | boolean
  | word (size : Nat)

namespace ScalarType

abbrev Value : ScalarType → Type
  | .boolean => Bool
  | .word size => BitVec (8 * size)

def encodedSize : ScalarType → Nat
  | .boolean => 1
  | .word size => size

def scalarBits : (type : ScalarType) → type.Value → Nat
  | .boolean => Bool.toNat
  | .word _ => BitVec.toNat

def scalarValue : (type : ScalarType) → Nat → type.Value
  | .boolean => (· != 0)
  | .word size => BitVec.ofNat (8 * size)

theorem scalarBits_lt (type : ScalarType) {value : type.Value} :
    type.scalarBits value < 256 ^ type.encodedSize := by
  cases type with
  | boolean => exact Nat.lt_of_le_of_lt value.toNat_le (by decide)
  | word size => exact Nat.lt_of_lt_of_eq value.isLt (Nat.pow_mul 2 8 size)

theorem scalarValue_scalarBits (type : ScalarType) (value : type.Value) :
    type.scalarValue (type.scalarBits value) = value := by
  cases type with
  | boolean => cases value <;> rfl
  | word size => simp [scalarValue, scalarBits]

end ScalarType

/-- The codec is the `ScalarCodec` of a type that holds these values. -/
def Codec.IsScalar {Value : Type} (codec : Codec Value) : Prop :=
  ∃ (type : ScalarType) (held : Value ≃ type.Value), codec = scalarCodec type.encodedSize
    (fun value => type.scalarBits (held value)) fun bits => held.symm (type.scalarValue bits)

theorem Codec.IsScalar.lawful {Value : Type} {codec : Codec Value} (scalar : codec.IsScalar) :
    codec.Lawful := by
  obtain ⟨type, held, rfl⟩ := scalar
  refine lawful_scalarCodec (fun value => type.scalarBits_lt) fun value => ?_
  rw [type.scalarValue_scalarBits, held.symm_apply_apply]

theorem Codec.IsScalar.encodeFull {Value : Type} {codec : Codec Value} (scalar : codec.IsScalar)
    (value : Value) : ∃ bytes, codec.encodeFull value = .ok bytes := by
  obtain ⟨type, held, rfl⟩ := scalar
  exact ⟨_, if_neg (not_not.mpr (length_littleEndian ..))⟩

namespace Facility

variable {A : Architecture} {parameter : A.Parameter}

theorem encodes_of_scalar {members : List A.Parameter}
    (scalar : ∀ member ∈ members, (A.declaration member).codec.IsScalar) {values : Values A} :
    ∃ payload, Encodes A members values payload := by
  induction members with
  | nil => exact ⟨[], rfl⟩
  | cons member rest ih =>
    obtain ⟨bytes, written⟩ := (scalar member mem_cons_self).encodeFull (values member)
    obtain ⟨more, encoded⟩ := ih fun other listed =>
      scalar other (mem_cons_of_mem _ listed)
    unfold Encodes at encoded ⊢
    exact ⟨bytes ++ more, by simp only [encodeGroupPayload, written, encoded]⟩

/-! ### Loading -/

/-- Without a migration, a corrupted record of the parameter gives no value. -/
theorem readParameterRecord_corrupted (settled : (A.declaration parameter).migrate = none)
    {outputSize : Nat} (encoded : encodeRecord (A.persistenceKey parameter)
      (A.declaration parameter).version payload outputSize = .ok record)
    (corrupts : Corrupts record index byte) :
    ∃ status, readParameterRecord A parameter (record.set index byte) = .error status := by
  have length := length_encodeRecord encoded
  have bounded := A.maxEncodedRecordBytes_le
  unfold readParameterRecord
  rw [length_set]
  split_ifs with long
  · exact ⟨_, rfl⟩
  have decoded := decodeRecord_encodeRecord (by omega) encoded
  cases again : decodeRecord (record.set index byte) with
  | error status => exact ⟨status, rfl⟩
  | ok other =>
    have differs := decodeRecord_corrupted decoded corrupts again
    dsimp only
    split_ifs with foreign
    · exact ⟨_, rfl⟩
    simp only [not_or, not_not, ne_eq] at foreign
    have version : other.version ≠ (A.declaration parameter).version := by
      rintro same
      exact differs (by rw [foreign.1, foreign.2, same]; rfl)
    simp only [readParameterPayload, if_neg version, settled]
    exact ⟨_, rfl⟩

/-- A record is read as it was written, and only what may have been written is read, but for the
reserved byte. A record with one corrupted byte is refused or is one of another key or version, so
that a corrupted record of a parameter without a migration leaves its value alone. A group image of
scalar codecs is read as it was written. -/
theorem records_are_checked (A : Architecture) :
    (∀ (key : Key) (version : UInt16) (payload : Bytes) (outputSize : Nat) (record : Bytes),
      payload.length < 2 ^ 32 → encodeRecord key version payload outputSize = .ok record →
      let written : DecodedRecord := ⟨key.kind.code, key.stableId, version, payload⟩
      record = written.image ∧ decodeRecord record = .ok written) ∧
    (∀ input decoded, decodeRecord input = .ok decoded → input.set 5 0 = decoded.image) ∧
    (∀ input decoded index byte other, decodeRecord input = .ok decoded →
      Corrupts input index byte → decodeRecord (input.set index byte) = .ok other →
      (other.kind, other.stableId, other.version) ≠
        (decoded.kind, decoded.stableId, decoded.version)) ∧
    (∀ (facility : Facility A) (parameter : A.Parameter) (payload : Bytes) (outputSize : Nat)
      (record : Bytes) (index : Nat) (byte : UInt8), (A.declaration parameter).migrate = none →
      encodeRecord (A.persistenceKey parameter) (A.declaration parameter).version payload
        outputSize = .ok record → Corrupts record index byte →
      facility.stored (A.store parameter) (A.persistenceKey parameter) =
        some (record.set index byte) →
      ((facility.loadPersistentParameter parameter).1.slot parameter).value =
        (facility.slot parameter).value) ∧
    ∀ (members : List A.Parameter) (values base : Values A),
      (∀ member ∈ members, (A.declaration member).codec.IsScalar) →
      ∃ payload decoded, encodeGroupPayload A (fun member => .ok (values member)) members =
          .ok payload ∧ decodeGroupValues A members payload base = .ok decoded ∧
        ∀ member ∈ members, decoded member = values member := by
  refine ⟨fun key version payload outputSize record small encoded => ?_, fun _ _ => set_eq_image,
    fun _ _ _ _ _ => decodeRecord_corrupted, ?_, fun members values base scalar => ?_⟩
  · refine ⟨?_, decodeRecord_encodeRecord small encoded⟩
    unfold encodeRecord at encoded
    split_ifs at encoded
    rw [← Except.ok.inj encoded]
    simp [DecodedRecord.image, DecodedRecord.header, envelope]
  · intro facility parameter payload outputSize record index byte settled encoded corrupts stored
    obtain ⟨status, refused⟩ := readParameterRecord_corrupted settled encoded corrupts
    unfold loadPersistentParameter
    split
    · simp only [stored, loadSlot, refused, slot_updateSlot_self]
    · rfl
  · obtain ⟨payload, encoded⟩ := encodes_of_scalar scalar
    refine ⟨payload, _, encoded, decodeGroupValues_encoded (fun member listed =>
      (scalar member listed).lawful) encoded, fun member listed => if_pos listed⟩

end Facility

/-- The record of version 3 is refused, and with one other byte it is loaded. -/
theorem System.corrupted_version_is_loaded :
    ∃ record, encodeRecord (gainArchitecture.persistenceKey ()) 3 [50] 512 = .ok record ∧
      (gainArchitecture.declaration ()).migrate = none ∧ Corrupts record 6 1 ∧
      Facility.readParameterRecord gainArchitecture () record = .error .protocolError ∧
      Facility.readParameterRecord gainArchitecture () (record.set 6 1) =
        .ok ((50 : UInt8), .store) :=
  ⟨_, rfl, rfl, ⟨by decide, by decide, by decide⟩, rfl, rfl⟩

end Solar.Parameters
