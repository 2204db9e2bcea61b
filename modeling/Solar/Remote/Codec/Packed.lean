/-
This file models the packed codec on both sides. The firmware writes the fields
as little-endian words one after the other; the manifest records where each field
begins; and the host writes and reads the words at these places.

The three layouts agree. But the host has no format for a status, it makes a NaN of
single precision quiet, and it takes the declared `max_encoded_size` for the size of
the encoding, which nothing makes equal to the sum of the words.
-/

import Solar.Library.Words
import Solar.Remote.Codec.Cbor
import Solar.Remote.Codec.Dynamic

namespace Solar.Remote.Packed

open List hiding format map_map

open Solar.Words
open Solar.Remote.Cbor (append Reason)
open DynamicCodec hiding decode

/-! ### Layout -/

/-- `sizeof(wire_type_t<T>)`. -/
def wireSize : FieldType → Nat
  | .boolean => 1
  | .integer type => type.width.bytes
  | .enumeration declaration => declaration.underlying.width.bytes
  | .status => int32.width.bytes
  | .float => 4
  | .double => 8
  | .text _ | .bytes _ => 0

/-- `supported_v`. -/
def Supported : FieldType → Prop
  | .text _ | .bytes _ => False
  | _ => True

/-- A schema that selects the packed codec, with the size it declares. -/
structure PackedSchema extends Schema where
  maxEncodedSize : Nat
  supported : ∀ field ∈ fields, field.optional = false ∧ Supported field.type
  bounded : maxEncodedSize ≠ 0

section

variable (fields : List Field)

/-- The sum of the words, `Codec::size`. -/
def totalSize : Nat := (fields.map fun field => wireSize field.type).sum

/-- `packed_offset`: the words before the field, in 32 bits. -/
def packedOffset (field : Field) : Nat :=
  totalSize (fields.takeWhile fun other => other.id ≠ field.id) % 2 ^ 32

/-- The record of a field. The host has no offset for `UINT32_MAX`. -/
def recordIn (field : Field) : FieldRecord :=
  let offset := packedOffset fields field
  field.record (if offset = 0xFFFFFFFF then none else some offset)

def records (schema : PackedSchema) : List FieldRecord :=
  schema.fields.map (recordIn schema.fields)

/-! ### The firmware -/

/-- `bits`. -/
def bits : FieldType → Datum → Nat
  | .boolean, .boolean value => if value then 1 else 0
  | .integer type, .integer value => type.toBits value
  | .enumeration declaration, .integer value => declaration.underlying.toBits value
  | .status, .integer value => int32.toBits value
  | .float, .single value => value.toNat
  | .double, .double value => value.toNat
  | _, _ => 0

/-- `from_bits`. -/
def fromBits : FieldType → Nat → Option Datum
  | .boolean, raw => some (.boolean (raw ≠ 0))
  | .integer type, raw => some (.integer (type.ofBits raw))
  | .enumeration declaration, raw => some (.integer (declaration.underlying.ofBits raw))
  | .status, raw => some (.integer (int32.ofBits raw))
  | .float, raw => some (.single (BitVec.ofNat 32 raw))
  | .double, raw => some (.double (BitVec.ofNat 64 raw))
  | .text _, _ | .bytes _, _ => none

/-- The check of an enumerator in `write` and `read`. -/
def accepts : FieldType → Datum → Bool
  | .enumeration declaration, .integer value => declaration.Accepts value
  | _, _ => true

/-- The word of a member. -/
def word (type : FieldType) (datum : Datum) : Bytes :=
  littleEndian (wireSize type) (bits type datum)

/-- `write`. -/
def write (capacity : Nat) (output : Bytes) (entry : Field × Option Datum) : Option Bytes :=
  match entry.2 with
  | none => none
  | some datum =>
    if accepts entry.1.type datum then append capacity output (word entry.1.type datum) else none

/-- `Codec::encode`, into a buffer of the given size. -/
def encode (members : List (Option Datum)) (capacity : Nat) : Except Reason Bytes :=
  match (fields.zip members).foldlM (write capacity) [] with
  | none => .error .noSpace
  | some output => .ok output

end

/-- `read`, from the rest of the input. -/
def read (type : FieldType) (input : Bytes) : Option (Datum × Bytes) :=
  if wireSize type ≤ input.length then
    ((fromBits type (ofLittleEndian (input.take (wireSize type)))).filter (accepts type)).map
      fun datum => (datum, input.drop (wireSize type))
  else none

/-- The members of `decode`, from the rest of the input. -/
def readAll : List Field → Bytes → Option (List (Option Datum))
  | [], _ => some []
  | field :: fields, input =>
    match read field.type input with
    | none => none
    | some (datum, rest) => (readAll fields rest).map fun members => some datum :: members

/-- `Codec::decode`. -/
def decode (fields : List Field) (input : Bytes) : Except Reason (List (Option Datum)) :=
  if input.length ≠ totalSize fields then .error .malformed
  else
    match readAll fields input with
    | none => .error .malformed
    | some members => .ok members

/-! ### The host -/

/-- The formats of `_STRUCT`. -/
inductive Format
  | bool
  | integer (type : IntegerType)
  | single
  | double

def widthOf (width : Nat) : Option Width :=
  if width = 8 then some .byte
  else if width = 16 then some .short
  else if width = 32 then some .word
  else if width = 64 then some .long
  else none

/-- `_STRUCT.get`. -/
def structFormat (kind : ValueKind) (width : Nat) : Option Format :=
  match kind with
  | .bool => if width = 8 then some .bool else none
  | .unsigned => (widthOf width).map fun width => .integer ⟨false, width⟩
  | .signed => (widthOf width).map fun width => .integer ⟨true, width⟩
  | .float => if width = 32 then some .single else if width = 64 then some .double else none
  | .enum | .text | .bytes | .schema => none

/-- The format of a field, where an enumeration counts by its underlying kind. -/
def fieldFormat (field : FieldRecord) : Option Format :=
  match field.kind, field.reference with
  | .enum, some schema =>
    structFormat (if schema.underlyingSigned then .signed else .unsigned) field.width
  | kind, _ => structFormat kind field.width

def Format.size : Format → Nat
  | .bool => 1
  | .integer type => type.width.bytes
  | .single => 4
  | .double => 8

/-- `struct.pack` of a value that is validated. -/
def Format.pack : Format → PyValue → Option Bytes
  | .bool, .bool value => some (littleEndian 1 (if value then 1 else 0))
  | .integer type, .int value =>
    if type.Holds value then some (littleEndian type.width.bytes (type.toBits value)) else none
  | .single, .float value => (packSingle value).map fun bits => littleEndian 4 bits.toNat
  | .double, .float value => some (littleEndian 8 value.toNat)
  | _, _ => none

/-- `struct.unpack`, which makes a NaN of single precision quiet. -/
def Format.unpack : Format → Bytes → PyValue
  | .bool, bytes => .bool (ofLittleEndian bytes ≠ 0)
  | .integer type, bytes => .int (type.ofBits (ofLittleEndian bytes))
  | .single, bytes => .float (Cbor.widen (BitVec.ofNat 32 (ofLittleEndian bytes)))
  | .double, bytes => .float (BitVec.ofNat 64 (ofLittleEndian bytes))

/-- One round of the loop of `DynamicCodec.encode` for a packed schema. -/
def packField (python : Python) (source : String → PyValue) (output : Bytes) (field : FieldRecord) :
    Except CodecError Bytes := do
  match ← validate python field (source field.name) with
  | .none => .error .absentPacked
  | value =>
    match fieldFormat field with
    | none => .error (.unsupportedPacked field.name)
    | some format =>
      match format.pack value, field.packedOffset with
      | some bytes, some offset =>
        match splice output offset bytes with
        | some output => .ok output
        | none => .error .packSize
      | _, _ => .error .packRange

/-- `DynamicCodec.encode` of a packed schema. -/
def hostEncode (python : Python) (maxEncodedSize : Nat) (fields : List FieldRecord)
    (source : String → PyValue) : Except CodecError Bytes :=
  fields.foldlM (packField python source) (replicate maxEncodedSize 0)

/-- One field of `DynamicCodec.decode` for a packed schema. -/
def unpackField (payload : Bytes) (field : FieldRecord) : Except CodecError PyValue :=
  match fieldFormat field with
  | none => .error (.unsupportedPacked field.name)
  | some format =>
    match field.packedOffset.bind fun offset => slice payload offset format.size with
    | none => .error .packSize
    | some bytes =>
      match format.unpack bytes, field.kind, field.reference with
      | .int value, .enum, some schema => checkEnum schema value
      | value, _, _ => .ok value

/-- `DynamicCodec.decode` of a packed schema. -/
def hostDecode (maxEncodedSize : Nat) (fields : List FieldRecord) (payload : Bytes) :
    Except CodecError (List PyValue) :=
  if payload.length ≠ maxEncodedSize then .error .packSize
  else fields.mapM (unpackField payload)

/-! ### Words -/

theorem toBits_lt_pow {type : IntegerType} {value : Int} :
    type.toBits value < 256 ^ type.width.bytes := by
  have small := type.toBits_lt value
  rwa [Width.bits, Nat.pow_mul] at small

variable {members : List (Option Datum)} {datum : Datum} {type : FieldType} {field : Field}
  {before after fields : List Field} (schema : Schema)

section

variable (admits : type.Admits datum)

include admits

/-- The bits of a member fill its word. -/
theorem bits_lt (supported : Supported type) : bits type datum < 256 ^ wireSize type := by
  cases type with
  | boolean =>
    cases datum with
    | boolean value => cases value <;> decide
    | _ => exact absurd admits id
  | integer | enumeration | status =>
    cases datum with
    | integer value => exact toBits_lt_pow
    | _ => exact absurd admits id
  | float =>
    cases datum with
    | single value => exact value.isLt
    | _ => exact absurd admits id
  | double =>
    cases datum with
    | double value => exact value.isLt
    | _ => exact absurd admits id
  | _ => exact absurd supported id

/-- The bits of a member give it back. -/
theorem fromBits_bits (supported : Supported type) :
    fromBits type (bits type datum) = some datum := by
  cases type with
  | text | bytes => exact absurd supported id
  | boolean =>
    cases datum with
    | boolean value => cases value <;> rfl
    | _ => exact absurd admits id
  | enumeration declaration =>
    cases datum with
    | integer value => rw [bits, fromBits, IntegerType.ofBits_toBits admits.1]
    | _ => exact absurd admits id
  | float =>
    cases datum with
    | single value => rw [bits, fromBits, BitVec.ofNat_toNat, BitVec.setWidth_eq]
    | _ => exact absurd admits id
  | double =>
    cases datum with
    | double value => rw [bits, fromBits, BitVec.ofNat_toNat, BitVec.setWidth_eq]
    | _ => exact absurd admits id
  | _ =>
    cases datum with
    | integer value => rw [bits, fromBits, IntegerType.ofBits_toBits admits]
    | _ => exact absurd admits id

theorem accepts_of_admits : accepts type datum = true := by
  cases type with
  | enumeration declaration =>
    cases datum with
    | integer value => exact decide_eq_true admits.2
    | _ => exact absurd admits id
  | _ => rfl

omit admits in
@[simp] theorem length_word (type : FieldType) (datum : Datum) :
    (word type datum).length = wireSize type := length_littleEndian _ _

theorem ofLittleEndian_word (supported : Supported type) :
    ofLittleEndian (word type datum) = bits type datum :=
  ofLittleEndian_littleEndian (bits_lt admits supported)

theorem read_word (supported : Supported type) (rest : Bytes) :
    read type (word type datum ++ rest) = some (datum, rest) := by
  have length := length_word type datum
  have first : (word type datum ++ rest).take (wireSize type) = word type datum := by
    rw [← length, take_left]
  have after : (word type datum ++ rest).drop (wireSize type) = rest := by
    rw [← length, drop_left]
  rw [read, if_pos (by rw [length_append]; omega), first, after,
    ofLittleEndian_word admits supported, fromBits_bits admits supported, Option.filter_some,
    if_pos (accepts_of_admits admits), Option.map_some]

end

/-! ### The firmware's layout -/

/-- The word of a member, and nothing for one that is not there. -/
def wordOf (entry : Field × Option Datum) : Bytes :=
  entry.2.elim [] (word entry.1.type)

/-- The words of a value. -/
def words (fields : List Field) (members : List (Option Datum)) : Bytes :=
  (fields.zip members).flatMap wordOf

/-- The fields are all there and of supported types. -/
def Packable (fields : List Field) : Prop :=
  ∀ field ∈ fields, field.optional = false ∧ Supported field.type

theorem exists_of_admits {member : Option Datum} (needed : field.optional = false)
    (admits : field.Admits member) : ∃ datum, member = some datum ∧ field.type.Admits datum := by
  cases member with
  | none => exact absurd (needed.symm.trans admits) (by decide)
  | some datum => exact ⟨datum, rfl, admits⟩

theorem length_words (packable : Packable fields)
    (admitted : Forall₂ Field.Admits fields members) :
    (words fields members).length = totalSize fields := by
  induction admitted with
  | nil => rfl
  | @cons field member fields members admits rest ih =>
    obtain ⟨needed, -⟩ := packable field mem_cons_self
    obtain ⟨datum, rfl, -⟩ := exists_of_admits needed admits
    have later := ih fun other known => packable other (mem_cons_of_mem _ known)
    rw [words, zip_cons_cons, flatMap_cons, length_append]
    exact congrArg₂ (· + ·) (length_word _ _) later

theorem foldlM_write (packable : Packable fields)
    (admitted : Forall₂ Field.Admits fields members) {capacity : Nat} {output : Bytes}
    (small : output.length ≤ capacity) :
    (fields.zip members).foldlM (write capacity) output =
      append capacity output (words fields members) := by
  induction admitted generalizing output with
  | nil => simp [words, append, small]
  | @cons field member fields members admits rest ih =>
    obtain ⟨needed, -⟩ := packable field mem_cons_self
    obtain ⟨datum, rfl, holds⟩ := exists_of_admits needed admits
    have split : words (field :: fields) (some datum :: members) =
        word field.type datum ++ words fields members := rfl
    have first : write capacity output (field, some datum) =
        append capacity output (word field.type datum) := if_pos (accepts_of_admits holds)
    rw [split, ← Cbor.append_append, zip_cons_cons, foldlM_cons, first]
    cases appended : append capacity output (word field.type datum) with
    | none => rfl
    | some next =>
      exact ih (fun other known => packable other (mem_cons_of_mem _ known))
        (Cbor.length_of_append appended)

theorem readAll_words (packable : Packable fields)
    (admitted : Forall₂ Field.Admits fields members) :
    readAll fields (words fields members) = some members := by
  induction admitted with
  | nil => rfl
  | @cons field member fields members admits rest ih =>
    obtain ⟨needed, supported⟩ := packable field mem_cons_self
    obtain ⟨datum, rfl, holds⟩ := exists_of_admits needed admits
    have split : words (field :: fields) (some datum :: members) =
        word field.type datum ++ words fields members := rfl
    have later := ih fun other known => packable other (mem_cons_of_mem _ known)
    rw [readAll, split, read_word holds supported]
    simp [later]

/-! ### The host's words -/

/-- A value of the host stands for a member. An enumerator may come as one that is not known. -/
def Represents : FieldType → Datum → PyValue → Prop
  | .boolean, .boolean value, .bool other => value = other
  | .enumeration _, .integer value, .int other => value = other
  | .enumeration _, .integer value, .unknownEnum _ other => value = other
  | .integer _, .integer value, .int other => value = other
  | .status, .integer value, .int other => value = other
  | .float, .single value, .float other => other = Cbor.widenBits value
  | .double, .double value, .float other => other = value
  | _, _, _ => False

/-- The member is no NaN that the host changes. -/
def Quiet : Datum → Prop
  | .single value => ¬Cbor.Signalling Cbor.infinity32 (2 ^ 22) value
  | _ => True

/-- The format that the host has for a type. -/
def formatOf : FieldType → Option Format
  | .boolean => some .bool
  | .integer type => some (.integer type)
  | .enumeration declaration => some (.integer declaration.underlying)
  | .float => some .single
  | .double => some .double
  | .status | .text _ | .bytes _ => none

theorem widthOf_bits (width : Width) : widthOf width.bits = some width := by
  cases width <;> rfl

theorem fieldFormat_record {offset : Option Nat} :
    fieldFormat (field.record offset) = formatOf field.type := by
  obtain ⟨id, name, type, optional⟩ := field
  cases type with
  | integer type =>
    obtain ⟨signed, width⟩ := type
    cases signed <;> simp [fieldFormat, Field.record, FieldType.kind, FieldType.width, structFormat,
      widthOf_bits, formatOf]
  | enumeration declaration =>
    simp only [fieldFormat, Field.record, FieldType.kind, FieldType.reference, FieldType.width,
      Enumeration.record, formatOf]
    obtain ⟨signed, width⟩ := declaration.underlying
    cases signed <;> simp [structFormat, widthOf_bits]
  | _ => rfl

/-- The host packs a value that stands for a member as the member's word. -/
theorem pack_of_represents {python : Python} {value : PyValue} {offset : Option Nat}
    (admits : field.type.Admits datum) (plain : field.type ≠ .status) (quiet : Quiet datum)
    (represents : Represents field.type datum value) :
    ∃ valid format, validate python (field.record offset) value = .ok valid ∧
      valid ≠ .none ∧ formatOf field.type = some format ∧
      format.pack valid = some (word field.type datum) := by
  obtain ⟨key, name, type, optional⟩ := field
  cases type with
  | status => exact absurd rfl plain
  | boolean =>
    cases datum <;> cases value
    case boolean.bool truth other =>
      obtain rfl : truth = other := represents
      exact ⟨.bool truth, .bool, rfl, by simp, rfl, rfl⟩
    all_goals exact represents.elim
  | integer type =>
    cases datum <;> cases value
    case integer.int number other =>
      obtain rfl : number = other := represents
      have holds : type.Holds number := admits
      refine ⟨.int number, .integer type, ?_, by simp, rfl, if_pos holds⟩
      have inside := (within_iff_holds type number).mpr holds
      cases signed : type.signed with
      | _ =>
        rw [signed] at inside
        simp [validate, Field.record, FieldType.kind, FieldType.width, signed, inside]
    all_goals exact represents.elim
  | enumeration declaration =>
    cases datum <;> cases value
    case integer.int number other =>
      obtain rfl : number = other := represents
      refine ⟨.int number, .integer declaration.underlying, ?_, by simp, rfl, if_pos admits.1⟩
      exact validateEnum_record admits.1 admits.2 (.inl rfl)
    case integer.unknownEnum number schema other =>
      obtain rfl : number = other := represents
      refine ⟨.int number, .integer declaration.underlying, ?_, by simp, rfl, if_pos admits.1⟩
      exact validateEnum_record admits.1 admits.2 (.inr ⟨schema, rfl⟩)
    all_goals exact represents.elim
  | float =>
    cases datum <;> cases value
    case single.float number other =>
      obtain rfl : other = Cbor.widenBits number := represents
      have packed := packSingle_widen quiet
      rw [Cbor.widen_eq quiet] at packed
      refine ⟨_, .single, validate_single python _ rfl rfl packed, by simp, rfl, ?_⟩
      rw [Format.pack, packSingle_widen quiet]
      rfl
    all_goals exact represents.elim
  | double =>
    cases datum <;> cases value
    case double.float number other =>
      obtain rfl : other = number := represents
      exact ⟨_, .double, validate_double python _ rfl rfl other, by simp, rfl, rfl⟩
    all_goals exact represents.elim
  | _ => cases datum <;> cases value <;> exact represents.elim

theorem unpackField_record {format : Format} {payload bytes : Bytes} {offset : Nat}
    (formatted : formatOf field.type = some format)
    (found : slice payload offset format.size = some bytes) :
    unpackField payload (field.record (some offset)) =
      match format.unpack bytes, field.type.kind, field.type.reference with
      | .int value, .enum, some schema => checkEnum schema value
      | value, _, _ => .ok value := by
  have known : fieldFormat (field.record (some offset)) = some format :=
    fieldFormat_record.trans formatted
  have placed : ((field.record (some offset)).packedOffset.bind fun offset =>
      slice payload offset format.size) = some bytes := found
  rw [unpackField, known]
  simp only [placed]
  rfl

/-- The host unpacks the word of a member as a value that stands for it, if it does not change it. -/
theorem unpack_word {payload : Bytes} {offset : Nat} (admits : field.type.Admits datum)
    (supported : Supported field.type) (plain : field.type ≠ .status)
    (found : slice payload offset (wireSize field.type) = some (word field.type datum)) :
    ∃ value, unpackField payload (field.record (some offset)) = .ok value ∧
      (Represents field.type datum value ↔ Quiet datum) := by
  have raw := ofLittleEndian_word admits supported
  obtain ⟨key, name, type, optional⟩ := field
  cases type with
  | status => exact absurd rfl plain
  | boolean =>
    cases datum with
    | boolean value =>
      refine ⟨.bool value, ?_, iff_of_true rfl trivial⟩
      rw [unpackField_record rfl found]
      cases value <;> rfl
    | _ => exact admits.elim
  | integer type =>
    cases datum with
    | integer value =>
      refine ⟨.int value, ?_, iff_of_true rfl trivial⟩
      rw [unpackField_record rfl found, Format.unpack, raw, bits,
        IntegerType.ofBits_toBits admits]
      obtain ⟨signed, width⟩ := type
      cases signed <;> rfl
    | _ => exact admits.elim
  | enumeration declaration =>
    cases datum with
    | integer value =>
      have checked := checkEnum_record admits.2
      rw [unpackField_record rfl found, Format.unpack,
        raw, bits, IntegerType.ofBits_toBits admits.1]
      refine ⟨_, checked, iff_of_true ?_ trivial⟩
      split_ifs <;> rfl
    | _ => exact admits.elim
  | float =>
    cases datum with
    | single value =>
      refine ⟨.float (Cbor.widen value), ?_, fun same trap => Cbor.widen_ne trap same,
        Cbor.widen_eq⟩
      rw [unpackField_record rfl found, Format.unpack, raw, bits,
        BitVec.ofNat_toNat, BitVec.setWidth_eq]
    | _ => exact admits.elim
  | double =>
    cases datum with
    | double value =>
      refine ⟨.float value, ?_, iff_of_true rfl trivial⟩
      rw [unpackField_record rfl found, Format.unpack, raw, bits,
        BitVec.ofNat_toNat, BitVec.setWidth_eq]
    | _ => exact admits.elim
  | _ => exact supported.elim

/-! ### Offsets -/

theorem wireSize_le (type : FieldType) : wireSize type ≤ 8 := by
  cases type with
  | integer type => cases width : type.width <;> simp [wireSize, width, Width.bytes]
  | enumeration declaration =>
    cases width : declaration.underlying.width <;> simp [wireSize, width, Width.bytes]
  | _ => simp [wireSize, int32, Width.bytes]

theorem totalSize_append (left right : List Field) :
    totalSize (left ++ right) = totalSize left + totalSize right := by
  simp [totalSize]

theorem totalSize_le (fields : List Field) : totalSize fields ≤ 8 * fields.length := by
  induction fields with
  | nil => exact Nat.le_refl 0
  | cons field rest ih =>
    have first := wireSize_le field.type
    have split : totalSize (field :: rest) = wireSize field.type + totalSize rest := by
      simp [totalSize]
    rw [length_cons]
    omega

theorem length_fields_le : schema.fields.length ≤ 65536 := by
  have distinct : (schema.fields.map fun field => field.id.toNat).Nodup := by
    have ids := schema.ids_nodup
    rw [Nodup, pairwise_map] at ids ⊢
    exact ids.imp fun different same => different (UInt16.toNat_inj.mp same)
  have within : (schema.fields.map fun field => field.id.toNat) ⊆ range 65536 := by
    intro number member
    obtain ⟨field, -, rfl⟩ := mem_map.mp member
    exact mem_range.mpr field.id.toNat_lt
  simpa using (distinct.subperm within).length_le

theorem packedOffset_eq (split : schema.fields = before ++ field :: after) :
    packedOffset schema.fields field = totalSize before ∧ totalSize before < 0xFFFFFFFF := by
  have few := length_fields_le schema
  have small := totalSize_le before
  have fewer : before.length ≤ schema.fields.length := by
    rw [split, length_append]
    omega
  have others : ∀ other ∈ before, other.id ≠ field.id := by
    intro other member same
    have ids := schema.ids_nodup
    rw [split, map_append, nodup_append] at ids
    exact ids.2.2 other.id (mem_map_of_mem member) field.id mem_cons_self same
  have bound : totalSize before < 0xFFFFFFFF := by omega
  refine ⟨?_, bound⟩
  have first : schema.fields.takeWhile (fun other => other.id ≠ field.id) = before := by
    rw [split, takeWhile_append_of_pos (fun other member => decide_eq_true (others other member))]
    simp
  rw [packedOffset, first]
  exact Nat.mod_eq_of_lt (by omega)

theorem record_eq (split : schema.fields = before ++ field :: after) :
    recordIn schema.fields field = field.record (some (totalSize before)) := by
  obtain ⟨offset, small⟩ := packedOffset_eq schema split
  simp only [recordIn, offset, if_neg small.ne]

variable {written : Bytes}

/-- A round of the host's encoder writes the word of a member behind what is written. -/
theorem packField_of_represents (python : Python) (schema : Schema) {source : String → PyValue}
    (room : Nat) (split : schema.fields = before ++ field :: after)
    (aligned : written.length = totalSize before) (admits : field.type.Admits datum)
    (plain : field.type ≠ .status) (quiet : Quiet datum)
    (represents : Represents field.type datum (source field.name)) :
    packField python source (written ++ replicate (wireSize field.type + room) 0)
        (recordIn schema.fields field) =
      .ok (written ++ word field.type datum ++ replicate room 0) := by
  obtain ⟨valid, format, validated, present, formatted, packed⟩ :=
    pack_of_represents admits plain quiet represents
  have known : fieldFormat (field.record (some (totalSize before))) = some format :=
    fieldFormat_record.trans formatted
  have spliced : splice (written ++ replicate (wireSize field.type + room) 0) (totalSize before)
      (word field.type datum) =
        some (written ++ word field.type datum ++ replicate room 0) := by
    rw [← aligned, splice_append _ _ _ (by simp)]
    simp
  have named : (field.record (some (totalSize before))).name = field.name := rfl
  have placed : (field.record (some (totalSize before))).packedOffset =
      some (totalSize before) := rfl
  rw [record_eq schema split, packField, named, validated]
  simp only [bind, Except.bind]
  cases valid with
  | none => exact absurd rfl present
  | _ => simp only [known, packed, placed, spliced]

/-- The host's encoder over the fields that are left. -/
theorem foldlM_packField (python : Python) (schema : Schema) {source : String → PyValue}
    (split : schema.fields = before ++ after) (aligned : written.length = totalSize before)
    (packable : Packable after) (admitted : Forall₂ Field.Admits after members)
    (plain : ∀ field ∈ after, field.type ≠ .status)
    (quiet : ∀ datum, some datum ∈ members → Quiet datum)
    (represents : ∀ pair ∈ after.zip members, ∀ datum, pair.2 = some datum →
      Represents pair.1.type datum (source pair.1.name)) :
    (after.map (recordIn schema.fields)).foldlM (packField python source)
        (written ++ replicate (totalSize after) 0) =
      .ok (written ++ words after members) := by
  induction admitted generalizing before written with
  | nil => simp [words, totalSize, pure, Except.pure]
  | @cons field member fields members admits rest ih =>
    obtain ⟨needed, supported⟩ := packable field mem_cons_self
    obtain ⟨datum, rfl, holds⟩ := exists_of_admits needed admits
    have size : totalSize (field :: fields) = wireSize field.type + totalSize fields := by
      simp [totalSize]
    have first := packField_of_represents python schema (totalSize fields) split aligned holds
      (plain field mem_cons_self) (quiet datum mem_cons_self)
      (represents (field, some datum) (mem_cons_self) datum rfl)
    rw [map_cons, foldlM_cons, size, first]
    have further : (written ++ word field.type datum).length = totalSize (before ++ [field]) := by
      rw [length_append, length_word, aligned, totalSize_append]
      simp [totalSize]
    have later := ih (split.trans (append_cons before field fields)) further
      (fun other known => packable other (mem_cons_of_mem _ known))
      (fun other known => plain other (mem_cons_of_mem _ known))
      (fun other inside => quiet other (mem_cons_of_mem _ inside))
      (fun pair inside => represents pair (mem_cons_of_mem _ inside))
    have whole : words (field :: fields) (some datum :: members) =
        word field.type datum ++ words fields members := rfl
    rw [whole, ← append_assoc]
    exact later

/-- The host's decoder finds each word at its place. -/
theorem unpackField_words (split : schema.fields = before ++ after)
    (aligned : written.length = totalSize before) (packable : Packable after)
    (admitted : Forall₂ Field.Admits after members)
    (plain : ∀ field ∈ after, field.type ≠ .status) :
    ∀ pair ∈ after.zip members, ∃ value,
      unpackField (written ++ words after members) (recordIn schema.fields pair.1) = .ok value ∧
        ∀ datum, pair.2 = some datum → (Represents pair.1.type datum value ↔ Quiet datum) := by
  induction admitted generalizing before written with
  | nil => exact fun pair member => absurd member not_mem_nil
  | @cons field member fields members admits rest ih =>
    obtain ⟨needed, supported⟩ := packable field mem_cons_self
    obtain ⟨datum, rfl, holds⟩ := exists_of_admits needed admits
    intro pair inside
    rcases mem_cons.mp inside with rfl | later
    · have found : slice (written ++ (word field.type datum ++ words fields members))
          (totalSize before) (wireSize field.type) = some (word field.type datum) := by
        rw [← aligned, ← length_word field.type datum, ← append_assoc]
        exact slice_append _ _ _
      obtain ⟨value, unpacked, represents⟩ := unpack_word holds supported
        (plain field mem_cons_self) found
      refine ⟨value, ?_, fun other same => Option.some.inj same ▸ represents⟩
      rw [record_eq schema split]
      exact unpacked
    · have further : (written ++ word field.type datum).length = totalSize (before ++ [field]) := by
        rw [length_append, length_word, aligned, totalSize_append]
        simp [totalSize]
      have found := ih (split.trans (append_cons before field fields)) further
        (fun other known => packable other (mem_cons_of_mem _ known))
        (fun other known => plain other (mem_cons_of_mem _ known)) pair later
      rw [append_assoc] at found
      exact found

/-! ### The codecs -/

/-- What is asked of the codecs for a value: the firmware encodes it in the size of its words and
decodes it again, the host encodes values that stand for its members to the same bytes, and decodes
the bytes to such values. -/
def Agrees (python : Python) (schema : PackedSchema) (value : Value schema.toSchema) : Prop :=
  ∃ bytes : Bytes, bytes.length = totalSize schema.fields ∧
    (∀ capacity, encode schema.fields value.members capacity =
      if bytes.length ≤ capacity then .ok bytes else .error .noSpace) ∧
    decode schema.fields bytes = .ok value.members ∧
    (∀ source : String → PyValue,
      (∀ pair ∈ schema.fields.zip value.members, ∀ datum, pair.2 = some datum →
        Represents pair.1.type datum (source pair.1.name)) →
      hostEncode python schema.maxEncodedSize (records schema) source = .ok bytes) ∧
    ∃ outputs, hostDecode schema.maxEncodedSize (records schema) bytes = .ok outputs ∧
      Forall₂ (fun pair output => ∀ datum, pair.2 = some datum →
        Represents pair.1.type datum output) (schema.fields.zip value.members) outputs

theorem encode_eq {schema : PackedSchema} (value : Value schema.toSchema) (capacity : Nat) :
    encode schema.fields value.members capacity =
      if (words schema.fields value.members).length ≤ capacity then
        .ok (words schema.fields value.members)
      else .error .noSpace := by
  rw [encode, foldlM_write schema.supported value.admitted (Nat.zero_le _), append]
  simp only [length_nil, Nat.zero_add, nil_append]
  split_ifs <;> rfl

theorem decode_words {schema : PackedSchema} (value : Value schema.toSchema) :
    decode schema.fields (words schema.fields value.members) = .ok value.members := by
  rw [decode, if_neg (not_not.mpr (length_words schema.supported value.admitted)),
    readAll_words schema.supported value.admitted]

/-- The firmware and the host agree on a packed value iff its schema has no status and declares the
size of its words, and the value has no signalling NaN of single precision. -/
theorem packed_codecs_agree (python : Python) (schema : PackedSchema)
    (value : Value schema.toSchema) :
    Agrees python schema value ↔ (∀ field ∈ schema.fields, field.type ≠ .status) ∧
        (∀ datum, some datum ∈ value.members → Quiet datum) ∧
        schema.maxEncodedSize = totalSize schema.fields := by
  have length := length_words schema.supported value.admitted
  have pairs : (schema.fields.zip value.members).map (recordIn schema.fields ∘ Prod.fst) =
      records schema := by
    rw [← List.map_map, map_fst_zip (List.Forall₂.length_eq value.admitted).le]
    rfl
  have found (plain : ∀ field ∈ schema.fields, field.type ≠ .status) :=
    unpackField_words schema.toSchema (show schema.fields = [] ++ schema.fields from rfl)
      (show ([] : Bytes).length = totalSize [] from rfl) schema.supported value.admitted plain
  constructor
  · rintro ⟨bytes, size, written, -, -, outputs, decoded, represents⟩
    obtain rfl : bytes = words schema.fields value.members := by
      have both := (written bytes.length).symm.trans (encode_eq value bytes.length)
      rw [if_pos le_rfl, if_pos (length.trans size.symm).le] at both
      exact Except.ok.inj both
    unfold hostDecode at decoded
    split_ifs at decoded with whole
    rw [← pairs, Pointwise.mapM_eq_ok_iff, forall₂_map_left_iff] at decoded
    have plain : ∀ field ∈ schema.fields, field.type ≠ .status := by
      intro field known status
      rw [← map_fst_zip (List.Forall₂.length_eq value.admitted).le] at known
      obtain ⟨pair, inside, rfl⟩ := mem_map.mp known
      obtain ⟨output, -, unpacked⟩ := Pointwise.exists_of_mem decoded inside
      have format : fieldFormat (recordIn schema.fields pair.1) = none := by
        rw [recordIn, fieldFormat_record, status]
        rfl
      rw [Function.comp_apply, unpackField, format] at unpacked
      exact absurd unpacked (by simp)
    refine ⟨plain, fun datum member => ?_, by rw [← not_not.mp whole, length]⟩
    rw [← map_snd_zip (List.Forall₂.length_eq value.admitted).ge] at member
    obtain ⟨pair, inside, same⟩ := mem_map.mp member
    obtain ⟨result, unpacked, kept⟩ := found plain pair inside
    obtain ⟨output, both, same'⟩ := Pointwise.exists_of_mem decoded inside
    obtain rfl := Except.ok.inj (same'.symm.trans unpacked)
    exact (kept datum same).mp ((forall₂_iff_zip.mp represents).2 both datum same)
  · rintro ⟨plain, quiet, size⟩
    refine ⟨words schema.fields value.members, length, encode_eq value, decode_words value, ?_, ?_⟩
    · intro source represents
      have filled := foldlM_packField python schema.toSchema
        (show schema.fields = [] ++ schema.fields from rfl)
        (show ([] : Bytes).length = totalSize [] from rfl) schema.supported value.admitted plain
        quiet represents
      rw [size]
      exact filled
    · obtain ⟨outputs, unpacked⟩ := Pointwise.exists_iff.mpr (found plain)
      refine ⟨outputs, ?_, ?_⟩
      · rw [hostDecode, if_neg (not_not.mpr (length.trans size.symm)), Pointwise.mapM_eq_ok_iff,
          ← pairs, forall₂_map_left_iff]
        exact unpacked.imp fun _ _ both => both.1
      · obtain ⟨lengths, kept⟩ := forall₂_iff_zip.mp unpacked
        refine forall₂_iff_zip.mpr ⟨lengths, fun {pair _} inside datum same => ?_⟩
        refine ((kept inside).2 datum same).mpr (quiet datum ?_)
        exact same ▸ (of_mem_zip (of_mem_zip inside).1).2

/-- A reading with the status of its sensor. -/
def readingSchema : PackedSchema where
  fields := [⟨1, "raw", .integer ⟨false, .short⟩, false⟩, ⟨2, "status", .status, false⟩]
  ordered := by decide
  nonzero := by decide
  named := by decide
  maxEncodedSize := 6
  supported := by
    intro field known
    simp only [mem_cons, not_mem_nil, or_false] at known
    rcases known with rfl | rfl
    · exact ⟨rfl, trivial⟩
    · exact ⟨rfl, trivial⟩
  bounded := by decide

def okReading : Value readingSchema.toSchema where
  members := [some (.integer 513), some (.integer 0)]
  admitted := .cons (by decide : IntegerType.Holds ⟨false, .short⟩ 513)
    (.cons (by decide : int32.Holds 0) .nil)

/-- A host that loads no CBOR, which the packed codec has no use for. -/
def barePython : Python where
  loads _ := none
  parseInt _ := none
  floatOfInt _ := none

/-- The firmware packs a reading with a status, and the host cannot unpack it. -/
theorem packed_status_unsupported :
    encode readingSchema.fields okReading.members 6 = .ok [1, 2, 0, 0, 0, 0] ∧
    hostDecode readingSchema.maxEncodedSize (records readingSchema) [1, 2, 0, 0, 0, 0] =
      .error (.unsupportedPacked "status") ∧
    ¬Agrees barePython readingSchema okReading := by
  have encoded : encode readingSchema.fields okReading.members 6 = .ok [1, 2, 0, 0, 0, 0] := rfl
  have refused : hostDecode readingSchema.maxEncodedSize (records readingSchema)
      [1, 2, 0, 0, 0, 0] = .error (.unsupportedPacked "status") := rfl
  refine ⟨encoded, refused, ?_⟩
  rintro ⟨bytes, length, written, -, -, outputs, decoded, -⟩
  have whole : bytes.length = 6 := length
  have same := (written 6).symm.trans encoded
  rw [if_pos whole.le] at same
  obtain rfl := Except.ok.inj same
  exact absurd (decoded.symm.trans refused) (by simp)

end Solar.Remote.Packed
