/-
This file models the host's `DynamicCodec`, which knows the firmware's schemas
from the records of the manifest: the records as the firmware emits them and the
host parses them, the validation of a field's value, the decoder of CBOR objects
and the codec of packed values.
-/

import Solar.Remote.Codec.Float

namespace Solar.Remote

/-! ### Records -/

/-- The kinds of a field record. -/
inductive ValueKind
  | bool | unsigned | signed | float | enum | text | bytes | schema
  deriving DecidableEq

inductive SchemaShape
  | object | statusCode | enumeration
  deriving DecidableEq

/-- A schema that a field refers to, as the host parses it. -/
structure SchemaRecord where
  name : String
  shape : SchemaShape
  underlyingSigned : Bool
  underlyingWidth : Nat
  opened : Bool
  values : List Int

/-- A field, as the host parses it. -/
structure FieldRecord where
  id : Nat
  name : String
  kind : ValueKind
  required : Bool
  width : Nat
  maximumLength : Nat
  reference : Option SchemaRecord
  packedOffset : Option Nat

/-- The record of an enumeration. An enumerator travels cast to the unsigned type of its width, and
the host extends the sign again. -/
def Enumeration.record (enumeration : Enumeration) : SchemaRecord where
  name := enumeration.name
  shape := .enumeration
  underlyingSigned := enumeration.underlying.signed
  underlyingWidth := enumeration.underlying.width.bits
  opened := enumeration.openness = .opened
  values := enumeration.values.map fun value =>
    enumeration.underlying.ofBits (enumeration.underlying.toBits value)

/-- The record of `Schema<Status>`. The host fills in the codes of `STATUS_NAMES`. -/
def statusRecord : SchemaRecord where
  name := "solar.Status"
  shape := .statusCode
  underlyingSigned := false
  underlyingWidth := 0
  opened := false
  values := Status.all.map fun status => (status.code.toNat : Int)

namespace FieldType

/-- `value_kind`. -/
def kind : FieldType → ValueKind
  | .boolean => .bool
  | .enumeration _ => .enum
  | .status => .schema
  | .integer type => if type.signed then .signed else .unsigned
  | .float | .double => .float
  | .text _ => .text
  | .bytes _ => .bytes

/-- The width that `emit_field` writes. -/
def width : FieldType → Nat
  | .boolean => 8
  | .enumeration declaration => declaration.underlying.width.bits
  | .status => 32
  | .integer type => type.width.bits
  | .float => 32
  | .double => 64
  | .text _ | .bytes _ => 0

/-- `BoundedCapacity`. -/
def maximumLength : FieldType → Nat
  | .text capacity | .bytes capacity => capacity
  | _ => 0

def reference : FieldType → Option SchemaRecord
  | .enumeration declaration => some declaration.record
  | .status => some statusRecord
  | _ => none

theorem kind_ne_enum {type : FieldType} (unnumbered : type.reference = none) :
    type.kind ≠ .enum := by
  cases type with
  | enumeration declaration => exact absurd unnumbered (by simp [reference])
  | integer type => cases signed : type.signed <;> simp [kind, signed]
  | _ => simp [kind]

end FieldType

/-- The record of a field, by way of `emit_field` and the host's parser. -/
def Field.record (field : Field) (packedOffset : Option Nat) : FieldRecord where
  id := field.id.toNat
  name := field.name
  kind := field.type.kind
  required := !field.optional
  width := field.type.width
  maximumLength := field.type.maximumLength
  reference := field.type.reference
  packedOffset

theorem Enumeration.record_values (enumeration : Enumeration) :
    enumeration.record.values = enumeration.values := by
  refine (List.map_congr_left fun value member => ?_).trans (List.map_id enumeration.values)
  exact IntegerType.ofBits_toBits (enumeration.holds value member)

namespace DynamicCodec

/-! ### Values of the host -/

/-- What the host has for a field. Text is kept by its UTF-8 bytes. -/
inductive PyValue
  | none
  | bool (value : Bool)
  | int (value : Int)
  | float (bits : BitVec 64)
  | str (content : Bytes)
  | bytes (content : Bytes)
  | unknownEnum (schema : String) (value : Int)
  | other
  deriving DecidableEq

inductive CodecError
  | missing (field : String)
  | textBound (field : String)
  | byteBound (field : String)
  | notBoolean (field : String)
  | notInteger (field : String)
  | integerWidth (field : String)
  | notNumeric (field : String)
  | floatRange (field : String)
  | floatWidth (field : String)
  | notEnum (field : String)
  | enumWidth (field : String)
  | undeclared (value : Int) (schema : String)
  | notStatus (value : Int)
  | notConvertible
  | unloadable
  | notMap
  | unknownFields
  | absentPacked
  | unsupportedPacked (field : String)
  | packRange
  | packSize

/-- The entries of a `dict` whose keys equal an integer, and whether it has others. -/
structure PyDict where
  numbered : List (Int × PyValue)
  others : Bool := false

/-- What the codec calls: `cbor2.loads`, which may raise and may give something else than a `dict`,
and the conversions `int` of text and `float` of an integer. -/
structure Python where
  loads : Bytes → Option (Option PyDict)
  parseInt : Bytes → Option Int
  floatOfInt : Int → Option (BitVec 64)

variable (python : Python)

/-- `int` of a number, towards zero. -/
def truncate (bits : BitVec 64) : Option Int :=
  let exponent := bits.toNat / 2 ^ 52 % 2048
  let significand := 2 ^ 52 + bits.toNat % 2 ^ 52
  let whole : Nat :=
    if exponent < 1075 then significand / 2 ^ (1075 - exponent)
    else significand * 2 ^ (exponent - 1075)
  if exponent = 2047 then none
  else some (if bits.toNat / 2 ^ 63 = 0 then (whole : Int) else -whole)

/-- `value.value if hasattr(value, "value") else int(value)`. -/
def toInt : PyValue → Option Int
  | .int value | .unknownEnum _ value => some value
  | .bool value => some (if value then 1 else 0)
  | .float bits => truncate bits
  | .str content | .bytes content => python.parseInt content
  | .none | .other => Option.none

/-- `struct.pack` with `<f`. A finite number beyond the range raises, and a NaN is made quiet. -/
def packSingle (bits : BitVec 64) : Option (BitVec 32) :=
  if Cbor.magnitude (Cbor.narrow bits) = Cbor.infinity32 ∧ Cbor.magnitude bits ≠ Cbor.infinity64 then
    none
  else
    some (Cbor.narrow bits)

/-- The bounds of an integer type, from its record. -/
def within (signed : Bool) (width : Nat) (value : Int) : Prop :=
  (if signed then -2 ^ (width - 1) else 0) ≤ value ∧
    value ≤ if signed then 2 ^ (width - 1) - 1 else 2 ^ width - 1

instance (signed : Bool) (width : Nat) (value : Int) : Decidable (within signed width value) :=
  inferInstanceAs (Decidable (_ ∧ _))

theorem within_iff_holds (type : IntegerType) (value : Int) :
    within type.signed type.width.bits value ↔ type.Holds value := Iff.rfl

theorem packSingle_widen {value : BitVec 32}
    (plain : ¬Cbor.Signalling Cbor.infinity32 (2 ^ 22) value) :
    packSingle (Cbor.widen value) = some value := by
  rw [packSingle, Cbor.narrow_widen plain, Cbor.widen_eq plain, if_neg]
  rintro ⟨infinite, finite⟩
  have shape : value.toNat % 2 ^ 31 = 255 * 2 ^ 23 := infinite
  have exponent : value.toNat / 2 ^ 23 % 256 = 255 := by omega
  have mantissa : value.toNat % 2 ^ 23 = 0 := by omega
  refine finite ?_
  simp only [Cbor.magnitude, Cbor.widenBits, exponent, mantissa, Cbor.widenExponent,
    Cbor.widenMantissa, Cbor.infinity64, BitVec.toNat_ofNat, if_true]
  rw [if_neg (by decide)]
  omega

/-- A NaN and what is a number of single precision are within its range. -/
theorem exists_packSingle {bits : BitVec 64}
    (known : Cbor.IsNan Cbor.infinity64 bits ∨ ∃ value, bits = Cbor.widen value) :
    ∃ single, packSingle bits = some single := by
  have packs (bits : BitVec 64) (nan : Cbor.IsNan Cbor.infinity64 bits) :
      packSingle bits = some (Cbor.narrow bits) :=
    if_neg fun both => absurd both.1 (Cbor.isNan_narrow nan).ne'
  obtain nan | ⟨value, rfl⟩ := known
  · exact ⟨_, packs bits nan⟩
  · by_cases trap : Cbor.Signalling Cbor.infinity32 (2 ^ 22) value
    · exact ⟨_, packs _ (Cbor.isNan_widen trap)⟩
    · exact ⟨value, packSingle_widen trap⟩

/-- `_enum`. -/
def checkEnum (schema : SchemaRecord) (value : Int) : Except CodecError PyValue :=
  if value ∈ schema.values then .ok (.int value)
  else if schema.opened then .ok (.unknownEnum schema.name value)
  else .error (.undeclared value schema.name)

theorem checkEnum_record {declaration : Enumeration} {value : Int}
    (accepts : declaration.Accepts value) :
    checkEnum declaration.record value = .ok (if value ∈ declaration.values then .int value
        else .unknownEnum declaration.name value) := by
  unfold checkEnum
  rw [declaration.record_values]
  by_cases known : value ∈ declaration.values
  · rw [if_pos known, if_pos known]
  · have opened : declaration.record.opened = true := by
      cases openness : declaration.openness with
      | closed => exact absurd (accepts openness) known
      | opened => exact decide_eq_true openness
    rw [if_neg known, if_neg known, if_pos opened]
    rfl

/-- The number of a value for a `float` field. -/
def toFloat : PyValue → Option (BitVec 64)
  | .float bits => some bits
  | .int value => python.floatOfInt value
  | _ => none

/-- The enum branch of `_validate`. -/
def validateEnum (field : FieldRecord) (schema : SchemaRecord) (value : PyValue) :
    Except CodecError PyValue :=
  match value with
  | .int number | .unknownEnum _ number =>
    if within schema.underlyingSigned schema.underlyingWidth number then
      (checkEnum schema number).map fun _ => .int number
    else .error (.enumWidth field.name)
  | _ => .error (.notEnum field.name)

variable {field : FieldRecord}

theorem validateEnum_record {declaration : Enumeration} {number : Int}
    (holds : declaration.underlying.Holds number) (accepts : declaration.Accepts number)
    {value : PyValue} (same : value = .int number ∨ ∃ schema, value = .unknownEnum schema number) :
    validateEnum field declaration.record value = .ok (.int number) := by
  have inside : within declaration.record.underlyingSigned declaration.record.underlyingWidth
      number := holds
  rcases same with rfl | ⟨schema, rfl⟩
  · rw [validateEnum, if_pos inside, checkEnum_record accepts]
    rfl
  · rw [validateEnum, if_pos inside, checkEnum_record accepts]
    rfl

/-- The status branch of `_validate`. -/
def validateStatus (schema : SchemaRecord) (value : PyValue) : Except CodecError PyValue :=
  match toInt python value with
  | none => .error .notConvertible
  | some number => if number ∈ schema.values then .ok (.int number) else .error (.notStatus number)

/-- The float branch of `_validate`. -/
def validateFloat (field : FieldRecord) (value : PyValue) : Except CodecError PyValue :=
  match toFloat python value with
  | none => .error (.notNumeric field.name)
  | some number =>
    if field.width = 32 then
      match packSingle number with
      | none => .error (.floatRange field.name)
      | some single => .ok (.float (Cbor.widen single))
    else if field.width = 64 then .ok (.float number)
    else .error (.floatWidth field.name)

theorem validateFloat_single (single : field.width = 32) {bits : BitVec 64} {value : BitVec 32}
    (packed : packSingle bits = some value) :
    validateFloat python field (.float bits) = .ok (.float (Cbor.widen value)) := by
  simp only [validateFloat, toFloat, if_pos single, packed]

theorem validateFloat_double (double : field.width = 64) (bits : BitVec 64) :
    validateFloat python field (.float bits) = .ok (.float bits) := by
  have other : ¬field.width = 32 := by rw [double]; decide
  simp only [validateFloat, toFloat, if_neg other, if_pos double]

section

variable (field : FieldRecord)

/-- `_validate`. -/
def validate (value : PyValue) : Except CodecError PyValue :=
  match value, field.kind with
  | .none, _ => if field.required then .error (.missing field.name) else .ok .none
  | .str content, .text =>
    if content.length ≤ field.maximumLength then .ok value else .error (.textBound field.name)
  | _, .text => .error (.textBound field.name)
  | .bytes content, .bytes =>
    if content.length ≤ field.maximumLength then .ok value else .error (.byteBound field.name)
  | _, .bytes => .error (.byteBound field.name)
  | .bool _, .bool => .ok value
  | _, .bool => .error (.notBoolean field.name)
  | .int number, .signed =>
    if within true field.width number then .ok value else .error (.integerWidth field.name)
  | .int number, .unsigned =>
    if within false field.width number then .ok value else .error (.integerWidth field.name)
  | _, .signed | _, .unsigned => .error (.notInteger field.name)
  | _, .float => validateFloat python field value
  | _, .enum =>
    match field.reference with
    | none => .error .notConvertible
    | some schema => validateEnum field schema value
  | _, .schema =>
    match field.reference with
    | some schema =>
      if schema.shape = .statusCode then validateStatus python schema value else .ok value
    | none => .error .notConvertible

theorem validate_single (kind : field.kind = .float) (single : field.width = 32)
    {bits : BitVec 64} {value : BitVec 32} (packed : packSingle bits = some value) :
    validate python field (.float bits) = .ok (.float (Cbor.widen value)) := by
  have valid := validateFloat_single python single packed
  simp only [validate, kind, valid]

theorem validate_double (kind : field.kind = .float) (double : field.width = 64)
    (bits : BitVec 64) : validate python field (.float bits) = .ok (.float bits) := by
  have valid := validateFloat_double python double bits
  simp only [validate, kind, valid]

end

/-! ### Objects -/

/-- The value of a field in a loaded map. -/
def decodeField (raw : PyDict) (field : FieldRecord) : Except CodecError PyValue :=
  match raw.numbered.lookup (field.id : Int) with
  | none => if field.required then .error (.missing field.name) else .ok .none
  | some value => do
    match ← validate python field value, field.kind, field.reference with
    | .int number, .enum, some schema => checkEnum schema number
    | _, .enum, _ => .error .notConvertible
    | value, _, _ => .ok value

theorem decodeField_of_validate {raw : PyDict} {value result : PyValue}
    (found : raw.numbered.lookup (field.id : Int) = some value)
    (valid : validate python field value = .ok result) (plain : field.kind ≠ .enum) :
    decodeField python raw field = .ok result := by
  simp only [decodeField, found, valid, bind, Except.bind]
  split
  case h_1 enumeration _ => exact absurd enumeration plain
  case h_2 enumeration _ => exact absurd enumeration plain
  case h_3 => rfl

/-- `decode` of a CBOR schema: the values of the fields in their order. -/
def decode (fields : List FieldRecord) (payload : Bytes) : Except CodecError (List PyValue) :=
  match python.loads payload with
  | none => .error .unloadable
  | some none => .error .notMap
  | some (some raw) =>
    if raw.others ∨ ∃ entry ∈ raw.numbered, ∀ field ∈ fields, entry.1 ≠ field.id then
      .error .unknownFields
    else fields.mapM (decodeField python raw)

end DynamicCodec

end Solar.Remote
