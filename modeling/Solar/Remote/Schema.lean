/-
This file models the schemas of Remote values as they are declared in the
firmware: the field types with the data their members can hold, enumerations,
the two numberings of `Status`, and the lists of fields that `validate_schema`
lets through.
-/

import Solar.Remote.Protocol

namespace Solar.Remote

/-! ### Integers -/

inductive Width
  | byte | short | word | long

def Width.bytes : Width → Nat
  | .byte => 1
  | .short => 2
  | .word => 4
  | .long => 8

def Width.bits (width : Width) : Nat := 8 * width.bytes

/-- A fixed-width integer type. -/
structure IntegerType where
  signed : Bool
  width : Width

namespace IntegerType

variable (type : IntegerType)

/-- `numeric_limits::min`. -/
def minimum : Int := if type.signed then -2 ^ (type.width.bits - 1) else 0

/-- `numeric_limits::max`. -/
def maximum : Int :=
  if type.signed then 2 ^ (type.width.bits - 1) - 1 else 2 ^ type.width.bits - 1

def Holds (value : Int) : Prop := type.minimum ≤ value ∧ value ≤ type.maximum

instance (value : Int) : Decidable (type.Holds value) := inferInstanceAs (Decidable (_ ∧ _))

/-- The cast to the unsigned type of the same width. -/
def toBits (value : Int) : Nat := (value % 2 ^ type.width.bits).toNat

/-- The value of an unsigned number of the width, whose top bit is the sign if there is one. -/
def ofBits (raw : Nat) : Int :=
  if type.signed ∧ 2 ^ (type.width.bits - 1) ≤ raw then (raw : Int) - 2 ^ type.width.bits else raw

end IntegerType

def int32 : IntegerType := ⟨true, .word⟩
def int64 : IntegerType := ⟨true, .long⟩
def uint64 : IntegerType := ⟨false, .long⟩

theorem IntegerType.Holds.long {type : IntegerType} {value : Int} (holds : type.Holds value) :
    (IntegerType.mk type.signed .long).Holds value := by
  obtain ⟨signed, width⟩ := type
  obtain ⟨least, most⟩ := holds
  cases signed <;> cases width <;>
    simp only [minimum, maximum, Width.bits, Width.bytes, Bool.false_eq_true, if_false, if_true]
      at least most <;>
    refine ⟨?_, ?_⟩ <;>
    simp only [minimum, maximum, Width.bits, Width.bytes, Bool.false_eq_true, if_false, if_true] <;>
    omega

theorem IntegerType.toBits_lt (type : IntegerType) (value : Int) :
    type.toBits value < 2 ^ type.width.bits := by
  unfold toBits
  have cast : ((2 ^ type.width.bits : Nat) : Int) = 2 ^ type.width.bits := by simp
  omega

theorem IntegerType.ofBits_toBits {type : IntegerType} {value : Int} (holds : type.Holds value) :
    type.ofBits (type.toBits value) = value := by
  obtain ⟨signed, width⟩ := type
  obtain ⟨least, most⟩ := holds
  cases signed <;> cases width <;>
    simp only [minimum, maximum, Width.bits, Width.bytes, Bool.false_eq_true, if_false, if_true]
      at least most <;>
    simp only [ofBits, toBits, Width.bits, Width.bytes, Bool.false_eq_true, false_and, true_and,
      if_false] <;>
    (try split_ifs) <;> omega

/-! ### Enumerations and statuses -/

inductive EnumOpenness
  | closed | opened
  deriving DecidableEq

/-- A `Schema<Enum>` that `validate_enum_schema` lets through. -/
structure Enumeration where
  name : String
  underlying : IntegerType
  values : List Int
  openness : EnumOpenness := .closed
  declared : values ≠ [] := by decide
  unique : values.Nodup := by decide
  holds : ∀ value ∈ values, underlying.Holds value := by decide

/-- The check that the codecs make of an enumerator: only a closed enumeration refuses one. -/
def Enumeration.Accepts (enumeration : Enumeration) (value : Int) : Prop :=
  enumeration.openness = .closed → value ∈ enumeration.values

instance (enumeration : Enumeration) (value : Int) : Decidable (enumeration.Accepts value) :=
  inferInstanceAs (Decidable (_ → _))

/-- The statuses, in the order of their wire codes. -/
inductive Status
  | ok | error | invalid | notReady | notFound | notSupported | busy | already | timeout
  | cancelled | noMemory | noSpace | wouldBlock | empty | interrupted | deadlock
  | permissionDenied | noBuffer | messageTooLarge | protocolError | overflow
  | dependencyFailed | unexpectedExit
  deriving DecidableEq

namespace Status

/-- The `StatusCode` of the same name. -/
def code (status : Status) : UInt8 := UInt8.ofNat status.ctorIdx

def all : List Status :=
  [.ok, .error, .invalid, .notReady, .notFound, .notSupported, .busy, .already, .timeout,
    .cancelled, .noMemory, .noSpace, .wouldBlock, .empty, .interrupted, .deadlock,
    .permissionDenied, .noBuffer, .messageTooLarge, .protocolError, .overflow,
    .dependencyFailed, .unexpectedExit]

theorem mem_all (status : Status) : status ∈ all := by
  cases status <;> decide

/-- `decode_status`. -/
def decodeStatus (code : UInt8) : Option Status := all.find? fun status => status.code = code

theorem decodeStatus_code {status : Status} : decodeStatus status.code = some status := by
  cases status <;> decide

theorem code_of_decodeStatus {code : UInt8} {status : Status}
    (found : decodeStatus code = some status) : status.code = code := by
  simpa using List.find?_some found

theorem code_lt (status : Status) : status.code.toNat < 23 := by
  cases status <;> decide

theorem exists_decodeStatus_iff (code : UInt8) :
    (∃ status, decodeStatus code = some status) ↔ code.toNat < 23 := by
  constructor
  · rintro ⟨status, found⟩
    rw [← code_of_decodeStatus found]
    exact status.code_lt
  · intro small
    have listed : ∀ number < 23, ∃ status ∈ all, status.code.toNat = number := by decide
    obtain ⟨status, -, number⟩ := listed code.toNat small
    exact ⟨status, UInt8.toNat_inj.mp number ▸ decodeStatus_code⟩

end Status

/-- The numbers that the C library gives to the enumerators of `enum class Status : int`. They are
distinct, or the switches over them would not compile. -/
structure Errno where
  number : Status → Int
  zero : number .ok = 0
  injective : Function.Injective number
  holds : ∀ status, int32.Holds (number status)

/-- `encode_status`, of an `int` that is cast to `Status`. -/
def Errno.encodeStatus (errno : Errno) (value : Int) : UInt8 :=
  ((Status.all.find? fun status => errno.number status = value).getD .error).code

theorem Errno.encodeStatus_lt (errno : Errno) (value : Int) :
    (errno.encodeStatus value).toNat < 23 := Status.code_lt _

/-! ### Fields -/

/-- The member types that `supported_scalar_v` admits, less `long double`. -/
inductive FieldType
  | boolean
  | integer (type : IntegerType)
  | enumeration (declaration : Enumeration)
  | status
  | float
  | double
  | text (capacity : Nat)
  | bytes (capacity : Nat)

/-- What a member holds: floating-point numbers by their bits, enumerators and statuses by their
underlying integers, bounded text and bytes by their used part. -/
inductive Datum
  | boolean (value : Bool)
  | integer (value : Int)
  | single (bits : BitVec 32)
  | double (bits : BitVec 64)
  | text (content : Bytes)
  | bytes (content : Bytes)

/-- The largest size of a bounded text: its counter has 16 bits. -/
def boundedSize (capacity : Nat) : Nat := min capacity 65535

/-- The data that a member can hold, with closed enumerations only by their declared values. -/
def FieldType.Admits : FieldType → Datum → Prop
  | .boolean, .boolean _ => True
  | .integer type, .integer value => type.Holds value
  | .enumeration declaration, .integer value =>
    declaration.underlying.Holds value ∧ declaration.Accepts value
  | .status, .integer value => int32.Holds value
  | .float, .single _ => True
  | .double, .double _ => True
  | .text capacity, .text content => content.length ≤ boundedSize capacity
  | .bytes capacity, .bytes content => content.length ≤ boundedSize capacity
  | _, _ => False

/-- A `Field`; it is required unless its member is an `optional`. -/
structure Field where
  id : UInt16
  name : String
  type : FieldType
  optional : Bool := false

/-- The members a field admits: only an `optional` can be empty. -/
def Field.Admits (field : Field) : Option Datum → Prop
  | none => field.optional = true
  | some datum => field.type.Admits datum

/-- The `Fields` of a schema that `validate_schema` lets through. -/
structure Schema where
  fields : List Field
  ordered : fields.Pairwise fun left right => left.id < right.id
  nonzero : ∀ field ∈ fields, field.id ≠ 0
  named : (fields.map Field.name).Nodup

/-- A value of an object type, by its members in the order of the schema's fields. -/
structure Value (schema : Schema) where
  members : List (Option Datum)
  admitted : List.Forall₂ Field.Admits schema.fields members

theorem Schema.ids_nodup (schema : Schema) : (schema.fields.map Field.id).Nodup := by
  rw [List.Nodup, List.pairwise_map]
  exact schema.ordered.imp fun less => UInt16.ne_of_lt less

theorem Schema.index_unique (schema : Schema) {left right : Nat} {field other : Field}
    (foundLeft : schema.fields[left]? = some field)
    (foundRight : schema.fields[right]? = some other) (same : field.id = other.id) :
    left = right := by
  have atLeft : (schema.fields.map Field.id)[left]? = some field.id := by
    rw [List.getElem?_map, foundLeft, Option.map_some]
  have atRight : (schema.fields.map Field.id)[right]? = some field.id := by
    rw [List.getElem?_map, foundRight, Option.map_some, same]
  obtain ⟨inside, -⟩ := List.getElem?_eq_some_iff.mp atLeft
  exact (List.getElem?_inj inside schema.ids_nodup).mp (atLeft.trans atRight.symm)

end Solar.Remote
