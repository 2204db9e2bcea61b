/-
This file models the pages of inspection records on their way to the host: `CborWriter`,
the encoders of the records, `encode_inspection_query`, and the host's
`CollectionQueryPage.decode`. The writer fails once there is no room left, and of calls
joined by `&&` the first that fails is the last; with room enough, a chain puts the bytes
of its calls one after another. The head of the array of records is written before the
last entry of the page, and the records after that entry, so the array takes what
follows its head. Only a page without records arrives.
-/

import Solar.Library.CborTree
import Solar.Remote.Schema

namespace Solar.Remote.Inspection

open List hiding all

open Solar.Cbor (Bytes Item DataTree)

structure CborWriter where
  destination : Nat
  written : Bytes := []
  failed : Bool := false

/-- A call of the writer: whether it succeeds, and the writer after it. -/
abbrev Write := CborWriter → Bool × CborWriter

namespace CborWriter

def remaining (writer : CborWriter) : Nat := writer.destination - writer.written.length

/-- Calls joined by `&&`. -/
def all : List Write → Write
  | [], writer => (true, writer)
  | write :: rest, writer =>
      match write writer with
      | (true, next) => all rest next
      | (false, next) => (false, next)

def byte (value : UInt8) : Write := fun writer =>
  if writer.remaining = 0 then (false, { writer with failed := true })
  else (true, { writer with written := writer.written ++ [value] })

/-- How many bytes the argument takes, and the additional information that says so. -/
def argument (value : UInt64) : Nat × UInt8 :=
  if value ≤ 0xFF then (1, 24)
  else if value ≤ 0xFFFF then (2, 25)
  else if value ≤ 0xFFFFFFFF then (4, 26)
  else (8, 27)

/-- The bytes of a number, highest first. -/
def digits (bytes : Nat) (value : UInt64) : List Write :=
  (range bytes).map fun index =>
    byte (value >>> UInt64.ofNat ((bytes - index - 1) * 8)).toUInt8

def head (major : UInt8) (value : UInt64) : Write :=
  if value < 24 then byte (major <<< 5 ||| value.toUInt8)
  else
    all (byte (major <<< 5 ||| (argument value).2) :: digits (argument value).1 value)

def unsignedInteger (value : UInt64) : Write := head 0 value

def signedInteger (value : Int64) : Write :=
  if 0 ≤ value then head 0 value.toUInt64 else head 1 (-1 - value).toUInt64

def boolean (value : Bool) : Write := byte (if value then 0xF5 else 0xF4)

def floating (bits : BitVec 64) : Write := all (byte 0xFB :: digits 8 ⟨bits⟩)

def text (value : Bytes) : Write := fun writer =>
  match head 3 (UInt64.ofNat value.length) writer with
  | (true, next) =>
      if next.remaining < value.length then (false, { next with failed := true })
      else (true, { next with written := next.written ++ value })
  | (false, next) => (false, { next with failed := true })

def array (size : Nat) : Write := head 4 (UInt64.ofNat size)

def map (size : Nat) : Write := head 5 (UInt64.ofNat size)

end CborWriter

/-! ### What calls put -/

open CborWriter

/-- With room for the bytes, the call puts them. -/
def Puts (write : Write) (bytes : Bytes) : Prop :=
  ∀ writer : CborWriter, writer.written.length + bytes.length ≤ writer.destination →
    write writer = (true, { writer with written := writer.written ++ bytes })

theorem puts_byte (value : UInt8) : Puts (byte value) [value] := by
  intro writer room
  rw [length_singleton] at room
  have some : writer.remaining ≠ 0 := by
    unfold remaining
    omega
  rw [byte, if_neg some]

theorem puts_all {writes : List Write} {parts : List Bytes}
    (each : Forall₂ Puts writes parts) : Puts (all writes) parts.flatten := by
  induction each with
  | nil =>
    intro writer _
    rw [all, flatten_nil, append_nil]
  | @cons write bytes _ parts puts _ ih =>
    intro writer room
    rw [flatten_cons, length_append] at room
    rw [all, puts writer (by omega), flatten_cons, ← append_assoc]
    refine ih _ ?_
    show (writer.written ++ bytes).length + parts.flatten.length ≤ writer.destination
    rw [length_append]
    omega

theorem Puts.append {first second : List Write} {before after : Bytes}
    (earlier : Puts (all first) before) (later : Puts (all second) after) :
    Puts (all [all first, all second]) (before ++ after) := by
  have both := puts_all (.cons earlier (.cons later .nil))
  rwa [flatten_cons, flatten_cons, flatten_nil, append_nil] at both

/-! ### Numbers -/

theorem shifted (value : UInt64) {places : Nat} (few : places < 8) :
    (value >>> UInt64.ofNat (places * 8)).toUInt8 = UInt8.ofNat (value.toNat / 256 ^ places) := by
  rw [← UInt8.toNat_inj, UInt64.toNat_toUInt8, UInt64.toNat_shiftRight, UInt8.toNat_ofNat',
    UInt64.toNat_ofNat', Nat.mod_eq_of_lt (show places * 8 < 2 ^ 64 by omega),
    Nat.mod_eq_of_lt (show places * 8 < 64 by omega), Nat.shiftRight_eq_div_pow, Nat.mul_comm,
    Nat.pow_mul]

theorem puts_digits (value : UInt64) {bytes : Nat} (few : bytes ≤ 8) :
    Forall₂ Puts (digits bytes value)
      ((Solar.Cbor.bigEndian bytes value.toNat).map fun digit => [digit]) := by
  induction bytes with
  | zero => exact .nil
  | succ bytes ih =>
    have later := ih (Nat.le_of_succ_le few)
    unfold digits at later ⊢
    rw [range_succ_eq_map, map_cons, map_map, Solar.Cbor.bigEndian,
      ← shifted value (show bytes < 8 by omega)]
    refine .cons (puts_byte _) ?_
    refine (congrArg (Forall₂ Puts · _) (map_congr_left fun index _ => ?_)).mpr later
    rw [Function.comp_apply, show bytes + 1 - (index + 1) - 1 = bytes - index - 1 by omega]

theorem flatten_digits (bytes : Bytes) : (bytes.map fun digit => [digit]).flatten = bytes := by
  induction bytes with
  | nil => rfl
  | cons digit rest ih => rw [map_cons, flatten_cons, ih, singleton_append]

theorem initial_eq {major info : UInt8} (few : major < 8) (small : info < 32) :
    major <<< 5 ||| info = Solar.Cbor.initial major.toNat info.toNat := by
  have few : major.toNat < 8 := UInt8.lt_iff_toNat_lt.mp few
  have small : info.toNat < 2 ^ 5 := UInt8.lt_iff_toNat_lt.mp small
  have fits : major.toNat <<< 5 < 2 ^ 8 := by
    omega
  rw [← UInt8.toNat_inj, UInt8.toNat_or, UInt8.toNat_shiftLeft, Solar.Cbor.toNat_initial few small]
  rw [show UInt8.toNat 5 % 8 = 5 from rfl, Nat.mod_eq_of_lt fits,
    ← Nat.shiftLeft_add_eq_or_of_lt small, Nat.shiftLeft_eq, Nat.mul_comm]

theorem puts_long {major info : UInt8} (few : major < 8) (small : info < 32) {value : UInt64}
    {bytes : Nat} (sized : bytes ≤ 8) :
    Puts (all (byte (major <<< 5 ||| info) :: digits bytes value))
      (Solar.Cbor.initial major.toNat info.toNat :: Solar.Cbor.bigEndian bytes value.toNat) := by
  have puts := puts_all (.cons (puts_byte (major <<< 5 ||| info)) (puts_digits value sized))
  rw [flatten_cons, flatten_digits] at puts
  rw [initial_eq few small] at puts ⊢
  exact puts

theorem puts_head {major : UInt8} (few : major < 8) (value : UInt64) :
    Puts (CborWriter.head major value) (Solar.Cbor.head major.toNat value.toNat) := by
  unfold CborWriter.head Solar.Cbor.head argument
  have below (bound : UInt64) : value ≤ bound ↔ value.toNat < bound.toNat + 1 :=
    UInt64.le_iff_toNat_le.trans Nat.lt_succ_iff.symm
  have byteSized : value ≤ 0xFF ↔ value.toNat < 2 ^ 8 := below 0xFF
  have shortSized : value ≤ 0xFFFF ↔ value.toNat < 2 ^ 16 := below 0xFFFF
  have wordSized : value ≤ 0xFFFFFFFF ↔ value.toNat < 2 ^ 32 := below 0xFFFFFFFF
  by_cases tiny : value < 24
  · have number : value.toNat < 24 := UInt64.lt_iff_toNat_lt.mp tiny
    have same : value.toUInt8.toNat = value.toNat := by
      rw [UInt64.toNat_toUInt8]
      omega
    rw [if_pos tiny, if_pos number, ← same,
      ← initial_eq few (UInt8.lt_iff_toNat_lt.mpr (same ▸ Nat.lt_trans number (by decide)))]
    exact puts_byte _
  · have number : ¬ value.toNat < 24 := fun less => tiny (UInt64.lt_iff_toNat_lt.mpr less)
    rw [if_neg tiny, if_neg number]
    by_cases byte : value ≤ 0xFF
    · rw [if_pos byte, if_pos (byteSized.mp byte)]
      exact puts_long few (by decide) (by decide)
    rw [if_neg byte, if_neg fun less => byte (byteSized.mpr less)]
    by_cases short : value ≤ 0xFFFF
    · rw [if_pos short, if_pos (shortSized.mp short)]
      exact puts_long few (by decide) (by decide)
    rw [if_neg short, if_neg fun less => short (shortSized.mpr less)]
    by_cases word : value ≤ 0xFFFFFFFF
    · rw [if_pos word, if_pos (wordSized.mp word)]
      exact puts_long few (by decide) (by decide)
    rw [if_neg word, if_neg fun less => word (wordSized.mpr less)]
    exact puts_long few (by decide) (by decide)

theorem puts_unsignedInteger (value : UInt64) :
    Puts (unsignedInteger value) (DataTree.leaf (.unsigned value.toNat)).write :=
  puts_head (by decide) value

theorem puts_boolean (value : Bool) :
    Puts (boolean value) (DataTree.leaf (.boolean value)).write := by
  cases value <;> exact puts_byte _

theorem puts_floating (bits : BitVec 64) :
    Puts (floating bits) (DataTree.leaf (.double bits)).write := by
  have puts := puts_all (.cons (puts_byte 0xFB) (puts_digits ⟨bits⟩ (Nat.le_refl 8)))
  rwa [flatten_cons] at puts

/-- A signed number as an item. -/
def signedItem (value : Int64) : Item :=
  if 0 ≤ value.toInt then .unsigned value.toInt.toNat else .negative (-1 - value.toInt).toNat

theorem fits_signedItem (value : Int64) : (signedItem value).Fits := by
  have lower := value.le_toInt
  have upper := value.toInt_lt
  unfold signedItem
  split_ifs
  · show value.toInt.toNat < 2 ^ 64
    omega
  · show (-1 - value.toInt).toNat < 2 ^ 64
    omega

theorem puts_signedInteger (value : Int64) :
    Puts (signedInteger value) (DataTree.leaf (signedItem value)).write := by
  have bits := BitVec.toInt_eq_toNat_cond value.toBitVec
  unfold signedInteger signedItem
  by_cases positive : 0 ≤ value
  · have number : 0 ≤ value.toInt := Int64.le_iff_toInt_le.mp positive
    have same : value.toUInt64.toNat = value.toInt.toNat := by
      show value.toBitVec.toNat = value.toBitVec.toInt.toNat
      have number : 0 ≤ value.toBitVec.toInt := number
      split_ifs at bits <;> omega
    rw [if_pos positive, if_pos number, ← same]
    exact puts_head (by decide) _
  · have number : ¬ 0 ≤ value.toInt := fun some => positive (Int64.le_iff_toInt_le.mpr some)
    have same : (-1 - value).toUInt64.toNat = (-1 - value.toInt).toNat := by
      show (-1 - value).toBitVec.toNat = (-1 - value.toBitVec.toInt).toNat
      have number : ¬ 0 ≤ value.toBitVec.toInt := number
      rw [Int64.toBitVec_sub, BitVec.toNat_sub,
        show (-1 : Int64).toBitVec.toNat = 2 ^ 64 - 1 from rfl]
      split_ifs at bits <;> omega
    rw [if_neg positive, if_neg number, ← same]
    exact puts_head (by decide) _

/-! ### Text and counts -/

variable {size : Nat}

theorem puts_array (fits : size < 2 ^ 64) :
    Puts (CborWriter.array size) (Solar.Cbor.head 4 size) := by
  have puts := puts_head (show (4 : UInt8) < 8 by decide) (UInt64.ofNat size)
  rwa [UInt64.toNat_ofNat', Nat.mod_eq_of_lt fits] at puts

theorem puts_map (fits : size < 2 ^ 64) : Puts (CborWriter.map size) (Solar.Cbor.head 5 size) := by
  have puts := puts_head (show (5 : UInt8) < 8 by decide) (UInt64.ofNat size)
  rwa [UInt64.toNat_ofNat', Nat.mod_eq_of_lt fits] at puts

theorem puts_text {value : Bytes} (fits : value.length < 2 ^ 64) :
    Puts (text value) (DataTree.leaf (.text value)).write := by
  intro writer room
  have puts : Puts (CborWriter.head 3 (UInt64.ofNat value.length))
      (Solar.Cbor.head 3 value.length) := by
    have puts := puts_head (show (3 : UInt8) < 8 by decide) (UInt64.ofNat value.length)
    rwa [UInt64.toNat_ofNat', Nat.mod_eq_of_lt fits] at puts
  rw [DataTree.write, Solar.Cbor.write, length_append] at room
  unfold text
  rw [puts writer (Nat.le_trans (by omega) room)]
  have enough : ¬ writer.destination - (writer.written ++ Solar.Cbor.head 3 value.length).length <
      value.length := by
    rw [length_append]
    omega
  refine (if_neg enough).trans ?_
  rw [DataTree.write, Solar.Cbor.write, append_assoc]

theorem puts_entries {writes : List Write} {content : List DataTree}
    (fits : size < 2 ^ 64) (counted : content.length = 2 * size)
    (each : Forall₂ (fun write tree => Puts write (DataTree.write tree)) writes content) :
    Puts (all (CborWriter.map size :: writes)) (DataTree.map content).write := by
  have half : content.length / 2 = size := by omega
  have later : Forall₂ Puts writes (content.map DataTree.write) :=
    forall₂_map_right_iff.mpr each
  have puts := puts_all (.cons (puts_map fits) later)
  rw [flatten_cons, DataTree.flatten_map_write] at puts
  rwa [DataTree.write, half]

/-! ### Records -/

/-- `std::string_view`. -/
abbrev Text := { content : Bytes // content.length < 2 ^ 64 }

/-- `component::DescriptorView`. Enumerators are their numbers, here and below. -/
structure DescriptorView where
  localId : UInt16
  name : Text
  ownerKind : UInt8
  ownerComponent : UInt16
  origin : UInt8

/-- `lifecycle::ComponentRecord`, with `to_errno` of its status. -/
structure ComponentRecord where
  localId : UInt16
  state : UInt8
  category : UInt8
  lastStatus : Int32
  lastOperation : UInt8
  transitions : UInt32
  attempts : UInt32

/-- `execution::RegistrationRecord`, with `to_errno` of its status. -/
structure RegistrationRecord where
  localId : UInt16
  name : Text
  kind : UInt8
  availability : UInt8
  lastStatus : Int32
  submissions : UInt64
  completed : UInt64
  failed : UInt64
  pendingCount : UInt32

inductive ScalarValue
  | signed (value : Int64)
  | unsigned (value : UInt64)
  | floating (bits : BitVec 64)
  | boolean (value : Bool)

/-- `metrics::MetricViewRecord`. -/
structure MetricViewRecord where
  metric : UInt16
  view : UInt8
  viewIndex : UInt16
  value : ScalarValue
  revision : UInt64
  updatedAt : Int64
  initialized : Bool
  owner : UInt16

/-- `remote::LinkRecord`. -/
structure LinkRecord where
  id : UInt32
  session : UInt8
  receivedFrames : UInt32
  transmittedFrames : UInt32
  protocolErrors : UInt32
  subscriptions : UInt32
  connected : Bool

/-- The record types that have a `CborEncoder`. -/
inductive RecordKind
  | component | lifecycle | execution | metric | link

namespace RecordKind

abbrev Record : RecordKind → Type
  | .component => DescriptorView
  | .lifecycle => ComponentRecord
  | .execution => RegistrationRecord
  | .metric => MetricViewRecord
  | .link => LinkRecord

/-- `CborEncoder<metrics::MetricViewRecord>::scalar`. -/
def scalar : ScalarValue → Write
  | .signed value => signedInteger value
  | .unsigned value => unsignedInteger value
  | .floating bits => floating bits
  | .boolean value => boolean value

/-- `CborEncoder<Record>::encode`. -/
def encode : (kind : RecordKind) → kind.Record → Write
  | .component, value => all [
      map 5, unsignedInteger 0, unsignedInteger value.localId.toUInt64, unsignedInteger 1,
      text value.name, unsignedInteger 2, unsignedInteger value.ownerKind.toUInt64,
      unsignedInteger 3, unsignedInteger value.ownerComponent.toUInt64, unsignedInteger 4,
      unsignedInteger value.origin.toUInt64]
  | .lifecycle, value => all [
      map 7, unsignedInteger 0, unsignedInteger value.localId.toUInt64, unsignedInteger 1,
      unsignedInteger value.state.toUInt64, unsignedInteger 2,
      unsignedInteger value.category.toUInt64, unsignedInteger 3,
      signedInteger value.lastStatus.toInt64, unsignedInteger 4,
      unsignedInteger value.lastOperation.toUInt64, unsignedInteger 5,
      unsignedInteger value.transitions.toUInt64, unsignedInteger 6,
      unsignedInteger value.attempts.toUInt64]
  | .execution, value => all [
      map 9, unsignedInteger 0, unsignedInteger value.localId.toUInt64, unsignedInteger 1,
      text value.name, unsignedInteger 2, unsignedInteger value.kind.toUInt64, unsignedInteger 3,
      unsignedInteger value.availability.toUInt64, unsignedInteger 4,
      signedInteger value.lastStatus.toInt64, unsignedInteger 5,
      unsignedInteger value.submissions, unsignedInteger 6, unsignedInteger value.completed,
      unsignedInteger 7, unsignedInteger value.failed, unsignedInteger 8,
      unsignedInteger value.pendingCount.toUInt64]
  | .metric, value => all [
      map 8, unsignedInteger 0, unsignedInteger value.metric.toUInt64, unsignedInteger 1,
      unsignedInteger value.view.toUInt64, unsignedInteger 2,
      unsignedInteger value.viewIndex.toUInt64, unsignedInteger 3, scalar value.value,
      unsignedInteger 4, unsignedInteger value.revision, unsignedInteger 5,
      signedInteger value.updatedAt, unsignedInteger 6, boolean value.initialized,
      unsignedInteger 7, unsignedInteger value.owner.toUInt64]
  | .link, value => all [
      map 7, unsignedInteger 0, unsignedInteger value.id.toUInt64, unsignedInteger 1,
      unsignedInteger value.session.toUInt64, unsignedInteger 2,
      unsignedInteger value.receivedFrames.toUInt64, unsignedInteger 3,
      unsignedInteger value.transmittedFrames.toUInt64, unsignedInteger 4,
      unsignedInteger value.protocolErrors.toUInt64, unsignedInteger 5,
      unsignedInteger value.subscriptions.toUInt64, unsignedInteger 6,
      boolean value.connected]

end RecordKind

/-! ### Pages -/

structure Cursor where
  collection : UInt16
  offset : UInt32
  revision : UInt32

inductive PageConsistency
  | perRecord | stablePage | pointInTime

inductive Freshness
  | current | stale | mixed | unknown

structure BasicQuery where
  cursor : Cursor
  limit : Nat

/-- The `PageResult` of a provider, with the records that it has written. -/
structure Page (kind : RecordKind) (limit : Nat) where
  records : List kind.Record
  written_le : records.length ≤ limit
  next : Cursor
  hasMore : Bool
  revision : UInt32
  consistency : PageConsistency
  freshness : Freshness
  lossCount : UInt64
  lossKnown : Bool

/-- A collection whose records have a CBOR encoder. -/
structure Collection where
  kind : RecordKind
  stableId : UInt32
  maximumPage : UInt16
  localId : UInt16

structure CollectionQueryRequest where
  stableId : UInt32
  offset : UInt32
  revision : UInt32
  limit : UInt16

/-- The errors of a query: `InvalidValue`, the status of the provider under `InternalInvariant`, and
`NoSpace`. -/
inductive QueryError
  | limit
  | provider (status : Status)
  | noSpace

namespace Collection

variable (collection : Collection)

/-- The query that a request is turned into. -/
def query (maximumRecords : Nat) (request : CollectionQueryRequest) : BasicQuery where
  cursor := ⟨collection.localId, request.offset, request.revision⟩
  limit := min request.limit.toNat maximumRecords

/-- The calls that write a page. -/
def pageCalls {limit : Nat} (page : Page collection.kind limit) : List Write :=
  [map 10, unsignedInteger 0, unsignedInteger collection.stableId.toUInt64,
    unsignedInteger 1, unsignedInteger (UInt64.ofNat page.records.length),
    unsignedInteger 2, unsignedInteger page.next.offset.toUInt64,
    unsignedInteger 3, boolean page.hasMore,
    unsignedInteger 4, unsignedInteger page.revision.toUInt64,
    unsignedInteger 5, unsignedInteger (UInt64.ofNat page.consistency.ctorIdx),
    unsignedInteger 6, unsignedInteger (UInt64.ofNat page.freshness.ctorIdx),
    unsignedInteger 7, unsignedInteger page.lossCount,
    unsignedInteger 8, array page.records.length,
    unsignedInteger 9, boolean page.lossKnown]

/-- `encode_inspection_query`, with at most `maximumRecords` records in a page. -/
def encodeInspectionQuery (maximumRecords : Nat)
    (provider : (query : BasicQuery) → Except Status (Page collection.kind query.limit))
    (request : CollectionQueryRequest) (size : Nat) : Except QueryError Bytes :=
  if collection.maximumPage < request.limit then .error .limit
  else
    match provider (collection.query maximumRecords request) with
    | .error status => .error (.provider status)
    | .ok page =>
        match all [all (collection.pageCalls page),
            all (page.records.map collection.kind.encode)] { destination := size } with
        | (true, writer) => if writer.failed then .error .noSpace else .ok writer.written
        | (false, _) => .error .noSpace

end Collection

/-! ### The host -/

/-- What the host's CBOR decoder makes of an item. A `dict` has its keys and values in turn. -/
inductive Object
  | int (value : Int)
  | bool (value : Bool)
  | float (bits : BitVec 64)
  | str (content : Bytes)
  | bytes (content : Bytes)
  | list (elements : List Object)
  | dict (content : List Object)
  | other

namespace Object

/-- A `float` that equals a small natural number. -/
def isNumber (bits : BitVec 64) (number : Nat) : Bool :=
  if number = 0 then bits.toNat % 2 ^ 63 = 0
  else bits.toNat = (1023 + number.log2) * 2 ^ 52 +
    (number - 2 ^ number.log2) * 2 ^ (52 - number.log2)

/-- `==` with a number. -/
def equals (number : Nat) : Object → Bool
  | .int value => value = number
  | .bool value => value.toNat = number
  | .float bits => isNumber bits number
  | _ => false

/-- The value of a `dict` at a number; of equal keys the last one counts. -/
def entry (number : Nat) : List Object → Option Object
  | key :: value :: rest =>
      match entry number rest with
      | some later => some later
      | none => if key.equals number then some value else none
  | _ => none

/-- `isinstance(field, int) and not isinstance(field, bool)`. -/
def integer? : Object → Option Int
  | .int value => some value
  | _ => none

end Object

structure CollectionQueryPage where
  stableId : Int
  written : Int
  next : Int
  hasMore : Bool
  revision : Int
  consistency : Int
  freshness : Int
  lossCount : Int
  lossKnown : Bool
  records : List Object

namespace CollectionQueryPage

/-- `CollectionQueryPage.decode`, with the text of the `FrameError`. -/
def decode (loads : Bytes → Option Object) (payload : Bytes) :
    Except String CollectionQueryPage :=
  match loads payload with
  | some (.dict content) =>
      match (List.range 10).mapM fun key => Object.entry key content with
      | some [field0, field1, field2, field3, field4, field5, field6, field7, field8, field9] =>
          match field8 with
          | .list records =>
              if field1.equals records.length then
                match field0.integer?, field1.integer?, field2.integer?, field4.integer?,
                  field5.integer?, field6.integer?, field7.integer? with
                | some stableId, some written, some next, some revision, some consistency,
                    some freshness, some lossCount =>
                    match field3, field9 with
                    | .bool hasMore, .bool lossKnown => .ok {
                        stableId, written, next, hasMore, revision, consistency, freshness,
                        lossCount, lossKnown, records }
                    | _, _ => .error "invalid collection query flags"
                | _, _, _, _, _, _, _ => .error "invalid collection query metadata"
              else .error "invalid collection query records"
          | _ => .error "invalid collection query records"
      | _ => .error "invalid collection query page"
  | _ => .error "invalid collection query page"

end CollectionQueryPage

end Solar.Remote.Inspection
