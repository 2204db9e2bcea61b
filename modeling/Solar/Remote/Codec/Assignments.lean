/-
This file models the encoder of the host's `DynamicCodec` and compares the two object
codecs in both directions. The host gives a field by a value, the firmware has a member
for it, and `Represents` says when the two mean the same.

Most of what one side accepts the other reads as it was meant. Statuses are not: the
host has them by their codes, an object of the firmware by their `errno` numbers. Nor
are texts that the host takes whole and whose size the firmware cuts to 16 bits, and
optional members that `Value{}` does not leave empty.
-/

import Solar.Remote.Codec.Status

namespace Solar.Remote

open List hiding map_map
open Option hiding bind map map_bind map_map

namespace DynamicCodec

/-! ### The encoder of the host -/

/-- What the codec calls, with `cbor2.dumps` of a `dict` from numbers to values. -/
structure Cbor2 extends Python where
  dumps : List (Nat × PyValue) → Bytes

inductive EncodeError
  | field (reason : CodecError)
  | encodedBound

/-- The entry of a field. A name that the mapping does not have is one with `None`. -/
def encodeField (python : Python) (source : String → PyValue) (field : FieldRecord) :
    Except CodecError (Option (Nat × PyValue)) :=
  if source field.name = .none then
    if field.required then .error (.missing field.name) else .ok none
  else (validate python field (source field.name)).map fun value => some (field.id, value)

/-- `encode` of a CBOR schema with the given `max_encoded_size`. -/
def encode (cbor2 : Cbor2) (fields : List FieldRecord) (bound : Nat) (source : String → PyValue) :
    Except EncodeError Bytes :=
  match fields.mapM (encodeField cbor2.toPython source) with
  | .error reason => .error (.field reason)
  | .ok entries =>
      let encoded := cbor2.dumps (entries.filterMap id)
      if bound < encoded.length then .error .encodedBound else .ok encoded

end DynamicCodec

namespace Cbor

open Solar.Cbor (Item)
open DynamicCodec hiding encode decode encodeField

/-! ### Values and members -/

/-- The host's value and the firmware's datum mean the same. A status means its enumerator, which
the host has by its code and the firmware by its number. -/
def Represents (errno : Errno) : FieldType → PyValue → Datum → Prop
  | .boolean, .bool value, .boolean datum => value = datum
  | .integer _, .int value, .integer datum => value = datum
  | .enumeration _, .int value, .integer datum => value = datum
  | .enumeration _, .unknownEnum _ value, .integer datum => value = datum
  | .status, .int value, .integer datum | .status, .unknownEnum _ value, .integer datum =>
    ∃ status : Status, value = status.code.toNat ∧ datum = errno.number status
  | .text _, .str value, .text datum => value = datum
  | .bytes _, .bytes value, .bytes datum => value = datum
  | _, _, _ => False

/-- `None` is the empty member. -/
def Agrees (errno : Errno) (type : FieldType) (value : PyValue) : Option Datum → Prop
  | none => value = .none
  | some datum => Represents errno type value datum

/-- The types that the comparison is about: no floating-point numbers, and the capacities that the
manifest can describe. -/
structure Described (schema : Schema) : Prop where
  few : schema.fields.length ≤ 64
  floatless : ∀ field ∈ schema.fields, field.type ≠ .float ∧ field.type ≠ .double
  bounded : ∀ field ∈ schema.fields, field.type.maximumLength < 2 ^ 32

/-- The condition on a value for the firmware to have a member for it: a status is given by an
integer, and text and bytes have a size of 16 bits. -/
def Representable : FieldType → PyValue → Prop
  | .status, .int _ | .status, .unknownEnum _ _ => True
  | .status, _ => False
  | .text _, .str content | .bytes _, .bytes content => content.length < 2 ^ 16
  | _, _ => True

/-- The condition on a value to arrive as it was meant: a status also has its code for its number. -/
def Crosses (errno : Errno) : FieldType → PyValue → Prop
  | .status, .int value | .status, .unknownEnum _ value =>
    ∃ status : Status, value = status.code.toNat ∧ errno.number status = value
  | .status, _ => False
  | .text _, .str content | .bytes _, .bytes content => content.length < 2 ^ 16
  | _, _ => True

/-- The item that `cbor2` writes for a value. -/
def itemOf : PyValue → Option Item
  | .bool value => some (.boolean value)
  | .int value => some (integerItem value)
  | .str content => some (.text content)
  | .bytes content => some (.bytes content)
  | _ => none

/-- What `cbor2` writes, zcbor reads: the items of the values under their numbers, in some order. -/
def Dumps (zcbor : Zcbor) (cbor2 : Cbor2) : Prop :=
  ∀ (entries : List (Nat × PyValue)) (written : List (Nat × Item)),
    Forall₂ (fun entry item => entry.1 = item.1 ∧ itemOf entry.2 = some item.2) entries
      written →
    (∀ entry ∈ written, entry.1 < 2 ^ 32 ∧ entry.2.Fits) → (written.map Prod.fst).Nodup →
    written.length < 2 ^ 32 →
    ∃ sorted, sorted.Perm written ∧ zcbor.takeMap (cbor2.dumps entries) = some (sorted, [])

variable {zcbor : Zcbor} {schema : Schema} {initial : Field → Option Datum} {errno : Errno}

/-! ### What the host accepts for a field -/

variable {content : Bytes} {capacity : Nat}

theorem decodeBounded_of_le_capacity (small : content.length ≤ capacity) :
    decodeBounded capacity content = some (content.take (content.length % 2 ^ 16)) :=
  if_neg small.not_gt

theorem eq_take_mod_iff :
    content = content.take (content.length % 2 ^ 16) ↔ content.length < 2 ^ 16 := by
  constructor
  · intro same
    have length := congrArg length same
    rw [length_take] at length
    omega
  · intro small
    rw [Nat.mod_eq_of_lt small, take_length]

theorem exists_admits_text_iff (small : content.length ≤ capacity) :
    content.length ≤ boundedSize capacity ↔ content.length < 2 ^ 16 := by
  unfold boundedSize
  omega

/-- What the host accepts for a field goes out as an item that the firmware reads. The datum it
reads means the value exactly if the value crosses, and some datum does exactly if it is
representable. -/
def Arrives (zcbor : Zcbor) (errno : Errno) (type : FieldType) (value result : PyValue) : Prop :=
  ∃ item datum, itemOf result = some item ∧ item.Fits ∧ decodeValue zcbor type item = some datum ∧
    (Represents errno type value datum ↔ Crosses errno type value) ∧
    ((∃ member, type.Admits member ∧ Represents errno type value member) ↔ Representable type value)

variable {errno : Errno}

theorem arrives_integer {type : IntegerType} {number : Int} (holds : type.Holds number) :
    Arrives zcbor errno (.integer type) (.int number) (.int number) := by
  refine ⟨integerItem number, .integer number, rfl, fits_integerItem holds, ?_, ?_, ?_⟩
  · rw [decodeValue, decodeInteger_integerItem holds, map_some]
  · exact iff_of_true rfl trivial
  · exact iff_of_true ⟨.integer number, holds, rfl⟩ trivial

theorem arrives_enumeration {declaration : Enumeration} {number : Int} {value : PyValue}
    (holds : declaration.underlying.Holds number) (accepts : declaration.Accepts number)
    (same : value = .int number ∨ ∃ name, value = .unknownEnum name number) :
    Arrives zcbor errno (.enumeration declaration) value (.int number) := by
  refine ⟨integerItem number, .integer number, rfl, fits_integerItem holds, ?_, ?_, ?_⟩
  · rw [decodeValue, decodeInteger_integerItem holds, filter_some,
      if_pos (decide_eq_true accepts), map_some]
  · rcases same with rfl | ⟨name, rfl⟩ <;> exact iff_of_true rfl trivial
  · rcases same with rfl | ⟨name, rfl⟩ <;>
      exact iff_of_true ⟨.integer number, ⟨holds, accepts⟩, rfl⟩ trivial

theorem holds_code {status : Status} : int32.Holds status.code.toNat := by
  have small := status.code_lt
  simp only [IntegerType.Holds, int32, IntegerType.minimum, IntegerType.maximum, Width.bits,
    Width.bytes, if_true]
  omega

/-- A status goes out as the code that `int` gives for it, and is read as a number. -/
theorem arrives_status {status : Status} {value : PyValue}
    (converted : toInt python value = some status.code.toNat) :
    Arrives zcbor errno .status value (.int status.code.toNat) := by
  refine ⟨integerItem status.code.toNat, .integer status.code.toNat, rfl,
    fits_integerItem holds_code, ?_, ?_, ?_⟩
  · rw [decodeValue, decodeInteger_integerItem holds_code, map_some]
  · have known (number : Int) (same : number = status.code.toNat) :
        (∃ other : Status, number = other.code.toNat ∧
            (status.code.toNat : Int) = errno.number other) ↔
          ∃ other : Status, number = other.code.toNat ∧ errno.number other = number := by
      subst same
      exact exists_congr fun other => and_congr_right fun _ => eq_comm
    cases value with
    | int number | unknownEnum name number => exact known number (some.inj converted)
    | _ => exact Iff.rfl
  · have admits : FieldType.status.Admits (.integer (errno.number status)) := errno.holds status
    cases value with
    | int | unknownEnum => exact iff_of_true ⟨_, admits, status, some.inj converted, rfl⟩ trivial
    | _ =>
      refine iff_of_false ?_ id
      rintro ⟨member, -, represents⟩
      exact represents

theorem arrives_text (bounded : capacity < 2 ^ 32) (small : content.length ≤ capacity) :
    Arrives zcbor errno (.text capacity) (.str content) (.str content) := by
  refine ⟨.text content, .text (content.take (content.length % 2 ^ 16)), rfl, ?_, ?_, ?_, ?_⟩
  · exact small.trans_lt (Nat.lt_trans bounded (by decide))
  · rw [decodeValue, decodeBounded_of_le_capacity small, map_some]
  · exact eq_take_mod_iff
  · refine Iff.trans ?_ (exists_admits_text_iff small)
    constructor
    · rintro ⟨member, admits, represents⟩
      cases member with
      | text other =>
        obtain rfl : content = other := represents
        exact admits
      | _ => exact absurd represents id
    · exact fun fits => ⟨.text content, fits, rfl⟩

theorem arrives_bytes (bounded : capacity < 2 ^ 32) (small : content.length ≤ capacity) :
    Arrives zcbor errno (.bytes capacity) (.bytes content) (.bytes content) := by
  refine ⟨.bytes content, .bytes (content.take (content.length % 2 ^ 16)), rfl, ?_, ?_, ?_, ?_⟩
  · exact small.trans_lt (Nat.lt_trans bounded (by decide))
  · rw [decodeValue, decodeBounded_of_le_capacity small, map_some]
  · exact eq_take_mod_iff
  · refine Iff.trans ?_ (exists_admits_text_iff small)
    constructor
    · rintro ⟨member, admits, represents⟩
      cases member with
      | bytes other =>
        obtain rfl : content = other := represents
        exact admits
      | _ => exact absurd represents id
    · exact fun fits => ⟨.bytes content, fits, rfl⟩

/-- What passes the host's check of a field arrives at the firmware. -/
theorem arrives_of_validate {python : Python} {field : Field} {value result : PyValue}
    (plain : field.type ≠ .float ∧ field.type ≠ .double)
    (bounded : field.type.maximumLength < 2 ^ 32) (present : value ≠ .none)
    (valid : validate python (field.record none) value = .ok result) :
    Arrives zcbor errno field.type value result := by
  obtain ⟨id, name, type, optional⟩ := field
  cases type with
  | float => exact absurd rfl plain.1
  | double => exact absurd rfl plain.2
  | boolean =>
    cases value with
    | none => exact absurd rfl present
    | bool flag =>
      obtain rfl := Except.ok.inj valid
      refine ⟨.boolean flag, .boolean flag, rfl, trivial, rfl, iff_of_true rfl trivial, ?_⟩
      exact iff_of_true ⟨.boolean flag, trivial, rfl⟩ trivial
    | _ => exact absurd valid (by simp [validate, Field.record, FieldType.kind])
  | integer type =>
    obtain ⟨signed, width⟩ := type
    cases value with
    | none => exact absurd rfl present
    | int number =>
      cases signed <;>
        simp only [validate, Field.record, FieldType.kind, FieldType.width,
          Bool.false_eq_true, if_true, if_false] at valid <;>
        split_ifs at valid with inside <;>
        obtain rfl := Except.ok.inj valid <;>
        exact arrives_integer ((within_iff_holds _ number).mp inside)
    | _ =>
      cases signed <;>
        exact absurd valid (by simp [validate, Field.record, FieldType.kind])
  | enumeration declaration =>
    have passes (number : Int)
        (same : value = .int number ∨ ∃ name, value = .unknownEnum name number)
        (checked : (if within declaration.record.underlyingSigned
              declaration.record.underlyingWidth number then
            (checkEnum declaration.record number).map fun _ => PyValue.int number
          else .error (.enumWidth name)) = .ok result) :
        Arrives zcbor errno (.enumeration declaration) value result := by
      split_ifs at checked with inside
      have accepts : declaration.Accepts number := by
        intro closed
        by_contra unknown
        have refused : checkEnum declaration.record number =
            .error (.undeclared number declaration.record.name) := by
          rw [checkEnum, declaration.record_values, if_neg unknown]
          simp [Enumeration.record, closed]
        rw [refused] at checked
        cases checked
      rw [checkEnum_record accepts] at checked
      obtain rfl := Except.ok.inj checked
      exact arrives_enumeration
        ((within_iff_holds declaration.underlying number).mp inside) accepts same
    cases value with
    | none => exact absurd rfl present
    | int number => exact passes number (.inl rfl) valid
    | unknownEnum name number => exact passes number (.inr ⟨name, rfl⟩) valid
    | _ =>
      exact absurd valid (by simp [validate, Field.record, FieldType.kind,
        FieldType.reference, validateEnum])
  | status =>
    have checked : validateStatus python statusRecord value = .ok result := by
      cases value with
      | none => exact absurd rfl present
      | _ => exact valid
    unfold validateStatus at checked
    cases converted : toInt python value with rw [converted] at checked
    | none => cases checked
    | some number =>
      dsimp only at checked
      split_ifs at checked with known
      obtain ⟨status, rfl⟩ := mem_statusRecord_values.mp known
      obtain rfl := Except.ok.inj checked
      exact arrives_status converted
  | text capacity =>
    cases value with
    | none => exact absurd rfl present
    | str content =>
      by_cases small : content.length ≤ capacity
      · obtain rfl := Except.ok.inj ((if_pos small).symm.trans valid)
        exact arrives_text bounded small
      · cases (if_neg small).symm.trans valid
    | _ => exact absurd valid (by simp [validate, Field.record, FieldType.kind])
  | bytes capacity =>
    cases value with
    | none => exact absurd rfl present
    | bytes content =>
      by_cases small : content.length ≤ capacity
      · obtain rfl := Except.ok.inj ((if_pos small).symm.trans valid)
        exact arrives_bytes bounded small
      · cases (if_neg small).symm.trans valid
    | _ => exact absurd valid (by simp [validate, Field.record, FieldType.kind])

/-! ### The maps that cross -/

/-- The map that has an item for each member of a list that gives one. -/
theorem items_filterMap {α : Type} {key : α → UInt16} {item? : α → Option Item} {list : List α}
    (distinct : (list.map key).Nodup) {value : α} (inside : value ∈ list) :
    items (key value)
        (list.filterMap fun other => (item? other).map fun item => ((key other).toNat, item)) =
      (item? value).toList := by
  induction list with
  | nil => exact absurd inside not_mem_nil
  | cons first rest ih =>
    rw [map_cons, nodup_cons] at distinct
    have split : ((first :: rest).filterMap fun other =>
        (item? other).map fun item => ((key other).toNat, item)) =
          ((item? first).map fun item => ((key first).toNat, item)).toList ++
            rest.filterMap fun other => (item? other).map fun item => ((key other).toNat, item) := by
      rw [filterMap_cons]
      cases item? first <;> rfl
    have absent (other : α) (elsewhere : ∀ entry ∈ rest, key entry ≠ key other) :
        items (key other) (rest.filterMap fun entry =>
          (item? entry).map fun item => ((key entry).toNat, item)) = [] := by
      refine items_eq_nil fun entry member => ?_
      obtain ⟨source, known, made⟩ := mem_filterMap.mp member
      obtain ⟨item, -, rfl⟩ := map_eq_some_iff.mp made
      exact fun same => elsewhere source known (UInt16.toNat_inj.mp same)
    rw [split, items_append]
    rcases mem_cons.mp inside with rfl | later
    · rw [absent value fun entry member same => distinct.1 (same ▸ mem_map_of_mem member)]
      cases item? value with
      | none => rfl
      | some item => simp [items]
    · have other : key first ≠ key value := fun same =>
        distinct.1 (same ▸ mem_map_of_mem later)
      rw [ih distinct.2 later, items_eq_nil, nil_append]
      intro entry member
      obtain ⟨item, -, rfl⟩ := map_eq_some_iff.mp (mem_toList.mp member)
      exact fun same => other (UInt16.toNat_inj.mp same)

theorem items_of_perm {id : UInt16} {entries sorted : List (Nat × Item)} {item : Option Item}
    (same : sorted.Perm entries) (only : items id entries = item.toList) :
    items id sorted = item.toList := by
  have permuted : (items id sorted).Perm (items id entries) := (same.filter _).map _
  rw [only] at permuted
  cases item with
  | none => exact permuted.eq_nil
  | some item => exact permuted.eq_singleton

theorem cut_eq_self {entries : List (Nat × Item)} (small : ∀ entry ∈ entries, entry.1 < 2 ^ 16) :
    cut entries = entries := by
  refine (map_congr_left fun entry member => ?_).trans (map_id entries)
  exact Prod.ext (Nat.mod_eq_of_lt (small entry member)) rfl

/-! ### Assignments of the host -/

section Assignments

variable {python : Python} {source : String → PyValue}

/-- The item that goes out for a field. -/
def sent (python : Python) (source : String → PyValue) (field : Field) : Option Item :=
  match DynamicCodec.encodeField python source (field.record none) with
  | .ok (some entry) => itemOf entry.2
  | _ => none

variable {entry : Option (Nat × PyValue)} {field : Field}

/-- What goes out for a field that the host accepts: nothing for `None`, or what arrives. -/
theorem encodeField_cases
    (accepted : DynamicCodec.encodeField python source (field.record none) = .ok entry) :
    (source field.name = .none ∧ field.optional = true ∧ entry = none) ∨
      (source field.name ≠ .none ∧ ∃ result, entry = some (field.id.toNat, result) ∧
        validate python (field.record none) (source field.name) = .ok result) := by
  have name : (field.record none).name = field.name := rfl
  unfold DynamicCodec.encodeField at accepted
  rw [name] at accepted
  by_cases empty : source field.name = .none
  · rw [if_pos empty] at accepted
    cases optional : field.optional with
    | false => exact absurd accepted (by simp [Field.record, optional])
    | true =>
      simp only [Field.record, optional, Bool.not_true, Bool.false_eq_true, if_false] at accepted
      exact .inl ⟨empty, rfl, (Except.ok.inj accepted).symm⟩
  · rw [if_neg empty] at accepted
    cases checked : validate python (field.record none) (source field.name) with
    | error reason =>
      rw [checked] at accepted
      cases accepted
    | ok result =>
      rw [checked] at accepted
      exact .inr ⟨empty, result, (Except.ok.inj accepted).symm, rfl⟩

theorem sent_cases (zcbor : Zcbor) (errno : Errno) (described : Described schema)
    (known : field ∈ schema.fields)
    (accepted : DynamicCodec.encodeField python source (field.record none) = .ok entry) :
    (source field.name = .none ∧ field.optional = true ∧ entry = none ∧
        sent python source field = none) ∨
      (source field.name ≠ .none ∧ ∃ result, entry = some (field.id.toNat, result) ∧
        sent python source field = itemOf result ∧
        Arrives zcbor errno field.type (source field.name) result) := by
  rcases encodeField_cases accepted with ⟨empty, optional, rfl⟩ | ⟨present, result, rfl, valid⟩
  · refine .inl ⟨empty, optional, rfl, ?_⟩
    rw [sent, accepted]
  · refine .inr ⟨present, result, rfl, ?_, ?_⟩
    · rw [sent, accepted]
    · exact arrives_of_validate (described.floatless field known) (described.bounded field known)
        present valid

theorem written_entries (zcbor : Zcbor) (errno : Errno) (described : Described schema)
    {fields : List Field} (known : ∀ field ∈ fields, field ∈ schema.fields)
    {entries : List (Option (Nat × PyValue))}
    (accepted : Forall₂ (fun field entry =>
      DynamicCodec.encodeField python source (field.record none) = .ok entry) fields entries) :
    Forall₂ (fun entry item => entry.1 = item.1 ∧ itemOf entry.2 = some item.2)
      (entries.filterMap id)
      (fields.filterMap fun field =>
        (sent python source field).map fun item => (field.id.toNat, item)) := by
  induction accepted with
  | nil => exact Forall₂.nil
  | @cons field entry fields entries first rest ih =>
    have later := ih fun other member => known other (mem_cons_of_mem _ member)
    rcases sent_cases zcbor errno described (known field mem_cons_self) first with
      ⟨-, -, rfl, silent⟩ | ⟨-, result, rfl, goes, item, _, made, -⟩
    · rw [filterMap_cons_none (show id (none : Option (Nat × PyValue)) = none from rfl),
        filterMap_cons_none (by rw [silent]; rfl)]
      exact later
    · have kept : id (some (field.id.toNat, result)) = some (field.id.toNat, result) := rfl
      rw [filterMap_cons_some kept, filterMap_cons_some (by rw [goes, made]; rfl)]
      exact Forall₂.cons ⟨rfl, made⟩ later

/-- The map of the entries that an accepted assignment is written as. -/
def writtenOf (schema : Schema) (python : Python) (source : String → PyValue) : List (Nat × Item) :=
  schema.fields.filterMap fun field =>
    (sent python source field).map fun item => (field.id.toNat, item)

theorem keys_writtenOf_nodup : ((writtenOf schema python source).map Prod.fst).Nodup := by
  have sublist (fields : List Field) : ((fields.filterMap fun field =>
      (sent python source field).map fun item => (field.id.toNat, item)).map Prod.fst).Sublist
        (fields.map fun field => field.id.toNat) := by
    induction fields with
    | nil => exact Sublist.slnil
    | cons field rest ih =>
      rw [filterMap_cons]
      cases sent python source field with
      | none => exact ih.cons _
      | some item => exact ih.cons_cons _
  refine (sublist schema.fields).nodup ?_
  have distinct := schema.ids_nodup
  rw [Nodup, pairwise_map] at distinct ⊢
  exact distinct.imp fun different same => different (UInt16.toNat_inj.mp same)

/-- zcbor reads what an accepted assignment is encoded as. -/
theorem exists_sorted (zcbor : Zcbor) (errno : Errno) {cbor2 : Cbor2} (dumps : Dumps zcbor cbor2)
    (described : Described schema) {bound : Nat} {bytes : Bytes}
    (accepted : DynamicCodec.encode cbor2 (records schema) bound source = .ok bytes) :
    (∃ sorted, sorted.Perm (writtenOf schema cbor2.toPython source) ∧
      zcbor.takeMap bytes = some (sorted, [])) ∧
    ∀ field ∈ schema.fields, ∃ entry,
      DynamicCodec.encodeField cbor2.toPython source (field.record none) = .ok entry := by
  unfold DynamicCodec.encode at accepted
  cases made : (records schema).mapM (DynamicCodec.encodeField cbor2.toPython source) with
  | error reason =>
    rw [made] at accepted
    cases accepted
  | ok entries =>
    rw [made] at accepted
    dsimp only at accepted
    split_ifs at accepted with large
    obtain rfl := Except.ok.inj accepted
    rw [records, Pointwise.mapM_eq_ok_iff, forall₂_map_left_iff] at made
    have each : ∀ field ∈ schema.fields, ∃ entry,
        DynamicCodec.encodeField cbor2.toPython source (field.record none) = .ok entry := by
      intro field known
      obtain ⟨entry, -, encoded⟩ := Pointwise.exists_of_mem made known
      exact ⟨entry, encoded⟩
    refine ⟨dumps _ _ (written_entries zcbor errno described (fun _ => id) made) ?_ ?_ ?_, each⟩
    · intro entry member
      obtain ⟨field, known, mapped⟩ := mem_filterMap.mp member
      obtain ⟨item, goes, rfl⟩ := map_eq_some_iff.mp mapped
      obtain ⟨other, encoded⟩ := each field known
      refine ⟨Nat.lt_trans field.id.toNat_lt (by decide), ?_⟩
      rcases sent_cases zcbor errno described known encoded with
        ⟨-, -, -, silent⟩ | ⟨-, result, -, same, arrived, _, out, fits, -⟩
      · cases silent.symm.trans goes
      · obtain ⟨⟩ := (same.trans out).symm.trans goes
        exact fits
    · exact keys_writtenOf_nodup
    · have few := described.few
      unfold writtenOf
      have most := length_filterMap_le (fun field : Field =>
        (sent cbor2.toPython source field).map fun item => (field.id.toNat, item)) schema.fields
      omega

theorem items_sorted {sorted : List (Nat × Item)}
    (same : sorted.Perm (writtenOf schema python source)) (known : field ∈ schema.fields) :
    items field.id (cut sorted) = (sent python source field).toList := by
  have small : ∀ entry ∈ sorted, entry.1 < 2 ^ 16 := by
    intro entry member
    obtain ⟨other, -, mapped⟩ := mem_filterMap.mp (same.mem_iff.mp member)
    obtain ⟨item, -, rfl⟩ := map_eq_some_iff.mp mapped
    exact other.id.toNat_lt
  rw [cut_eq_self small]
  exact items_of_perm same (items_filterMap schema.ids_nodup known)

/-- A value arrives as it was meant. `Value{}` is to be empty where the value is. -/
def Delivers (errno : Errno) (initial : Field → Option Datum) (field : Field) (value : PyValue) :
    Prop :=
  if value = .none then initial field = none else Crosses errno field.type value

theorem delivers_iff (described : Described schema) (known : field ∈ schema.fields)
    (encoded : DynamicCodec.encodeField python source (field.record none) = .ok entry)
    {entries : List (Nat × Item)}
    (found : items field.id entries = (sent python source field).toList) :
    (∃ member, Settles zcbor initial entries field member ∧
        Agrees errno field.type (source field.name) member) ↔
      Delivers errno initial field (source field.name) := by
  unfold Delivers
  rcases sent_cases zcbor errno described known encoded with
    ⟨empty, optional, -, silent⟩ | ⟨present, result, -, goes, item, datum, made, -, decodes, means, -⟩
  · rw [silent] at found
    rw [empty]
    constructor
    · rintro ⟨member, ⟨-, -, rfl⟩ | ⟨item, _, one, -⟩, agrees⟩
      · cases held : initial field with
        | none => rfl
        | some datum =>
          rw [held] at agrees
          cases type : field.type <;> rw [type] at agrees <;> exact absurd agrees id
      · exact absurd (found.symm.trans one) (by simp)
    · intro blank
      exact ⟨none, .inl ⟨optional, found, blank.symm⟩, rfl⟩
  · rw [goes, made] at found
    rw [if_neg present, ← means]
    constructor
    · rintro ⟨member, ⟨-, absent, -⟩ | ⟨other, decoded, one, also, rfl⟩, agrees⟩
      · exact absurd (found.symm.trans absent) (by simp)
      · obtain rfl := singleton_inj.mp (found.symm.trans one)
        obtain ⟨⟩ := decodes.symm.trans also
        exact agrees
    · intro represents
      exact ⟨some datum, .inr ⟨item, datum, found, decodes, rfl⟩, represents⟩

theorem representable_iff (described : Described schema) (known : field ∈ schema.fields)
    (encoded : DynamicCodec.encodeField python source (field.record none) = .ok entry) :
    (∃ member, field.Admits member ∧ Agrees errno field.type (source field.name) member) ↔
      (source field.name ≠ .none → Representable field.type (source field.name)) := by
  rcases sent_cases wire errno described known encoded with
    ⟨empty, optional, -⟩ | ⟨present, _, -, -, _, _, -, -, -, -, admitted⟩
  · exact iff_of_true ⟨none, optional, empty⟩ fun present => absurd empty present
  · rw [← admitted]
    constructor
    · rintro ⟨member, admits, agrees⟩ -
      cases member with
      | none => exact absurd agrees present
      | some datum => exact ⟨datum, admits, agrees⟩
    · intro some
      obtain ⟨datum, admits, represents⟩ := some present
      exact ⟨Option.some datum, admits, represents⟩

/-- The firmware reads what the host accepts as it was meant iff every value is delivered, and has a
value for it iff every value that is not `None` is representable. -/
theorem firmware_reads_iff {cbor2 : Cbor2} (dumps : Dumps zcbor cbor2)
    (described : Described schema) {bound : Nat} {bytes : Bytes}
    (accepted : DynamicCodec.encode cbor2 (records schema) bound source = .ok bytes) :
    ((∃ members, decode zcbor schema initial bytes = .ok members ∧
        Forall₂ (fun field member => Agrees errno field.type (source field.name) member)
          schema.fields members) ↔
      ∀ field ∈ schema.fields, Delivers errno initial field (source field.name)) ∧
    ((∃ value : Value schema,
        Forall₂ (fun field member => Agrees errno field.type (source field.name) member)
          schema.fields value.members) ↔
      ∀ field ∈ schema.fields, source field.name ≠ .none →
        Representable field.type (source field.name)) := by
  obtain ⟨⟨sorted, same, taken⟩, each⟩ := exists_sorted zcbor errno dumps described accepted
  constructor
  · have settled : (∃ members, decode zcbor schema initial bytes = .ok members ∧
        Forall₂ (fun field member => Agrees errno field.type (source field.name) member)
          schema.fields members) ↔
        ∃ members, Forall₂ (Settles zcbor initial (cut sorted)) schema.fields members ∧
          Forall₂ (fun field member => Agrees errno field.type (source field.name) member)
            schema.fields members := by
      refine exists_congr fun members => and_congr_left fun _ => ?_
      rw [decode_eq_ok_iff described.few]
      constructor
      · rintro ⟨entries, read, settles⟩
        cases some.inj (taken.symm.trans read)
        exact settles
      · exact fun settles => ⟨sorted, taken, settles⟩
    rw [settled, Pointwise.exists_and_iff]
    refine forall₂_congr fun field known => ?_
    obtain ⟨entry, encoded⟩ := each field known
    exact delivers_iff described known encoded (items_sorted same known)
  · have valued : (∃ value : Value schema,
        Forall₂ (fun field member => Agrees errno field.type (source field.name) member)
          schema.fields value.members) ↔
        ∃ members, Forall₂ Field.Admits schema.fields members ∧
          Forall₂ (fun field member => Agrees errno field.type (source field.name) member)
            schema.fields members :=
      ⟨fun ⟨value, agrees⟩ => ⟨_, value.admitted, agrees⟩,
        fun ⟨members, admitted, agrees⟩ => ⟨⟨members, admitted⟩, agrees⟩⟩
    rw [valued, Pointwise.exists_and_iff]
    refine forall₂_congr fun field known => ?_
    obtain ⟨entry, encoded⟩ := each field known
    exact representable_iff described known encoded

end Assignments

/-! ### Values of the firmware -/

variable {python : Python} {load : Item → PyValue}

theorem load_of_encodeValue (reads : Reads load) {type : FieldType} {item : Item} {datum : Datum}
    (plain : type ≠ .float ∧ type ≠ .double)
    (encoded : encodeValue zcbor type datum = some item) : load item = pyOf item := by
  refine (reads item).resolve_right ?_
  rintro ⟨given, -, fraction, -⟩
  have whole (value : Int) (same : integerItem value = item) : False :=
    PyValue.noConfusion
      ((pyOf_of_integer? (same ▸ integer?_integerItem value)).symm.trans fraction)
  unfold encodeValue at encoded
  split at encoded
  · cases encoded
    exact PyValue.noConfusion fraction
  · split_ifs at encoded
    exact whole _ (some.inj encoded)
  · exact whole _ (some.inj encoded)
  · exact whole _ (some.inj encoded)
  · exact plain.1 rfl
  · exact plain.2 rfl
  · cases encoded
    exact PyValue.noConfusion fraction
  · cases encoded
    exact PyValue.noConfusion fraction
  · cases encoded

/-- What the host takes for an item that the firmware writes for a member that is no status. -/
theorem decodeField_of_encodeValue {field : Field} {raw : PyDict} {item : Item} {datum : Datum}
    (plain : field.type ≠ .float ∧ field.type ≠ .double) (admits : field.type.Admits datum)
    (encoded : encodeValue zcbor field.type datum = some item) (other : field.type ≠ .status)
    (found : raw.numbered.lookup (field.id.toNat : Int) = some (pyOf item)) :
    ∃ result, decodeField python raw (field.record none) = .ok result ∧
      Represents errno field.type result datum := by
  obtain ⟨key, name, type, optional⟩ := field
  have whole (value : Int) : pyOf (integerItem value) = .int value :=
    pyOf_of_integer? (integer?_integerItem value)
  cases type with
  | status => exact absurd rfl other
  | float => exact absurd rfl plain.1
  | double => exact absurd rfl plain.2
  | boolean =>
    cases datum with
    | boolean value =>
      obtain ⟨⟩ := encoded
      exact ⟨.bool value, decodeField_of_validate python found rfl
        (by simp [Field.record, FieldType.kind]), rfl⟩
    | _ => exact absurd admits id
  | integer type =>
    cases datum with
    | integer value =>
      obtain ⟨⟩ := encoded
      have inside := (within_iff_holds type value).mpr admits
      rw [whole value] at found
      have numeric : (FieldType.integer type).kind ≠ .enum := FieldType.kind_ne_enum rfl
      refine ⟨.int value, decodeField_of_validate python found ?_ numeric, rfl⟩
      cases signed : type.signed with
      | _ =>
        rw [signed] at inside
        simp [validate, Field.record, FieldType.kind, FieldType.width, signed, inside]
    | _ => exact absurd admits id
  | enumeration declaration =>
    cases datum with
    | integer value =>
      obtain ⟨holds, accepts⟩ := admits
      obtain ⟨⟩ := (if_pos accepts).symm.trans encoded
      rw [whole value] at found
      have valid : validateEnum
          (Field.record ⟨key, name, .enumeration declaration, optional⟩ none) declaration.record
          (.int value) = .ok (.int value) :=
        validateEnum_record holds accepts (.inl rfl)
      have looked : raw.numbered.lookup (key.toNat : Int) = some (.int value) := found
      have checked := checkEnum_record accepts
      have taken : decodeField python raw
          (Field.record ⟨key, name, .enumeration declaration, optional⟩ none) =
            checkEnum declaration.record value := by
        unfold decodeField
        simp only [Field.record] at valid ⊢
        simp only [looked, validate, FieldType.kind, FieldType.reference] at valid ⊢
        rw [valid]
        rfl
      rw [checked] at taken
      by_cases known : value ∈ declaration.values
      · rw [if_pos known] at taken
        exact ⟨_, taken, rfl⟩
      · rw [if_neg known] at taken
        exact ⟨_, taken, rfl⟩
    | _ => exact absurd admits id
  | text capacity =>
    cases datum with
    | text content =>
      obtain ⟨⟩ := encoded
      have small : content.length ≤ capacity := admits.trans (Nat.min_le_left _ _)
      exact ⟨.str content, decodeField_of_validate python found (if_pos small)
        (by simp [Field.record, FieldType.kind]), rfl⟩
    | _ => exact absurd admits id
  | bytes capacity =>
    cases datum with
    | bytes content =>
      obtain ⟨⟩ := encoded
      have small : content.length ≤ capacity := admits.trans (Nat.min_le_left _ _)
      exact ⟨.bytes content, decodeField_of_validate python found (if_pos small)
        (by simp [Field.record, FieldType.kind]), rfl⟩
    | _ => exact absurd admits id

variable {value : Value schema}

theorem items_entriesOf {pair : Field × Option Datum}
    (inside : pair ∈ schema.fields.zip value.members) :
    items pair.1.id (entriesOf zcbor schema.fields value.members) =
      (pair.2.bind (encodeValue zcbor pair.1.type)).toList := by
  have firsts : (schema.fields.zip value.members).map Prod.fst = schema.fields :=
    map_fst_zip value.admitted.length_eq.le
  have distinct : ((schema.fields.zip value.members).map fun other => other.1.id).Nodup := by
    have mapped : ((schema.fields.zip value.members).map fun other => other.1.id) =
        ((schema.fields.zip value.members).map Prod.fst).map Field.id := by
      rw [List.map_map]
      rfl
    rw [mapped, firsts]
    exact schema.ids_nodup
  have same : entriesOf zcbor schema.fields value.members =
      (schema.fields.zip value.members).filterMap fun other =>
        (other.2.bind (encodeValue zcbor other.1.type)).map fun item =>
          (other.1.id.toNat, item) := by
    refine filterMap_congr fun other _ => ?_
    rw [Option.map_bind]
    rfl
  rw [same]
  exact items_filterMap
    distinct inside

/-- The host takes a member as it is meant iff it is no status whose number is not its code. -/
theorem decodeField_agrees_iff (reads : Reads load) (correct : zcbor.Correct)
    (described : Described schema)
    {pair : Field × Option Datum} (inside : pair ∈ schema.fields.zip value.members) :
    (∃ result, decodeField python
          (dictOf load (entriesOf zcbor schema.fields value.members)) (pair.1.record none) =
            .ok result ∧
        Agrees errno pair.1.type result pair.2) ↔
      (pair.1.type = .status → ∀ number, pair.2 = some (.integer number) →
        ∃ status : Status, number = status.code.toNat ∧ number = errno.number status) := by
  have admits : pair.1.Admits pair.2 := (forall₂_iff_zip.mp value.admitted).2 inside
  have known : pair.1 ∈ schema.fields := (of_mem_zip inside).1
  have looked := lookup_dictOf load pair.1.id (entriesOf zcbor schema.fields value.members)
  rw [items_entriesOf inside] at looked
  obtain ⟨field, member⟩ := pair
  cases member with
  | none =>
    exact iff_of_true ⟨.none, decodeField_absent none admits looked, rfl⟩
      fun _ number present => nomatch present
  | some datum =>
    obtain ⟨item, encoded, -, decodes⟩ := decodeValue_encodeValue correct admits
    rw [bind_some, encoded] at looked
    by_cases status : field.type = .status
    · have decoded : decodeValue zcbor .status item = some datum := status ▸ decodes
      obtain ⟨number, found, rfl⟩ := map_eq_some_iff.mp decoded
      rw [decodeField_status reads none status looked (decodeInteger_eq_some_iff.mp found).1]
      constructor
      · rintro ⟨result, taken, agrees⟩ - other same
        obtain rfl := Datum.integer.inj (some.inj same)
        split_ifs at taken with code
        obtain rfl := Except.ok.inj taken
        rw [status] at agrees
        exact agrees
      · intro coded
        obtain ⟨named, code, represents⟩ := coded status number rfl
        have listed : number ∈ statusRecord.values := mem_statusRecord_values.mpr ⟨named, code⟩
        refine ⟨.int number, if_pos listed, ?_⟩
        rw [status]
        exact ⟨named, code, represents⟩
    · have plain := described.floatless field known
      rw [toList_some, head?_cons, map_some, load_of_encodeValue reads plain encoded] at looked
      exact iff_of_true (decodeField_of_encodeValue plain admits encoded status looked)
        fun same => absurd same status

/-- The host reads a value of the firmware as it is meant iff each of its statuses has its code for
its number. -/
theorem host_agrees_iff (correct : zcbor.Correct) (loads : Loads zcbor python)
    (described : Described schema)
    (texts : ∀ pair ∈ schema.fields.zip value.members, ∀ content,
      pair.2 = some (.text content) → ValidText content) :
    (∃ output, DynamicCodec.decode python (records schema)
          (putMap zcbor (entriesOf zcbor schema.fields value.members)) = .ok output ∧
        Forall₂ (fun pair result => Agrees errno pair.1.type result pair.2)
          (schema.fields.zip value.members) output) ↔
      ∀ pair ∈ schema.fields.zip value.members, pair.1.type = .status →
        ∀ number, pair.2 = some (.integer number) →
          ∃ status : Status, number = status.code.toNat ∧ number = errno.number status := by
  have firsts : (schema.fields.zip value.members).map Prod.fst = schema.fields :=
    map_fst_zip value.admitted.length_eq.le
  have paired : records schema =
      (schema.fields.zip value.members).map fun pair => pair.1.record none := by
    conv_lhs => rw [records, ← firsts, List.map_map]
    rfl
  obtain ⟨load, reads, loads⟩ := loads
  rw [decode_putMap correct described.few loads value,
    if_pos ((readable_entriesOf_iff value).mpr texts)]
  have split : (∃ output, (records schema).mapM (decodeField python
          (dictOf load (entriesOf zcbor schema.fields value.members))) = .ok output ∧
        Forall₂ (fun pair result => Agrees errno pair.1.type result pair.2)
          (schema.fields.zip value.members) output) ↔
      ∃ output, Forall₂ (fun pair result => decodeField python
            (dictOf load (entriesOf zcbor schema.fields value.members)) (pair.1.record none) =
              .ok result)
          (schema.fields.zip value.members) output ∧
        Forall₂ (fun pair result => Agrees errno pair.1.type result pair.2)
          (schema.fields.zip value.members) output := by
    rw [paired]
    refine exists_congr fun output => and_congr_left fun _ => ?_
    rw [Pointwise.mapM_eq_ok_iff, forall₂_map_left_iff]
  rw [split, Pointwise.exists_and_iff]
  exact forall₂_congr fun pair inside => decodeField_agrees_iff reads correct described inside

/-! ### Both directions -/

/-- The firmware reads an assignment that the host accepts as it was meant iff it delivers every
value, and has a value for it iff every value is representable; the host reads a value of the
firmware whose text is UTF-8 iff its statuses have their codes for their numbers. -/
theorem object_codecs_agree (initial : Field → Option Datum) (errno : Errno) {cbor2 : Cbor2}
    (correct : zcbor.Correct) (loads : Loads zcbor cbor2.toPython) (dumps : Dumps zcbor cbor2)
    (described : Described schema) :
    (∀ source bound bytes, DynamicCodec.encode cbor2 (records schema) bound source = .ok bytes →
      ((∃ members, decode zcbor schema initial bytes = .ok members ∧
          Forall₂ (fun field member => Agrees errno field.type (source field.name) member)
            schema.fields members) ↔
        ∀ field ∈ schema.fields, Delivers errno initial field (source field.name)) ∧
      ((∃ value : Value schema,
          Forall₂ (fun field member => Agrees errno field.type (source field.name) member)
            schema.fields value.members) ↔
        ∀ field ∈ schema.fields, source field.name ≠ .none →
          Representable field.type (source field.name))) ∧
    ∀ value : Value schema,
      (∀ pair ∈ schema.fields.zip value.members, ∀ content, pair.2 = some (.text content) →
        ValidText content) →
      ∃ bytes, (∀ capacity, encode zcbor schema value.members capacity =
          if bytes.length ≤ capacity then .ok bytes else .error .noSpace) ∧
        ((∃ output, DynamicCodec.decode cbor2.toPython (records schema) bytes = .ok output ∧
            Forall₂ (fun pair result => Agrees errno pair.1.type result pair.2)
              (schema.fields.zip value.members) output) ↔
          ∀ pair ∈ schema.fields.zip value.members, pair.1.type = .status →
            ∀ number, pair.2 = some (.integer number) →
              ∃ status : Status, number = status.code.toNat ∧ number = errno.number status) := by
  constructor
  · intro source bound bytes accepted
    exact firmware_reads_iff dumps described accepted
  · intro value texts
    exact ⟨_, encode_eq correct value, host_agrees_iff correct loads described texts⟩

/-- A host that writes what `wire` reads. -/
def wireCbor2 : Cbor2 where
  toPython := wirePython
  dumps entries :=
    putMap wire (entries.filterMap fun entry => (itemOf entry.2).map fun item => (entry.1, item))

theorem wire_dumps : Dumps wire wireCbor2 := by
  intro entries written related fits distinct few
  clear distinct
  have same : (entries.filterMap fun entry => (itemOf entry.2).map fun item => (entry.1, item)) =
      written := by
    clear fits few
    induction related with
    | nil => rfl
    | @cons entry item entries written first rest ih =>
      rw [filterMap_cons_some (show _ = some item by
          rw [first.2, map_some, first.1]),
        ih]
  refine ⟨written, Perm.refl _, ?_⟩
  simp only [wireCbor2, same]
  exact takeMap_putMap wire_correct fits few

/-- A count without a note. -/
def counterSource (name : String) : PyValue := if name = "count" then .int 200 else .none

theorem counter_described : Described counterSchema where
  few := by decide
  floatless := by
    intro field known
    simp only [counterSchema, mem_cons, not_mem_nil, or_false] at known
    rcases known with rfl | rfl <;> exact ⟨nofun, nofun⟩
  bounded := by decide

/-- A count from either side. -/
theorem object_codecs_agree_counter :
    (∃ members, decode wire counterSchema counterInitial [0xA1, 1, 0x18, 200] = .ok members ∧
      Forall₂ (fun field member =>
          Agrees linux field.type (counterSource field.name) member)
        counterSchema.fields members) ∧
    ∃ bytes output, encode wire counterSchema counterValue.members bytes.length = .ok bytes ∧
      DynamicCodec.decode wirePython (records counterSchema) bytes = .ok output ∧
      Forall₂ (fun pair result => Agrees linux pair.1.type result pair.2)
        (counterSchema.fields.zip counterValue.members) output := by
  obtain ⟨host, firmware⟩ := object_codecs_agree counterInitial linux wire_correct wire_loads
    wire_dumps counter_described
  constructor
  · refine (host counterSource 16 [0xA1, 1, 0x18, 200] rfl).1.mpr ?_
    intro field known
    simp only [counterSchema, mem_cons, not_mem_nil, or_false] at known
    rcases known with rfl | rfl
    · exact trivial
    · exact rfl
  · obtain ⟨bytes, encoded, read⟩ := firmware counterValue (by simp [counterSchema, counterValue])
    obtain ⟨output, decoded, agrees⟩ := read.mpr (by simp [counterSchema, counterValue])
    exact ⟨bytes, output, (encoded bytes.length).trans (if_pos le_rfl), decoded, agrees⟩

/-- An error with a status that the host gives. -/
def errorSource (status : PyValue) (name : String) : PyValue :=
  if name = "status" then status else .int 0

/-- The host's `NotFound` arrives as `Interrupted`, the firmware's as `Invalid`; and the host takes
`True` for a status. -/
theorem object_codecs_disagree :
    (∃ bytes, DynamicCodec.encode wireCbor2 (records errorSchema) 16 (errorSource (.int 4)) =
        .ok bytes ∧
      decode wire errorSchema (fun _ => none) bytes =
        .ok [some (.integer (linux.number .interrupted)), some (.integer 0)] ∧
      ¬Agrees linux .status (.int Status.notFound.code.toNat)
        (some (.integer (linux.number .interrupted)))) ∧
    (∃ bytes, encode wire errorSchema notFoundError.members 16 = .ok bytes ∧
      DynamicCodec.decode wirePython (records errorSchema) bytes = .ok [.int 2, .int (-2)] ∧
      ¬Agrees linux .status (.int 2) (some (.integer (linux.number .notFound)))) ∧
    (∃ bytes, DynamicCodec.encode wireCbor2 (records errorSchema) 16 (errorSource (.bool true)) =
        .ok bytes) ∧
      ∀ member, ¬Agrees linux .status (.bool true) (some member) := by
  refine ⟨⟨[0xA2, 1, 4, 2, 0], rfl, rfl, ?_⟩, ⟨[0xA2, 1, 2, 2, 0x21], rfl, rfl, ?_⟩,
    ⟨[0xA2, 1, 1, 2, 0], rfl⟩, fun member => id⟩
  · rintro ⟨status, code, number⟩
    have same : status = .interrupted := (linux.injective number).symm
    subst same
    exact absurd code (by decide)
  · rintro ⟨status, code, number⟩
    have same : status = .notFound := (linux.injective number).symm
    subst same
    exact absurd code (by decide)

end Cbor

end Solar.Remote
