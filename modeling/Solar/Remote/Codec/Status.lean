/-
This file follows a `Status` through the codecs. On its own it travels as its wire
code, but the decoder casts the code to 8 bits before it looks it up. As a field of
an object it travels as its `errno` number, which the host reads as a wire code and
the firmware takes back without a look at the codes.

A status in an object therefore means the same on both sides only if its number is
its code, which for the usual numbers is the case of `Ok` alone.
-/

import Solar.Remote.Codec.Dynamic
import Solar.Remote.Codec.Object

namespace Solar.Remote.Cbor

open List hiding map_map mem_map
open Option hiding map map_map mem_map

open Solar.Cbor (Item)
open DynamicCodec hiding decode

/-! ### A status on its own -/

section Bare

variable (zcbor : Zcbor) (errno : Errno)

/-- `cbor::decode` of a `Status`. The code is cast to the 8 bits of `StatusCode`. -/
def decodeStatus (input : Bytes) : Except Reason Int :=
  match zcbor.take input with
  | some (.unsigned code, rest) =>
    if 2 ^ 32 ≤ code ∨ rest ≠ [] then .error .malformed
    else
      match Status.decodeStatus (UInt8.ofNat code) with
      | none => .error .invalidValue
      | some status => .ok (errno.number status)
  | _ => .error .malformed

end Bare

variable {zcbor : Zcbor} {schema : Schema} {initial : Field → Option Datum} {errno : Errno}

/-- The decoder takes the codes whose low byte is a code. -/
theorem decodeStatus_isOk_iff (input : Bytes) :
    (∃ value, decodeStatus zcbor errno input = .ok value) ↔
      ∃ code, zcbor.take input = some (.unsigned code, []) ∧ code < 2 ^ 32 ∧ code % 256 < 23 := by
  unfold decodeStatus
  constructor
  · rintro ⟨value, accepted⟩
    split at accepted
    case h_2 => exact absurd accepted (by simp)
    case h_1 code rest taken =>
      split_ifs at accepted with bad
      obtain ⟨small, ended⟩ := not_or.mp bad
      cases found : Status.decodeStatus (UInt8.ofNat code) with
      | none => simp [found] at accepted
      | some status =>
        have low := (Status.exists_decodeStatus_iff _).mp ⟨status, found⟩
        exact ⟨code, not_not.mp ended ▸ taken, Nat.not_le.mp small, low⟩
  · rintro ⟨code, taken, small, low⟩
    obtain ⟨status, found⟩ := (Status.exists_decodeStatus_iff (UInt8.ofNat code)).mpr (by
      exact low)
    refine ⟨errno.number status, ?_⟩
    simp only [taken, if_neg (not_or.mpr ⟨Nat.not_le.mpr small, not_not.mpr rfl⟩), found]

/-- The decoder takes exactly the wire codes iff the input is not a longer code with a wire code for
its low byte. -/
theorem decodeStatus_exact_iff (input : Bytes) :
    ((∃ value, decodeStatus zcbor errno input = .ok value) ↔
      ∃ status : Status, zcbor.take input = some (.unsigned status.code.toNat, [])) ↔
    ∀ code, zcbor.take input = some (.unsigned code, []) → 256 ≤ code → code < 2 ^ 32 →
      23 ≤ code % 256 := by
  rw [decodeStatus_isOk_iff]
  constructor
  · intro exact code taken large small
    by_contra low
    obtain ⟨status, coded⟩ := exact.mp ⟨code, taken, small, Nat.not_le.mp low⟩
    have := status.code_lt
    cases taken.symm.trans coded
    omega
  · intro longer
    constructor
    · rintro ⟨code, taken, small, low⟩
      have short : code < 256 := by
        by_contra large
        have := longer code taken (Nat.not_lt.mp large) small
        omega
      obtain ⟨status, found⟩ := (Status.exists_decodeStatus_iff (UInt8.ofNat code)).mpr (by
        exact low)
      refine ⟨status, ?_⟩
      rw [Status.code_of_decodeStatus found, UInt8.toNat_ofNat', Nat.mod_eq_of_lt short]
      exact taken
    · rintro ⟨status, taken⟩
      have small := status.code_lt
      exact ⟨_, taken, by omega, by omega⟩

/-! ### A status of an object, in the firmware -/

/-- An item is the encoding of a wire code. -/
def Declared (item : Item) : Prop := ∃ status : Status, item = .unsigned status.code.toNat

/-- An item is an integer that `int` holds. -/
def IsInt (item : Item) : Prop := ∃ value, integer? item = some value ∧ int32.Holds value

variable (zcbor schema) in
/-- A map that is well formed but for its statuses, of which each is there once or may be left
out. -/
def FormedButStatuses (entries : List (Nat × Item)) : Prop :=
  ∀ field ∈ schema.fields, (field.optional = true ∧ items field.id entries = []) ∨
    ∃ item, items field.id entries = [item] ∧
      (field.type ≠ .status → ∃ datum, decodeValue zcbor field.type item = some datum)

variable (schema) in
/-- The items that a map has for the statuses of a schema. -/
def statusItems (entries : List (Nat × Item)) : List Item :=
  (schema.fields.filter fun field => field.type.kind = .schema).flatMap fun field =>
    items field.id entries

theorem kind_eq_schema_iff (type : FieldType) : type.kind = .schema ↔ type = .status := by
  cases type with
  | integer type => by_cases signed : type.signed <;> simp [FieldType.kind, signed]
  | _ => simp [FieldType.kind]

theorem decodeValue_status (zcbor : Zcbor) (item : Item) :
    (∃ datum, decodeValue zcbor .status item = some datum) ↔ IsInt item := by
  simp only [decodeValue, map_eq_some_iff, decodeInteger_eq_some_iff, IsInt]
  constructor
  · rintro ⟨datum, value, number, -⟩
    exact ⟨value, number⟩
  · rintro ⟨value, number⟩
    exact ⟨.integer value, value, number, rfl⟩

variable {item : Item} {entries : List (Nat × Item)} {value : Int} {datum : Datum} {field : Field}
  {raw : PyDict}

theorem mem_statusItems :
    item ∈ statusItems schema entries ↔
      ∃ field ∈ schema.fields, field.type = .status ∧ item ∈ items field.id entries := by
  simp [statusItems, mem_flatMap, mem_filter, kind_eq_schema_iff, and_assoc]

/-- A map that is well formed but for its statuses is well formed iff these are of the type
`int`. -/
theorem wellFormed_iff_statuses (formed : FormedButStatuses zcbor schema entries) :
    WellFormed zcbor schema entries ↔ ∀ item ∈ statusItems schema entries, IsInt item := by
  rw [wellFormed_iff]
  constructor
  · intro each item member
    obtain ⟨field, known, status, inside⟩ := mem_statusItems.mp member
    rcases each field known with ⟨-, none⟩ | ⟨other, datum, one, decodes⟩
    · rw [none] at inside
      exact absurd inside not_mem_nil
    · rw [one, mem_singleton] at inside
      subst inside
      rw [status] at decodes
      exact (decodeValue_status zcbor item).mp ⟨datum, decodes⟩
  · intro ints field known
    rcases formed field known with absent | ⟨item, one, decodes⟩
    · exact .inl absent
    · by_cases status : field.type = .status
      · have inside : item ∈ statusItems schema entries := by
          refine mem_statusItems.mpr ⟨field, known, status, ?_⟩
          rw [one]
          exact mem_singleton_self item
        obtain ⟨datum, decoded⟩ := (decodeValue_status zcbor item).mpr (ints item inside)
        exact .inr ⟨item, datum, one, status ▸ decoded⟩
      · obtain ⟨datum, decoded⟩ := decodes status
        exact .inr ⟨item, datum, one, decoded⟩

theorem Declared.isInt (declared : Declared item) : IsInt item := by
  obtain ⟨status, rfl⟩ := declared
  have small := status.code_lt
  refine ⟨status.code.toNat, rfl, ?_⟩
  simp only [IntegerType.Holds, int32, IntegerType.minimum, IntegerType.maximum, Width.bits,
    Width.bytes, if_true]
  omega

/-- A map that is well formed but for its statuses is accepted exactly with declared ones iff they
are declared or one of them is no `int`. -/
theorem decode_statuses_exact_iff (few : schema.fields.length ≤ 64) {input : Bytes}
    (taken : zcbor.takeMap input = some (entries, []))
    (formed : FormedButStatuses zcbor schema (cut entries)) :
    ((∃ members, decode zcbor schema initial input = .ok members) ↔
      ∀ item ∈ statusItems schema (cut entries), Declared item) ↔
    (∀ item ∈ statusItems schema (cut entries), Declared item) ∨
      ∃ item ∈ statusItems schema (cut entries), ¬IsInt item := by
  have accepts : (∃ members, decode zcbor schema initial input = .ok members) ↔
      ∀ item ∈ statusItems schema (cut entries), IsInt item := by
    rw [← wellFormed_iff_statuses formed, ← settled_iff_wellFormed initial]
    refine exists_congr fun members => ?_
    rw [decode_eq_ok_iff few]
    constructor
    · rintro ⟨same, read, settled⟩
      cases some.inj (taken.symm.trans read)
      exact settled
    · exact fun settled => ⟨entries, taken, settled⟩
  rw [accepts]
  constructor
  · intro same
    by_cases ints : ∀ item ∈ statusItems schema (cut entries), IsInt item
    · exact .inl (same.mp ints)
    · refine .inr ?_
      by_contra none
      exact ints fun item member => by_contra fun other => none ⟨item, member, other⟩
  · rintro (declared | ⟨item, member, other⟩)
    · exact ⟨fun _ => declared, fun _ item member => (declared item member).isInt⟩
    · exact ⟨fun ints => absurd (ints item member) other,
        fun declared => absurd (declared item member).isInt other⟩

/-! ### A status of an object, at the host -/

/-- The bytes are UTF-8. -/
def ValidText (content : Bytes) : Prop := content.toByteArray.validateUTF8 = true

instance (content : Bytes) : Decidable (ValidText content) :=
  inferInstanceAs (Decidable (_ = true))

/-- What the host makes of an item. -/
def pyOf : Item → PyValue
  | .unsigned value => .int value
  | .negative value => .int (-1 - value)
  | .bytes content => .bytes content
  | .text content => .str content
  | .boolean value => .bool value
  | .half bits => .float (widen (halfToFloat bits))
  | .single bits => .float (widen bits)
  | .double bits => .float bits
  | .other _ => .other

/-- The host loads every item but text that is not UTF-8. -/
def Readable : Item → Prop
  | .text content => ValidText content
  | _ => True

instance : (item : Item) → Decidable (Readable item)
  | .text content => inferInstanceAs (Decidable (ValidText content))
  | .unsigned _ | .negative _ | .bytes _ | .boolean _ | .half _ | .single _ | .double _
  | .other _ => .isTrue trivial

/-- The host has an item as `pyOf` says, but for a NaN it has any. -/
def Reads (load : Item → PyValue) : Prop :=
  ∀ item, load item = pyOf item ∨ ∃ given taken, pyOf item = .float given ∧
    IsNan infinity64 given ∧ load item = .float taken ∧ IsNan infinity64 taken

/-- The `dict` of a map without a number twice. -/
def dictOf (load : Item → PyValue) (entries : List (Nat × Item)) : PyDict where
  numbered := entries.map fun entry => ((entry.1 : Int), load entry.2)

variable (zcbor) in
/-- The host loads the maps that the firmware writes, if their text is UTF-8. -/
def LoadsBy (load : Item → PyValue) (python : Python) : Prop :=
  ∀ entries : List (Nat × Item), entries.length < 2 ^ 32 →
    (∀ entry ∈ entries, entry.1 < 2 ^ 32 ∧ entry.2.Fits) → (entries.map Prod.fst).Nodup →
    python.loads (putMap zcbor entries) =
      if ∀ entry ∈ entries, Readable entry.2 then some (some (dictOf load entries)) else none

variable (zcbor) in
def Loads (python : Python) : Prop := ∃ load, Reads load ∧ LoadsBy zcbor load python

variable {python : Python} {load : Item → PyValue}

theorem lookup_dictOf (load : Item → PyValue) (id : UInt16) (entries : List (Nat × Item)) :
    (dictOf load entries).numbered.lookup (id.toNat : Int) =
      (items id entries).head?.map load := by
  induction entries with
  | nil => rfl
  | cons entry rest ih =>
    rw [dictOf, map_cons, lookup_cons, items, filter_cons]
    by_cases same : entry.1 = id.toNat
    · simp [same]
    · have other : ¬(id.toNat : Int) = (entry.1 : Int) := by omega
      simp only [same, decide_false, Bool.false_eq_true, if_false, beq_eq_false_iff_ne.mpr other]
      exact ih

theorem pyOf_of_integer? (number : integer? item = some value) : pyOf item = .int value := by
  cases item with
  | unsigned | negative => exact congrArg PyValue.int (some.inj number)
  | _ => exact absurd number (by simp [integer?])

theorem Reads.integer (reads : Reads load) (number : integer? item = some value) :
    load item = .int value := by
  have whole := pyOf_of_integer? number
  obtain same | ⟨_, _, fraction, _⟩ := reads item
  · exact same.trans whole
  · exact PyValue.noConfusion (fraction.symm.trans whole)

theorem length_of_decodeBounded {capacity : Nat} {content : Bytes} {kind : Bytes → Datum}
    (decodes : (decodeBounded capacity content).map kind = some datum) :
    content.length ≤ capacity := by
  unfold decodeBounded at decodes
  split_ifs at decodes with large
  · simp at decodes
  · exact Nat.not_lt.mp large

theorem decodeField_enumeration (reads : Reads load) {declaration : Enumeration} {offset : Option Nat}
    (kind : field.type = .enumeration declaration)
    (found : raw.numbered.lookup (field.id.toNat : Int) = some (load item))
    (number : integer? item = some value) (holds : declaration.underlying.Holds value)
    (accepts : declaration.Accepts value) :
    ∃ result, decodeField python raw (field.record offset) = .ok result := by
  obtain ⟨id, name, type, optional⟩ := field
  obtain rfl : type = .enumeration declaration := kind
  rw [reads.integer number] at found
  have looked : raw.numbered.lookup (id.toNat : Int) = some (.int value) := found
  have inside : within declaration.record.underlyingSigned
      declaration.record.underlyingWidth value :=
    (within_iff_holds declaration.underlying value).mpr holds
  obtain ⟨result, checked⟩ : ∃ result,
      checkEnum declaration.record value = .ok result :=
    ⟨_, checkEnum_record accepts⟩
  refine ⟨result, ?_⟩
  simp only [decodeField, looked, validate, Field.record, FieldType.kind,
    FieldType.reference, validateEnum, if_pos inside, checked, bind, Except.bind,
    Except.map]

/-- The host validates what the firmware's decoder takes, but for enumerations and statuses. -/
theorem validate_of_decodeValue (reads : Reads load) (python : Python) (offset : Option Nat)
    (decodes : decodeValue zcbor field.type item = some datum)
    (unnumbered : field.type.reference = none) :
    ∃ result, validate python (field.record offset) (load item) = .ok result := by
  obtain ⟨id, name, type, optional⟩ := field
  obtain same | ⟨_, taken, fraction, -, same, nan⟩ := reads item <;> rw [same]
  case' inr =>
    cases type with
    | float =>
      obtain ⟨single, packed⟩ := exists_packSingle (.inl nan)
      exact ⟨_, validate_single python _ rfl rfl packed⟩
    | double => exact ⟨_, validate_double python _ rfl rfl taken⟩
    | _ =>
      cases item with
      | half | single | double =>
        exact absurd decodes (by simp [decodeValue, decodeInteger, integer?])
      | _ => exact PyValue.noConfusion fraction
  cases type with
  | boolean =>
    cases item with
    | boolean value => exact ⟨_, rfl⟩
    | _ => exact absurd decodes (by simp [decodeValue])
  | integer type =>
    obtain ⟨value, decoded, -⟩ := map_eq_some_iff.mp decodes
    obtain ⟨number, holds⟩ := decodeInteger_eq_some_iff.mp decoded
    have inside := (within_iff_holds type value).mpr holds
    rw [pyOf_of_integer? number]
    cases signed : type.signed with
    | _ =>
      rw [signed] at inside
      simp [validate, Field.record, FieldType.kind, FieldType.width, signed, inside]
  | float =>
    cases item with
    | half | single =>
      obtain ⟨single, packed⟩ := exists_packSingle (.inr ⟨_, rfl⟩)
      exact ⟨_, validate_single python _ rfl rfl packed⟩
    | _ => exact absurd decodes (by simp [decodeValue])
  | double =>
    cases item with
    | half | single => exact ⟨_, validate_double python _ rfl rfl _⟩
    | double bits => exact ⟨_, validate_double python _ rfl rfl bits⟩
    | _ => exact absurd decodes (by simp [decodeValue])
  | text capacity =>
    cases item with
    | text content =>
      have small : content.length ≤ capacity := length_of_decodeBounded decodes
      exact ⟨_, if_pos small⟩
    | _ => exact absurd decodes (by simp [decodeValue])
  | bytes capacity =>
    cases item with
    | bytes content =>
      have small : content.length ≤ capacity := length_of_decodeBounded decodes
      exact ⟨_, if_pos small⟩
    | _ => exact absurd decodes (by simp [decodeValue])
  | _ => exact absurd unnumbered (by simp [FieldType.reference])

section

variable (reads : Reads load) (offset : Option Nat)

include reads

theorem decodeField_of_decodeValue
    (found : raw.numbered.lookup (field.id.toNat : Int) = some (load item))
    (decodes : decodeValue zcbor field.type item = some datum) (plain : field.type ≠ .status) :
    ∃ result, decodeField python raw (field.record offset) = .ok result := by
  cases type : field.type with
  | status => exact absurd type plain
  | enumeration declaration =>
    rw [type] at decodes
    obtain ⟨value, decoded, -⟩ := map_eq_some_iff.mp decodes
    obtain ⟨decoded, accepted⟩ := filter_eq_some_iff.mp decoded
    obtain ⟨number, holds⟩ := decodeInteger_eq_some_iff.mp decoded
    exact decodeField_enumeration reads type found number holds (of_decide_eq_true accepted)
  | _ =>
    have unnumbered : field.type.reference = none := by
      rw [type]
      rfl
    obtain ⟨result, valid⟩ := validate_of_decodeValue reads python offset decodes unnumbered
    exact ⟨result, decodeField_of_validate python found valid
      (FieldType.kind_ne_enum unnumbered)⟩

theorem decodeField_status (kind : field.type = .status)
    (found : raw.numbered.lookup (field.id.toNat : Int) = some (load item))
    (number : integer? item = some value) :
    decodeField python raw (field.record offset) =
      if value ∈ statusRecord.values then .ok (.int value) else .error (.notStatus value) := by
  obtain ⟨id, name, type, optional⟩ := field
  obtain rfl : type = .status := kind
  rw [reads.integer number] at found
  have looked : raw.numbered.lookup (id.toNat : Int) = some (.int value) := found
  simp only [decodeField, Field.record, looked, validate, FieldType.kind,
    FieldType.reference, validateStatus, toInt, bind, Except.bind]
  have shape : statusRecord.shape = .statusCode := rfl
  split_ifs <;> rfl

end

theorem decodeField_absent (offset : Option Nat) (optional : field.optional = true)
    (absent : raw.numbered.lookup (field.id.toNat : Int) = none) :
    decodeField python raw (field.record offset) = .ok .none := by
  simp [decodeField, Field.record, absent, optional]

theorem mem_statusRecord_values :
    value ∈ statusRecord.values ↔ ∃ status : Status, value = status.code.toNat := by
  simp only [statusRecord, List.mem_map]
  constructor
  · rintro ⟨status, -, rfl⟩
    exact ⟨status, rfl⟩
  · rintro ⟨status, rfl⟩
    exact ⟨status, status.mem_all, rfl⟩

theorem keys_entriesOf_sublist (fields : List Field) (members : List (Option Datum)) :
    ((entriesOf zcbor fields members).map Prod.fst).Sublist
      (fields.map fun field => field.id.toNat) := by
  induction fields generalizing members with
  | nil => exact Sublist.slnil
  | cons field rest ih =>
    cases members with
    | nil => exact nil_sublist _
    | cons member others =>
      rw [entriesOf, zip_cons_cons, filterMap_cons]
      cases made : entryOf? zcbor (field, member) with
      | none => exact (ih others).cons _
      | some entry =>
        obtain ⟨_, -, mapped⟩ := bind_eq_some_iff.mp made
        obtain ⟨_, -, rfl⟩ := map_eq_some_iff.mp mapped
        exact (ih others).cons_cons _

theorem keys_entriesOf_nodup (value : Value schema) :
    ((entriesOf zcbor schema.fields value.members).map Prod.fst).Nodup := by
  refine (keys_entriesOf_sublist schema.fields value.members).nodup ?_
  have distinct := schema.ids_nodup
  rw [Nodup, pairwise_map] at distinct ⊢
  exact distinct.imp fun different same => different (UInt16.toNat_inj.mp same)

/-- The records of a schema's fields. -/
def records (schema : Schema) : List FieldRecord := schema.fields.map fun field => field.record none

/-- The host's decoder over a map that the firmware writes. -/
theorem decode_putMap (correct : zcbor.Correct) (few : schema.fields.length ≤ 64)
    (loads : LoadsBy zcbor load python) (value : Value schema) :
    let entries := entriesOf zcbor schema.fields value.members
    DynamicCodec.decode python (records schema) (putMap zcbor entries) =
      if ∀ entry ∈ entries, Readable entry.2 then
        (records schema).mapM (decodeField python (dictOf load entries))
      else .error .unloadable := by
  intro entries
  have small : entries.length < 2 ^ 32 := length_entriesOf_lt correct few value
  have fits := small_of_mem_entriesOf correct value
  have known : ¬((dictOf load entries).others = true ∨ ∃ entry ∈ (dictOf load entries).numbered,
      ∀ field ∈ records schema, entry.1 ≠ field.id) := by
    rintro (others | ⟨entry, member, unknown⟩)
    · exact nomatch others
    · obtain ⟨source, inside, rfl⟩ := List.mem_map.mp member
      obtain ⟨field, declared, number⟩ := mem_entriesOf inside
      exact unknown (field.record none) (mem_map_of_mem declared) (congrArg Int.ofNat number)
  rw [DynamicCodec.decode, loads entries small fits (keys_entriesOf_nodup value)]
  by_cases readable : ∀ entry ∈ entries, Readable entry.2
  · simp only [if_pos readable, if_neg known]
  · simp only [if_neg readable]

variable (errno) in
/-- The host has a status by the code that `encode_status` gives it. -/
def Means (pair : Field × Option Datum) (output : PyValue) : Prop :=
  pair.1.type = .status → ∀ number, pair.2 = some (.integer number) →
    output = .int (errno.encodeStatus number).toNat

/-- What the host takes for a member of a value that the firmware writes. -/
theorem decodeField_member (reads : Reads load) (python : Python) (correct : zcbor.Correct)
    (value : Value schema)
    {pair : Field × Option Datum} (inside : pair ∈ schema.fields.zip value.members) :
    (pair.1.type = .status → ∀ number, pair.2 = some (.integer number) →
      decodeField python (dictOf load (entriesOf zcbor schema.fields value.members))
        (pair.1.record none) =
          if number ∈ statusRecord.values then .ok (.int number) else .error (.notStatus number)) ∧
    ((∀ number, pair.1.type = .status → pair.2 ≠ some (.integer number)) →
      ∃ output, decodeField python
        (dictOf load (entriesOf zcbor schema.fields value.members)) (pair.1.record none) =
          .ok output) := by
  obtain ⟨field, member⟩ := pair
  have carries := carries_entriesOf correct value.admitted schema.ids_nodup
  have supplies := (forall₂_iff_zip.mp carries).2 inside
  have looked := lookup_dictOf load field.id (entriesOf zcbor schema.fields value.members)
  cases member with
  | none =>
    refine ⟨fun _ _ absurdly => absurd absurdly (by simp), fun _ => ?_⟩
    rw [supplies.2] at looked
    exact ⟨_, decodeField_absent none supplies.1 looked⟩
  | some datum =>
    obtain ⟨item, one, decodes⟩ := supplies
    rw [one] at looked
    constructor
    · rintro status number same
      obtain ⟨⟩ := same
      have decoded : decodeValue zcbor .status item = some (.integer number) := status ▸ decodes
      obtain ⟨number', found, equal⟩ := map_eq_some_iff.mp decoded
      cases equal
      exact decodeField_status reads none status looked (decodeInteger_eq_some_iff.mp found).1
    · intro plain
      refine decodeField_of_decodeValue reads none looked decodes fun status => ?_
      have decoded : decodeValue zcbor .status item = some datum := status ▸ decodes
      obtain ⟨number, -, equal⟩ := map_eq_some_iff.mp decoded
      exact plain number status (congrArg some equal.symm)

theorem integerItem_ne_text (value : Int) (content : Bytes) :
    integerItem value ≠ .text content := by
  unfold integerItem
  split_ifs <;> simp

theorem floatItem_ne_text (value : BitVec 32) (content : Bytes) :
    floatItem zcbor value ≠ .text content := by
  unfold floatItem
  split_ifs <;> simp

theorem eq_text_of_encodeValue {type : FieldType} {content : Bytes}
    (encoded : encodeValue zcbor type datum = some (.text content)) : datum = .text content := by
  unfold encodeValue at encoded
  split at encoded
  · exact absurd encoded (by simp)
  · split_ifs at encoded
    exact absurd (some.inj encoded) (integerItem_ne_text _ _)
  · exact absurd (some.inj encoded) (integerItem_ne_text _ _)
  · exact absurd (some.inj encoded) (integerItem_ne_text _ _)
  · exact absurd (some.inj encoded) (floatItem_ne_text _ _)
  · split_ifs at encoded
    · exact absurd (some.inj encoded) (floatItem_ne_text _ _)
    · exact absurd encoded (by simp)
  · exact congrArg Datum.text (Item.text.inj (some.inj encoded))
  · exact absurd encoded (by simp)
  · exact absurd encoded (by simp)

/-- The texts of a map that the firmware writes are those of the value. -/
theorem readable_entriesOf_iff (value : Value schema) :
    (∀ entry ∈ entriesOf zcbor schema.fields value.members, Readable entry.2) ↔
      ∀ pair ∈ schema.fields.zip value.members, ∀ content, pair.2 = some (.text content) →
        ValidText content := by
  obtain ⟨-, admitted⟩ := forall₂_iff_zip.mp value.admitted
  constructor
  · rintro readable ⟨field, member⟩ inside content rfl
    have admits : field.type.Admits (.text content) := admitted inside
    have encoded : encodeValue zcbor field.type (.text content) = some (.text content) := by
      cases type : field.type with
      | text capacity => rfl
      | _ =>
        rw [type] at admits
        exact absurd admits id
    refine readable (field.id.toNat, .text content) (mem_filterMap.mpr ⟨_, inside, ?_⟩)
    rw [entryOf?, bind_some, encoded, map_some]
  · intro valid entry member
    obtain ⟨⟨field, datum⟩, inside, made⟩ := mem_filterMap.mp member
    obtain ⟨datum, rfl, mapped⟩ := bind_eq_some_iff.mp made
    obtain ⟨item, encoded, rfl⟩ := map_eq_some_iff.mp mapped
    cases item with
    | text content => exact valid _ inside content (congrArg some (eq_text_of_encodeValue encoded))
    | _ => exact trivial

/-- The host has every status of a value by its code iff the value's text is UTF-8 and the numbers
of its statuses are their codes. -/
theorem host_reads_iff (correct : zcbor.Correct) (few : schema.fields.length ≤ 64)
    (loads : Loads zcbor python) (errno : Errno) (value : Value schema) :
    (∃ output, DynamicCodec.decode python (records schema)
        (putMap zcbor (entriesOf zcbor schema.fields value.members)) = .ok output ∧
      Forall₂ (Means errno) (schema.fields.zip value.members) output) ↔
    (∀ pair ∈ schema.fields.zip value.members, ∀ content, pair.2 = some (.text content) →
      ValidText content) ∧
    ∀ pair ∈ schema.fields.zip value.members, pair.1.type = .status →
      ∀ number, pair.2 = some (.integer number) → number = (errno.encodeStatus number).toNat := by
  have firsts : (schema.fields.zip value.members).map Prod.fst = schema.fields :=
    map_fst_zip value.admitted.length_eq.le
  have paired : records schema =
      (schema.fields.zip value.members).map fun pair => pair.1.record none := by
    conv_lhs => rw [records, ← firsts, List.map_map]
    rfl
  obtain ⟨load, reads, loads⟩ := loads
  rw [decode_putMap correct few loads value, ← readable_entriesOf_iff value]
  constructor
  · rintro ⟨output, decoded, means⟩
    split_ifs at decoded with readable
    refine ⟨readable, fun pair inside status number present => ?_⟩
    rw [paired, Pointwise.mapM_eq_ok_iff, forall₂_map_left_iff] at decoded
    obtain ⟨lengths, taken⟩ := forall₂_iff_zip.mp decoded
    obtain ⟨-, meant⟩ := forall₂_iff_zip.mp means
    obtain ⟨result, both, -⟩ := Pointwise.exists_of_mem decoded inside
    have read := (decodeField_member reads python correct value inside).1 status number present
    rw [taken both] at read
    split_ifs at read with known
    have equal := (Except.ok.inj read).symm.trans (meant both status number present)
    exact PyValue.int.inj equal
  · rintro ⟨readable, coded⟩
    rw [if_pos readable, paired]
    have each : ∀ pair ∈ schema.fields.zip value.members, ∃ result,
        decodeField python (dictOf load (entriesOf zcbor schema.fields value.members))
          (pair.1.record none) = .ok result ∧ Means errno pair result := by
      intro pair inside
      obtain ⟨numbered, other⟩ := decodeField_member reads python correct value inside
      by_cases status : pair.1.type = .status ∧ ∃ number, pair.2 = some (.integer number)
      · obtain ⟨kind, number, present⟩ := status
        have code := coded pair inside kind number present
        obtain ⟨named, found⟩ := (Status.exists_decodeStatus_iff (errno.encodeStatus number)).mpr
          (errno.encodeStatus_lt number)
        have known : number ∈ statusRecord.values := by
          refine mem_statusRecord_values.mpr ⟨named, ?_⟩
          rw [Status.code_of_decodeStatus found]
          exact code
        refine ⟨.int number, (numbered kind number present).trans (if_pos known), ?_⟩
        rintro - other same
        cases present.symm.trans same
        exact congrArg PyValue.int code
      · obtain ⟨result, taken⟩ := other fun number kind present =>
          status ⟨kind, number, present⟩
        exact ⟨result, taken, fun kind number present =>
          absurd ⟨kind, number, present⟩ status⟩
    obtain ⟨output, related⟩ := Pointwise.exists_iff.mpr each
    refine ⟨output, ?_, related.imp fun _ _ both => both.2⟩
    rw [Pointwise.mapM_eq_ok_iff, forall₂_map_left_iff]
    exact related.imp fun _ _ both => both.1

/-! ### Statuses on both sides -/

/-- An object of the firmware gives the host its statuses iff its text is UTF-8 and the number of
each status is its code. The firmware takes exactly the declared codes in an object that is
otherwise well formed iff the statuses are declared or one is no `int`, and on their own iff the
input is not a longer code with a wire code for its low byte. -/
theorem status_codes_agree (initial : Field → Option Datum) (errno : Errno) (correct : zcbor.Correct)
    (loads : Loads zcbor python) (few : schema.fields.length ≤ 64) :
    (∀ value : Value schema, ∃ bytes, (∀ capacity, encode zcbor schema value.members capacity =
        if bytes.length ≤ capacity then .ok bytes else .error .noSpace) ∧
      ((∃ output, DynamicCodec.decode python (records schema) bytes = .ok output ∧
          Forall₂ (Means errno) (schema.fields.zip value.members) output) ↔
        (∀ pair ∈ schema.fields.zip value.members, ∀ content, pair.2 = some (.text content) →
          ValidText content) ∧
        ∀ pair ∈ schema.fields.zip value.members, pair.1.type = .status →
          ∀ number, pair.2 = some (.integer number) → number = (errno.encodeStatus number).toNat)) ∧
    (∀ input entries, zcbor.takeMap input = some (entries, []) →
      FormedButStatuses zcbor schema (cut entries) →
      (((∃ members, decode zcbor schema initial input = .ok members) ↔
          ∀ item ∈ statusItems schema (cut entries), Declared item) ↔
        (∀ item ∈ statusItems schema (cut entries), Declared item) ∨
          ∃ item ∈ statusItems schema (cut entries), ¬IsInt item)) ∧
    ∀ input, (((∃ value, decodeStatus zcbor errno input = .ok value) ↔
        ∃ status : Status, zcbor.take input = some (.unsigned status.code.toNat, [])) ↔
      ∀ code, zcbor.take input = some (.unsigned code, []) → 256 ≤ code → code < 2 ^ 32 →
        23 ≤ code % 256) := by
  refine ⟨fun value => ?_, fun input entries taken formed => ?_, decodeStatus_exact_iff⟩
  · exact ⟨_, encode_eq correct value, host_reads_iff correct few loads errno value⟩
  · exact decode_statuses_exact_iff few taken formed

/-- The numbers of Linux. -/
def linux : Errno where
  number
    | .ok => 0
    | .error => 5
    | .invalid => 22
    | .notReady => 19
    | .notFound => 2
    | .notSupported => 95
    | .busy => 16
    | .already => 114
    | .timeout => 110
    | .cancelled => 125
    | .noMemory => 12
    | .noSpace => 28
    | .wouldBlock => 11
    | .empty => 61
    | .interrupted => 4
    | .deadlock => 35
    | .permissionDenied => 13
    | .noBuffer => 105
    | .messageTooLarge => 90
    | .protocolError => 71
    | .overflow => 75
    | .dependencyFailed => 67
    | .unexpectedExit => 32
  zero := rfl
  injective left right same := by
    cases left <;> cases right <;> first | rfl | exact absurd same (by decide)
  holds status := by cases status <;> decide

/-- A host that loads what `wire` puts. -/
def wirePython : Python where
  loads payload :=
    match wire.takeMap payload with
    | some (entries, []) =>
      if ∀ entry ∈ entries, Readable entry.2 then some (some (dictOf pyOf entries)) else none
    | _ => none
  parseInt _ := none
  floatOfInt _ := none

theorem wire_loads : Loads wire wirePython := by
  refine ⟨pyOf, fun _ => .inl rfl, fun entries few fits _ => ?_⟩
  simp only [wirePython, takeMap_putMap wire_correct fits few]

/-- `Schema<solar::Error>`. -/
def errorSchema : Schema where
  fields := [⟨1, "status", .status, false⟩, ⟨2, "native", .integer int32, false⟩]
  ordered := by decide
  nonzero := by decide
  named := by decide

/-- An error of `Ok`. -/
def okError : Value errorSchema where
  members := [some (.integer 0), some (.integer 0)]
  admitted := .cons (by decide : int32.Holds 0) (.cons (by decide : int32.Holds 0) .nil)

/-- An error of `NotFound`, whose number is 2 and whose code is 4. -/
def notFoundError : Value errorSchema where
  members := [some (.integer 2), some (.integer (-2))]
  admitted := .cons (by decide : int32.Holds 2) (.cons (by decide : int32.Holds (-2)) .nil)

/-- An error of `Ok`, the code 5 as a status of an error, and the code 5 on its own. -/
theorem status_codes_agree_ok :
    (∃ bytes output, encode wire errorSchema okError.members bytes.length = .ok bytes ∧
      DynamicCodec.decode wirePython (records errorSchema) bytes = .ok output ∧
      Forall₂ (Means linux) (errorSchema.fields.zip okError.members) output) ∧
    ((∃ members, decode wire errorSchema (fun _ => none) [0xA2, 1, 5, 2, 0] = .ok members) ↔
      ∀ item ∈ statusItems errorSchema (cut [(1, .unsigned 5), (2, .unsigned 0)]), Declared item) ∧
    ((∃ value, decodeStatus wire linux [5] = .ok value) ↔
      ∃ status : Status, wire.take [5] = some (.unsigned status.code.toNat, [])) := by
  obtain ⟨host, object, bare⟩ := status_codes_agree (fun _ => none) linux wire_correct wire_loads
    (show errorSchema.fields.length ≤ 64 by decide)
  refine ⟨?_, ?_, ?_⟩
  · obtain ⟨bytes, encoded, read⟩ := host okError
    obtain ⟨output, decoded, means⟩ := read.mpr (by
      constructor
      · simp [errorSchema, okError]
      · simp [errorSchema, okError]
        decide)
    exact ⟨bytes, output, (encoded bytes.length).trans (if_pos le_rfl), decoded, means⟩
  · have taken : wire.takeMap [0xA2, 1, 5, 2, 0] =
        some ([(1, .unsigned 5), (2, .unsigned 0)], []) := by
      decide +kernel
    refine (object _ _ taken ?_).mpr (.inl ?_)
    · intro field known
      simp only [errorSchema, mem_cons, not_mem_nil, or_false] at known
      rcases known with rfl | rfl
      · exact .inr ⟨.unsigned 5, by decide, fun other => absurd rfl other⟩
      · exact .inr ⟨.unsigned 0, by decide, fun _ => ⟨.integer 0, rfl⟩⟩
    · intro item member
      exact ⟨.notSupported, mem_singleton.mp member⟩
  · refine (bare [5]).mpr fun code taken large _ => ?_
    have read : wire.take [5] = some (.unsigned 5, []) := by decide +kernel
    cases taken.symm.trans read
    omega

/-- The host has `NotFound` for an error as the code 2; an error is accepted with the status 200;
and the code 256 is accepted as `Ok`. -/
theorem status_codes_disagree :
    (∃ bytes, encode wire errorSchema notFoundError.members 16 = .ok bytes ∧
      ¬∃ output, DynamicCodec.decode wirePython (records errorSchema) bytes = .ok output ∧
        Forall₂ (Means linux) (errorSchema.fields.zip notFoundError.members) output) ∧
    (∃ members, decode wire errorSchema (fun _ => none) [0xA2, 1, 0x18, 200, 2, 0] = .ok members) ∧
    decodeStatus wire linux [0x19, 1, 0] = .ok (linux.number .ok) := by
  refine ⟨⟨[0xA2, 1, 2, 2, 0x21], rfl, ?_⟩, ⟨[some (.integer 200), some (.integer 0)], rfl⟩, rfl⟩
  rintro ⟨output, decoded, means⟩
  have read : DynamicCodec.decode wirePython (records errorSchema) [0xA2, 1, 2, 2, 0x21] =
      .ok [.int 2, .int (-2)] := by
    rfl
  obtain rfl := Except.ok.inj (read.symm.trans decoded)
  obtain ⟨-, meant⟩ := forall₂_iff_zip.mp means
  have wrong := meant (mem_cons_self) rfl 2 rfl
  exact absurd wrong (by decide)

end Solar.Remote.Cbor
