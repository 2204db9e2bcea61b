/-
This file models the object codec `cbor::detail::Codec` over the primitives of
zcbor, and proves what it accepts. An object travels as a map from field numbers
to items. The decoder walks the map once with a mask of the fields it has seen,
refuses a field that comes twice or does not decode, skips the numbers it does
not know, and at the end asks for the required fields and the end of the input.

The numbers on the wire have 32 bits and `FieldId` has 16, and the decoder casts
before it compares. A map is therefore read as the map with its numbers cut to 16
bits, and it is read as it stands only if no number outside the schema is cut
to a number of the schema.
-/

import Solar.Library.Cbor
import Solar.Library.Pointwise
import Solar.Remote.Codec.Float

namespace Solar.Remote.Cbor

open List
open Option hiding or or_assoc

open Solar.Cbor (Item)

/-! ### The primitives of zcbor -/

/-- The primitives of zcbor: what the put functions write for an item and for the head of a map,
what the decode functions take for them, and the conversions behind the half-precision functions. -/
structure Zcbor where
  put : Item → Bytes
  mapStart : Nat → Bytes
  take : Bytes → Option (Item × Bytes)
  takeMapStart : Bytes → Option (Nat × Bytes)
  toHalf : BitVec 32 → BitVec 16
  ofHalf : BitVec 16 → BitVec 32

/-- The primitives take what they put, and a number that half precision has survives it. -/
structure Zcbor.Correct (zcbor : Zcbor) : Prop where
  take_put : ∀ item rest, item.Fits → zcbor.take (zcbor.put item ++ rest) = some (item, rest)
  takeMapStart_mapStart : ∀ count rest, count < 2 ^ 32 →
    zcbor.takeMapStart (zcbor.mapStart count ++ rest) = some (count, rest)
  half : ∀ bits, ¬IsNan infinity32 (halfToFloat bits) →
    zcbor.ofHalf (zcbor.toHalf (halfToFloat bits)) = halfToFloat bits

variable (zcbor : Zcbor)

/-! ### Values -/

/-- The item of an integer, `zcbor_uint64_put` and `zcbor_int64_put`. -/
def integerItem (value : Int) : Item :=
  if 0 ≤ value then .unsigned value.toNat else .negative (-1 - value).toNat

/-- The item of a `float`. -/
def floatItem (value : BitVec 32) : Item :=
  if Equals infinity32 (halfToFloat (floatToHalf value)) value then
    .half (zcbor.toHalf value)
  else
    .single value

/-- `encode_value`, by the item it puts. A datum of another type does not compile. -/
def encodeValue : FieldType → Datum → Option Item
  | .boolean, .boolean value => some (.boolean value)
  | .enumeration declaration, .integer value =>
    if declaration.Accepts value then some (integerItem value) else none
  | .integer _, .integer value | .status, .integer value => some (integerItem value)
  | .float, .single value => some (floatItem zcbor value)
  | .double, .double value =>
    if Equals infinity64 (widen (narrow value)) value then
      some (floatItem zcbor (narrow value))
    else
      some (.double value)
  | .text _, .text content => some (.text content)
  | .bytes _, .bytes content => some (.bytes content)
  | _, _ => none

/-- The number that an item of an integer stands for. -/
def integer? : Item → Option Int
  | .unsigned value => some value
  | .negative value => some (-1 - value)
  | _ => none

/-- `decode_value` of an integer type: `zcbor_uint64_decode` or `zcbor_int64_decode`, and the
bounds of the type. -/
def decodeInteger (type : IntegerType) (item : Item) : Option Int :=
  ((integer? item).filter fun value =>
    decide ((if type.signed then int64 else uint64).Holds value)).filter fun value =>
      decide (type.Holds value)

/-- `decode_value` of bounded text and bytes. The size is cast to 16 bits. -/
def decodeBounded (capacity : Nat) (content : Bytes) : Option Bytes :=
  if capacity < content.length then none else some (content.take (content.length % 2 ^ 16))

/-- `decode_value`, of the item that is read. -/
def decodeValue : FieldType → Item → Option Datum
  | .boolean, .boolean value => some (.boolean value)
  | .enumeration declaration, item =>
    ((decodeInteger declaration.underlying item).filter fun value =>
      decide (declaration.Accepts value)).map .integer
  | .integer type, item => (decodeInteger type item).map .integer
  | .status, item => (decodeInteger int32 item).map .integer
  | .float, .half bits => some (.single (zcbor.ofHalf bits))
  | .float, .single bits => some (.single bits)
  | .double, .half bits => some (.double (widen (zcbor.ofHalf bits)))
  | .double, .single bits => some (.double (widen bits))
  | .double, .double bits => some (.double bits)
  | .text capacity, .text content => (decodeBounded capacity content).map .text
  | .bytes capacity, .bytes content => (decodeBounded capacity content).map .bytes
  | _, _ => none

/-! ### Objects -/

inductive Reason
  | noSpace | malformed | missingField | duplicateField | invalidValue | trailingData

/-- Append to the output, if the buffer has the space. -/
def append (capacity : Nat) (output bytes : Bytes) : Option Bytes :=
  if output.length + bytes.length ≤ capacity then some (output ++ bytes) else none

/-- `encode_field`. -/
def encodeField (capacity : Nat) (output : Bytes) (entry : Field × Option Datum) : Option Bytes :=
  match entry.2 with
  | none => some output
  | some datum => do
    let output ← append capacity output (zcbor.put (.unsigned entry.1.id.toNat))
    append capacity output (zcbor.put (← encodeValue zcbor entry.1.type datum))

/-- `Codec::encode`, into a buffer of the given size. -/
def encode (schema : Schema) (members : List (Option Datum)) (capacity : Nat) :
    Except Reason Bytes :=
  match (append capacity [] (zcbor.mapStart (members.countP isSome))).bind fun output =>
      (schema.fields.zip members).foldlM (encodeField zcbor capacity) output with
  | some output => .ok output
  | none => .error .noSpace

/-- The value that the decoder builds and the mask of the fields it has seen. -/
structure Decoding where
  members : List (Option Datum)
  seen : BitVec 64

/-- `UINT64_C(1) << Index`. -/
def mask (index : Nat) : BitVec 64 := (1 : BitVec 64) <<< index

section

variable (fields : List Field)

/-- `dispatch`: the field of a number, with its index. -/
def dispatch (key : UInt16) : Option (Field × Nat) :=
  fields.zipIdx.find? fun entry => entry.1.id = key

/-- The end of `decode_field`, after the item is read. -/
def Decoding.store (state : Decoding) (field : Field) (index : Nat) (item : Item) :
    Except Reason Decoding :=
  match decodeValue zcbor field.type item with
  | none => .error .invalidValue
  | some datum => .ok ⟨state.members.set index (some datum), state.seen ||| mask index⟩

/-- One round of the loop of `decode`: a key, and its value or what is skipped for it. -/
def decodeEntry (state : Decoding) (input : Bytes) : Except Reason (Decoding × Bytes) :=
  match zcbor.take input with
  | some (.unsigned key, rest) =>
    if 2 ^ 32 ≤ key then .error .malformed
    else
      match dispatch fields (UInt16.ofNat key) with
      | none =>
        match zcbor.take rest with
        | none => .error .malformed
        | some (_, rest) => .ok (state, rest)
      | some (field, index) =>
        if state.seen &&& mask index ≠ 0 then .error .duplicateField
        else
          match zcbor.take rest with
          | none => .error .invalidValue
          | some (item, rest) => (state.store zcbor field index item).map fun state => (state, rest)
  | _ => .error .malformed

/-- The loop of `decode`, over so many pairs. -/
def decodeEntries (fields : List Field) : Nat → Decoding → Bytes → Except Reason (Decoding × Bytes)
  | 0, state, input => .ok (state, input)
  | count + 1, state, input =>
    match decodeEntry zcbor fields state input with
    | .error reason => .error reason
    | .ok (state, rest) => decodeEntries fields count state rest

/-- The mask of the required fields. -/
def required : BitVec 64 :=
  fields.zipIdx.foldl (fun bits entry => bits ||| if entry.1.optional then 0 else mask entry.2) 0

end

/-- `Codec::decode`, where `initial` gives the members of `Value{}`. -/
def decode (schema : Schema) (initial : Field → Option Datum) (input : Bytes) :
    Except Reason (List (Option Datum)) :=
  match zcbor.takeMapStart input with
  | none => .error .malformed
  | some (count, rest) =>
    match decodeEntries zcbor schema.fields count ⟨schema.fields.map initial, 0⟩ rest with
    | .error reason => .error reason
    | .ok (state, rest) =>
      if state.seen &&& required schema.fields ≠ required schema.fields then .error .missingField
      else if rest ≠ [] then .error .trailingData
      else .ok state.members

/-! ### Round trip of a value -/

theorem integer?_integerItem (value : Int) : integer? (integerItem value) = some value := by
  unfold integerItem
  split_ifs with natural
  · rw [integer?, Int.toNat_of_nonneg natural]
  · rw [integer?]
    simp only [some.injEq]
    omega

variable {type : IntegerType} {capacity : Nat} {value : Int}

theorem decodeInteger_eq_some_iff {item : Item} :
    decodeInteger type item = some value ↔ integer? item = some value ∧ type.Holds value := by
  have wide : type.Holds value → (if type.signed then int64 else uint64).Holds value := by
    intro holds
    have long := holds.long
    obtain ⟨signed, width⟩ := type
    cases signed
    · exact long
    · exact long
  rw [decodeInteger, filter_eq_some_iff, filter_eq_some_iff]
  simp only [decide_eq_true_eq]
  constructor
  · rintro ⟨⟨found, -⟩, holds⟩
    exact ⟨found, holds⟩
  · rintro ⟨found, holds⟩
    exact ⟨⟨found, wide holds⟩, holds⟩

theorem decodeInteger_integerItem (holds : type.Holds value) :
    decodeInteger type (integerItem value) = some value :=
  decodeInteger_eq_some_iff.mpr ⟨integer?_integerItem value, holds⟩

theorem fits_integerItem (holds : type.Holds value) : (integerItem value).Fits := by
  have long := holds.long
  unfold integerItem
  obtain ⟨signed, width⟩ := type
  cases signed <;>
    simp only [IntegerType.Holds, IntegerType.minimum, IntegerType.maximum, Width.bits,
      Width.bytes, Bool.false_eq_true, if_false, if_true] at long <;>
    split_ifs <;> simp only [Item.Fits] <;> omega

theorem fits_floatItem {value : BitVec 32} : (floatItem zcbor value).Fits := by
  unfold floatItem
  split_ifs
  · exact trivial
  · exact trivial

theorem ofHalf_floatItem {zcbor : Zcbor} (correct : zcbor.Correct) {value : BitVec 32} :
    floatItem zcbor value = .single value ∨
      ∃ bits, floatItem zcbor value = .half bits ∧ zcbor.ofHalf bits = value := by
  unfold floatItem
  split_ifs with same
  · refine .inr ⟨zcbor.toHalf value, rfl, ?_⟩
    have kept := halfToFloat_floatToHalf same
    have survives := correct.half (floatToHalf value) (by rw [kept]; exact same.2.1)
    rwa [kept] at survives
  · exact .inl rfl

theorem decodeBounded_of_le {content : Bytes} (small : content.length ≤ boundedSize capacity) :
    decodeBounded capacity content = some content := by
  unfold boundedSize at small
  rw [decodeBounded, if_neg (by omega), Nat.mod_eq_of_lt (by omega), take_length]

theorem fits_of_boundedSize {content : Bytes} (small : content.length ≤ boundedSize capacity) :
    content.length < 2 ^ 64 := by
  unfold boundedSize at small
  omega

/-- A datum that its field admits is put as one item, and the item decodes to the datum. -/
theorem decodeValue_encodeValue {zcbor : Zcbor} (correct : zcbor.Correct) {type : FieldType}
    {datum : Datum} (admits : type.Admits datum) :
    ∃ item, encodeValue zcbor type datum = some item ∧ item.Fits ∧
      decodeValue zcbor type item = some datum := by
  cases type with
  | boolean =>
    cases datum with
    | boolean value => exact ⟨.boolean value, rfl, trivial, rfl⟩
    | _ => exact absurd admits id
  | enumeration declaration =>
    cases datum with
    | integer value =>
      obtain ⟨holds, accepts⟩ := admits
      refine ⟨integerItem value, if_pos accepts, fits_integerItem holds, ?_⟩
      rw [decodeValue, decodeInteger_integerItem holds, filter_some,
        if_pos (decide_eq_true accepts), map_some]
    | _ => exact absurd admits id
  | float =>
    cases datum with
    | single value =>
      refine ⟨floatItem zcbor value, rfl, fits_floatItem zcbor, ?_⟩
      rcases ofHalf_floatItem correct with whole | ⟨bits, half, same⟩
      · rw [whole, decodeValue]
      · rw [half, decodeValue, same]
    | _ => exact absurd admits id
  | double =>
    cases datum with
    | double value =>
      by_cases same : Equals infinity64 (widen (narrow value)) value
      · refine ⟨floatItem zcbor (narrow value), if_pos same, fits_floatItem zcbor, ?_⟩
        rcases ofHalf_floatItem correct with whole | ⟨bits, half, kept⟩
        · rw [whole, decodeValue, widen_narrow same]
        · rw [half, decodeValue, kept, widen_narrow same]
      · exact ⟨.double value, if_neg same, trivial, rfl⟩
    | _ => exact absurd admits id
  | text capacity =>
    cases datum with
    | text content =>
      refine ⟨.text content, rfl, fits_of_boundedSize admits, ?_⟩
      rw [decodeValue, decodeBounded_of_le admits, map_some]
    | _ => exact absurd admits id
  | bytes capacity =>
    cases datum with
    | bytes content =>
      refine ⟨.bytes content, rfl, fits_of_boundedSize admits, ?_⟩
      rw [decodeValue, decodeBounded_of_le admits, map_some]
    | _ => exact absurd admits id
  | _ =>
    cases datum with
    | integer value =>
      refine ⟨integerItem value, rfl, fits_integerItem admits, ?_⟩
      rw [decodeValue, decodeInteger_integerItem admits, map_some]
    | _ => exact absurd admits id

/-! ### Maps -/

/-- Read a pair of a map whose key is a number of 32 bits. -/
def Zcbor.takeEntry (input : Bytes) : Option ((Nat × Item) × Bytes) :=
  match zcbor.take input with
  | some (.unsigned key, rest) =>
    if 2 ^ 32 ≤ key then none
    else (zcbor.take rest).map fun (item, rest) => ((key, item), rest)
  | _ => none

def Zcbor.takeEntries : Nat → Bytes → Option (List (Nat × Item) × Bytes)
  | 0, input => some ([], input)
  | count + 1, input =>
    match zcbor.takeEntry input with
    | none => none
    | some (entry, rest) =>
      (Zcbor.takeEntries count rest).map fun (entries, rest) => (entry :: entries, rest)

/-- Read a map of numbered fields, and what comes after it. -/
def Zcbor.takeMap (input : Bytes) : Option (List (Nat × Item) × Bytes) :=
  (zcbor.takeMapStart input).bind fun (count, rest) => zcbor.takeEntries count rest

/-- The items that a map has under a number. -/
def items (id : UInt16) (entries : List (Nat × Item)) : List Item :=
  (entries.filter fun entry => entry.1 = id.toNat).map Prod.snd

/-- A map with its numbers cut to 16 bits. -/
def cut (entries : List (Nat × Item)) : List (Nat × Item) :=
  entries.map fun (key, item) => (key % 2 ^ 16, item)

/-- What a map has for a member: one item that decodes to it, or none for an empty `optional`. -/
def Supplies (entries : List (Nat × Item)) (field : Field) : Option Datum → Prop
  | none => field.optional = true ∧ items field.id entries = []
  | some datum =>
    ∃ item, items field.id entries = [item] ∧ decodeValue zcbor field.type item = some datum

/-- A map carries a value: it has each present member once, the absent ones not at all, and
otherwise only numbers that the schema does not have. -/
def Carries (schema : Schema) (entries : List (Nat × Item)) (members : List (Option Datum)) :
    Prop :=
  Forall₂ (Supplies zcbor entries) schema.fields members

/-- What the decoder makes of a map for a member: `initial` stays where the map has nothing. -/
def Settles (initial : Field → Option Datum) (entries : List (Nat × Item)) (field : Field)
    (member : Option Datum) : Prop :=
  field.optional = true ∧ items field.id entries = [] ∧ member = initial field ∨
    ∃ item datum, items field.id entries = [item] ∧
      decodeValue zcbor field.type item = some datum ∧ member = some datum

variable {initial : Field → Option Datum} {entries : List (Nat × Item)} {fields : List Field}
  {schema : Schema}

section Fold

variable {state : Decoding}

/-- One round of the loop, of an entry that is read. -/
def Decoding.accept (fields : List Field) (state : Decoding) (entry : Nat × Item) :
    Except Reason Decoding :=
  match dispatch fields (UInt16.ofNat entry.1) with
  | none => .ok state
  | some (field, index) =>
    if state.seen &&& mask index ≠ 0 then .error .duplicateField
    else state.store zcbor field index entry.2

variable {index : Nat} {input : Bytes} {entry : Nat × Item}

theorem decodeEntry_of_takeEntry {rest : Bytes}
    (taken : zcbor.takeEntry input = some (entry, rest)) :
    decodeEntry zcbor fields state input =
      (state.accept zcbor fields entry).map fun state => (state, rest) := by
  unfold Zcbor.takeEntry at taken
  split at taken
  case h_2 => exact absurd taken (by simp)
  case h_1 key tail first =>
    split_ifs at taken with large
    cases second : zcbor.take tail with
    | none => simp [second] at taken
    | some pair =>
      simp only [second, map_some, some.injEq, Prod.mk.injEq] at taken
      obtain ⟨rfl, rfl⟩ := taken
      simp only [decodeEntry, first, if_neg large, Decoding.accept]
      cases found : dispatch fields (UInt16.ofNat key) with
      | none => simp only [second, Except.map]
      | some known =>
        obtain ⟨field, index⟩ := known
        by_cases seen : state.seen &&& mask index ≠ 0
        · simp only [if_pos seen, Except.map]
        · simp only [if_neg seen, second]

theorem decodeEntry_of_none (state : Decoding) (untaken : zcbor.takeEntry input = none) :
    ∃ reason, decodeEntry zcbor fields state input = .error reason := by
  unfold Zcbor.takeEntry at untaken
  unfold decodeEntry
  split at untaken
  case h_2 => exact ⟨_, rfl⟩
  case h_1 key rest first =>
    split_ifs at untaken with large
    · simp only [if_pos large]
      exact ⟨_, rfl⟩
    · have second : zcbor.take rest = none := map_eq_none_iff.mp untaken
      simp only [if_neg large]
      cases found : dispatch fields (UInt16.ofNat key) with
      | none =>
        simp only [second]
        exact ⟨_, rfl⟩
      | some known =>
        obtain ⟨field, index⟩ := known
        by_cases seen : state.seen &&& mask index ≠ 0
        · simp only [if_pos seen]
          exact ⟨_, rfl⟩
        · simp only [if_neg seen, second]
          exact ⟨_, rfl⟩

/-- The loop over a map that reads is a fold over its entries. -/
theorem decodeEntries_of_takeEntries {count : Nat} {rest : Bytes}
    (taken : zcbor.takeEntries count input = some (entries, rest)) :
    decodeEntries zcbor fields count state input =
      (entries.foldlM (Decoding.accept zcbor fields) state).map fun state => (state, rest) := by
  induction count generalizing state input entries with
  | zero =>
    obtain ⟨rfl, rfl⟩ := taken
    rfl
  | succ count ih =>
    rw [Zcbor.takeEntries] at taken
    cases first : zcbor.takeEntry input with
    | none => simp [first] at taken
    | some pair =>
      obtain ⟨entry, tail⟩ := pair
      simp only [first, map_eq_some_iff, Prod.mk.injEq, Prod.exists] at taken
      obtain ⟨others, after, later, rfl, rfl⟩ := taken
      rw [decodeEntries, decodeEntry_of_takeEntry zcbor first, foldlM_cons]
      cases accepted : state.accept zcbor fields entry with
      | error reason => rfl
      | ok next => exact ih later

theorem decodeEntries_of_none (fields : List Field) {count : Nat} (state : Decoding)
    (untaken : zcbor.takeEntries count input = none) :
    ∃ reason, decodeEntries zcbor fields count state input = .error reason := by
  induction count generalizing state input with
  | zero => exact absurd untaken (by simp [Zcbor.takeEntries])
  | succ count ih =>
    rw [Zcbor.takeEntries] at untaken
    rw [decodeEntries]
    cases first : zcbor.takeEntry input with
    | none =>
      obtain ⟨reason, failed⟩ := decodeEntry_of_none zcbor state first
      exact ⟨reason, by rw [failed]⟩
    | some pair =>
      obtain ⟨entry, tail⟩ := pair
      simp only [first, map_eq_none_iff] at untaken
      rw [decodeEntry_of_takeEntry zcbor first]
      cases accepted : state.accept zcbor fields entry with
      | error reason => exact ⟨reason, rfl⟩
      | ok next => exact ih next untaken

/-! ### The mask -/

theorem getLsbD_mask (few : index < 64) (other : Nat) :
    (mask index).getLsbD other = decide (other = index) := by
  have power : mask index = BitVec.twoPow 64 index := (BitVec.twoPow_eq 64 index).symm
  rw [power, BitVec.getLsbD_twoPow, decide_eq_true few]
  exact decide_eq_decide.mpr eq_comm

theorem and_mask_eq_zero_iff (few : index < 64) {bits : BitVec 64} :
    bits &&& mask index = 0 ↔ bits.getLsbD index = false := by
  constructor
  · intro zero
    have bit := congrArg (fun value : BitVec 64 => value.getLsbD index) zero
    simpa [getLsbD_mask few] using bit
  · intro unset
    refine BitVec.eq_of_getLsbD_eq fun other small => ?_
    rw [BitVec.getLsbD_and, getLsbD_mask few]
    by_cases same : other = index
    · subst same
      simp [unset]
    · simp [same]

theorem getLsbD_foldl_required {entries : List (Field × Nat)}
    (few : ∀ entry ∈ entries, entry.2 < 64) (bits : BitVec 64) (index : Nat) :
    (entries.foldl (fun bits entry => bits ||| if entry.1.optional then 0 else mask entry.2)
      bits).getLsbD index = true ↔
        bits.getLsbD index = true ∨ ∃ entry ∈ entries, entry.2 = index ∧ entry.1.optional = false := by
  induction entries generalizing bits with
  | nil => simp
  | cons entry rest ih =>
    have small := few entry mem_cons_self
    rw [foldl_cons, ih fun other member =>
      few other (mem_cons_of_mem _ member)]
    cases optional : entry.1.optional with
    | true => simp [optional]
    | false =>
      simp only [optional, Bool.false_eq_true, if_false, BitVec.getLsbD_or, getLsbD_mask small,
        Bool.or_eq_true, decide_eq_true_eq, exists_mem_cons_iff, and_true, or_assoc]
      rw [eq_comm (a := index)]

theorem getLsbD_required (few : fields.length ≤ 64) :
    (required fields).getLsbD index = true ↔
      ∃ field, fields[index]? = some field ∧ field.optional = false := by
  have bound : ∀ entry ∈ fields.zipIdx, entry.2 < 64 := by
    rintro ⟨field, position⟩ member
    have := snd_lt_of_mem_zipIdx member
    omega
  rw [required, getLsbD_foldl_required bound]
  simp only [BitVec.ofNat_eq_ofNat, BitVec.getLsbD_zero, Bool.false_eq_true, false_or, Prod.exists,
    mem_zipIdx_iff_getElem?]
  constructor
  · rintro ⟨field, position, found, rfl, needed⟩
    exact ⟨field, found, needed⟩
  · rintro ⟨field, found, needed⟩
    exact ⟨field, index, found, rfl, needed⟩

theorem and_required_eq_iff (few : fields.length ≤ 64) {bits : BitVec 64} :
    bits &&& required fields = required fields ↔
      ∀ (index : Nat) (field : Field), fields[index]? = some field → field.optional = false →
        bits.getLsbD index = true := by
  constructor
  · intro within index field found needed
    have bit := congrArg (fun value : BitVec 64 => value.getLsbD index) within
    have set := (getLsbD_required few).mpr ⟨field, found, needed⟩
    simpa [set] using bit
  · intro seen
    refine BitVec.eq_of_getLsbD_eq fun index small => ?_
    rw [BitVec.getLsbD_and]
    cases set : (required fields).getLsbD index with
    | false => rw [Bool.and_false]
    | true =>
      obtain ⟨field, found, needed⟩ := (getLsbD_required few).mp set
      rw [seen index field found needed, Bool.true_and]

/-! ### The fold -/

theorem items_append (id : UInt16) (left right : List (Nat × Item)) :
    items id (left ++ right) = items id left ++ items id right := by
  simp [items, filter_append]

theorem items_cut_singleton (id : UInt16) (entry : Nat × Item) :
    items id (cut [entry]) = if id = UInt16.ofNat entry.1 then [entry.2] else [] := by
  have same : entry.1 % 2 ^ 16 = id.toNat ↔ id = UInt16.ofNat entry.1 := by
    rw [← UInt16.toNat_inj, UInt16.toNat_ofNat', eq_comm]
  simp only [items, cut, map_cons, map_nil, filter_cons, filter_nil, same,
    decide_eq_true_eq]
  split_ifs
  · rfl
  · rfl

theorem items_cut_snoc (id : UInt16) (entries : List (Nat × Item)) (entry : Nat × Item) :
    items id (cut (entries ++ [entry])) =
      items id (cut entries) ++ if id = UInt16.ofNat entry.1 then [entry.2] else [] := by
  rw [← items_cut_singleton, ← items_append]
  simp [cut]

variable {field : Field}

theorem dispatch_eq_some {key : UInt16}
    (found : dispatch fields key = some (field, index)) :
    fields[index]? = some field ∧ field.id = key := by
  have member := mem_of_find?_eq_some found
  refine ⟨?_, by simpa using find?_some found⟩
  simpa only [mem_zipIdx_iff_getElem?] using member

theorem dispatch_eq_none {key : UInt16} (unknown : dispatch fields key = none)
    (found : fields[index]? = some field) : field.id ≠ key := by
  have absent := find?_eq_none.mp unknown (field, index) (mem_zipIdx_iff_getElem?.mpr found)
  simpa using absent

/-- What the decoder holds for a field after it has come across the items that are given. -/
def Decoding.Holds (initial : Field → Option Datum) (state : Decoding) (index : Nat) (field : Field)
    (found : List Item) : Prop :=
  found = [] ∧ state.seen.getLsbD index = false ∧ state.members[index]? = some (initial field) ∨
    ∃ item datum, found = [item] ∧ decodeValue zcbor field.type item = some datum ∧
      state.seen.getLsbD index = true ∧ state.members[index]? = some (some datum)

/-- The decoder holds for every field what it has come across. -/
structure Decoding.Gathered (schema : Schema) (initial : Field → Option Datum)
    (entries : List (Nat × Item)) (state : Decoding) : Prop where
  length : state.members.length = schema.fields.length
  holds : ∀ (index : Nat) (field : Field), schema.fields[index]? = some field →
    state.Holds zcbor initial index field (items field.id (cut entries))

theorem Decoding.gathered_initial (schema : Schema) (initial : Field → Option Datum) :
    Decoding.Gathered zcbor schema initial [] ⟨schema.fields.map initial, 0⟩ where
  length := length_map ..
  holds index field found := by
    refine .inl ⟨rfl, BitVec.getLsbD_zero, ?_⟩
    rw [getElem?_map, found, map_some]

variable {next : Decoding}

theorem Decoding.Holds.congr {zcbor : Zcbor} {found : List Item}
    (holds : state.Holds zcbor initial index field found)
    (seen : next.seen.getLsbD index = state.seen.getLsbD index)
    (members : next.members[index]? = state.members[index]?) :
    next.Holds zcbor initial index field found := by
  unfold Decoding.Holds
  rw [seen, members]
  exact holds

section

variable (few : schema.fields.length ≤ 64)

include few

/-- A round of the loop that goes through keeps what the decoder holds. -/
theorem Decoding.Gathered.accept {zcbor : Zcbor}
    (gathered : Decoding.Gathered zcbor schema initial entries state)
    (accepted : state.accept zcbor schema.fields entry = .ok next) :
    Decoding.Gathered zcbor schema initial (entries ++ [entry]) next := by
  unfold Decoding.accept at accepted
  cases known : dispatch schema.fields (UInt16.ofNat entry.1) with
  | none =>
    rw [known] at accepted
    cases accepted
    refine ⟨gathered.length, fun index field found => ?_⟩
    rw [items_cut_snoc, if_neg (dispatch_eq_none known found), append_nil]
    exact gathered.holds index field found
  | some pair =>
    obtain ⟨target, position⟩ := pair
    obtain ⟨placed, named⟩ := dispatch_eq_some known
    simp only [known] at accepted
    split_ifs at accepted with seen
    unfold Decoding.store at accepted
    cases decoded : decodeValue zcbor target.type entry.2 with
    | none => simp [decoded] at accepted
    | some datum =>
      simp only [decoded, Except.ok.injEq] at accepted
      subst accepted
      have inside : position < schema.fields.length := (List.getElem?_eq_some_iff.mp placed).1
      have small : position < 64 := inside.trans_le few
      refine ⟨by rw [length_set, gathered.length], fun index field found => ?_⟩
      by_cases same : index = position
      · subst same
        cases some.inj (placed.symm.trans found)
        have fresh := (and_mask_eq_zero_iff small).mp (not_not.mp seen)
        rcases gathered.holds index target placed with ⟨none, -, -⟩ | ⟨_, _, -, -, set, -⟩
        · refine .inr ⟨entry.2, datum, ?_, decoded, ?_, ?_⟩
          · rw [items_cut_snoc, none, if_pos named, nil_append]
          · simp [getLsbD_mask small]
          · exact getElem?_set_self (by rw [gathered.length]; exact inside)
        · exact absurd (fresh.symm.trans set) (by decide)
      · have different : field.id ≠ UInt16.ofNat entry.1 := fun equal =>
          same (schema.index_unique found placed (equal.trans named.symm))
        rw [items_cut_snoc, if_neg different, append_nil]
        refine (gathered.holds index field found).congr ?_ ?_
        · simp [getLsbD_mask small, same]
        · exact getElem?_set_ne (Ne.symm same)

theorem Decoding.Gathered.fold {zcbor : Zcbor} {later : List (Nat × Item)}
    (gathered : Decoding.Gathered zcbor schema initial entries state)
    (folded : later.foldlM (Decoding.accept zcbor schema.fields) state = .ok next) :
    Decoding.Gathered zcbor schema initial (entries ++ later) next := by
  induction later generalizing entries state with
  | nil =>
    cases folded
    rw [append_nil]
    exact gathered
  | cons entry rest ih =>
    rw [foldlM_cons] at folded
    cases accepted : state.accept zcbor schema.fields entry with rw [accepted] at folded
    | error reason => exact absurd folded (by simp [bind, Except.bind])
    | ok middle =>
      rw [append_cons]
      exact ih (gathered.accept few accepted) folded

omit few in
/-- Each field has at most one item under its number, and the item decodes. -/
def Fine (schema : Schema) (entries : List (Nat × Item)) : Prop :=
  ∀ field ∈ schema.fields, items field.id (cut entries) = [] ∨
    ∃ item datum, items field.id (cut entries) = [item] ∧
      decodeValue zcbor field.type item = some datum

omit few in
theorem cut_append (left right : List (Nat × Item)) : cut (left ++ right) = cut left ++ cut right :=
  map_append

/-- The round of the loop for an entry of a map that is fine goes through. -/
theorem Decoding.Gathered.accepts {zcbor : Zcbor} {rest : List (Nat × Item)}
    (gathered : Decoding.Gathered zcbor schema initial entries state)
    (fine : Fine zcbor schema (entries ++ [entry] ++ rest)) :
    ∃ next, state.accept zcbor schema.fields entry = .ok next := by
  unfold Decoding.accept
  cases known : dispatch schema.fields (UInt16.ofNat entry.1) with
  | none => exact ⟨state, rfl⟩
  | some pair =>
    obtain ⟨target, position⟩ := pair
    obtain ⟨placed, named⟩ := dispatch_eq_some known
    have inside : position < schema.fields.length := (List.getElem?_eq_some_iff.mp placed).1
    have small : position < 64 := inside.trans_le few
    have whole : items target.id (cut (entries ++ [entry] ++ rest)) =
        items target.id (cut entries) ++ entry.2 :: items target.id (cut rest) := by
      rw [cut_append, items_append, items_cut_snoc, if_pos named, append_assoc, singleton_append]
    have before : items target.id (cut entries) = [] ∧
        ∃ datum, decodeValue zcbor target.type entry.2 = some datum := by
      rcases fine target (mem_of_getElem? placed) with empty | ⟨item, datum, single, decodes⟩
      · rw [whole] at empty
        simp at empty
      · rw [whole, append_eq_singleton_iff] at single
        rcases single with ⟨none, only⟩ | ⟨-, absurdly⟩
        · rw [cons.injEq] at only
          exact ⟨none, datum, only.1 ▸ decodes⟩
        · simp at absurdly
    obtain ⟨none, datum, decodes⟩ := before
    have fresh : state.seen.getLsbD position = false := by
      rcases gathered.holds position target placed with ⟨-, unset, -⟩ | ⟨_, _, one, -⟩
      · exact unset
      · rw [none] at one
        exact absurd one (by simp)
    simp only [(and_mask_eq_zero_iff small).mpr fresh, ne_eq, not_true_eq_false, if_false,
      Decoding.store, decodes]
    exact ⟨_, rfl⟩

theorem Decoding.Gathered.complete {zcbor : Zcbor} {later : List (Nat × Item)}
    (gathered : Decoding.Gathered zcbor schema initial entries state)
    (fine : Fine zcbor schema (entries ++ later)) :
    ∃ next, later.foldlM (Decoding.accept zcbor schema.fields) state = .ok next := by
  induction later generalizing entries state with
  | nil => exact ⟨state, rfl⟩
  | cons entry rest ih =>
    rw [append_cons] at fine
    obtain ⟨middle, accepted⟩ := gathered.accepts few fine
    rw [foldlM_cons, accepted]
    exact ih (gathered.accept few accepted) fine

end

theorem Decoding.Gathered.settles {zcbor : Zcbor}
    (gathered : Decoding.Gathered zcbor schema initial entries state)
    (seen : ∀ (index : Nat) (field : Field), schema.fields[index]? = some field →
      field.optional = false → state.seen.getLsbD index = true) :
    Forall₂ (Settles zcbor initial (cut entries)) schema.fields state.members := by
  refine forall₂_iff_get.mpr ⟨gathered.length.symm, fun index inside within => ?_⟩
  have found : schema.fields[index]? = some schema.fields[index] := getElem?_eq_getElem inside
  have held : state.members[index]? = some state.members[index] := getElem?_eq_getElem within
  rcases gathered.holds index _ found with
    ⟨none, unset, member⟩ | ⟨item, datum, one, decodes, -, member⟩
  · refine .inl ⟨?_, none, some.inj (held.symm.trans member)⟩
    cases optional : schema.fields[index].optional with
    | true => rfl
    | false => exact absurd ((seen index _ found optional).symm.trans unset) (by decide)
  · exact .inr ⟨item, datum, one, decodes, some.inj (held.symm.trans member)⟩

end Fold

variable {zcbor}

theorem decode_of_none (schema : Schema) (initial : Field → Option Datum) {input : Bytes}
    (untaken : zcbor.takeMap input = none) :
    ∃ reason, decode zcbor schema initial input = .error reason := by
  unfold decode
  cases started : zcbor.takeMapStart input with
  | none => exact ⟨_, rfl⟩
  | some pair =>
    rw [Zcbor.takeMap, started, bind_some] at untaken
    obtain ⟨reason, failed⟩ := decodeEntries_of_none zcbor schema.fields
      ⟨schema.fields.map initial, 0⟩ untaken
    exact ⟨reason, by simp only [failed]⟩

theorem decode_of_takeMap {input rest : Bytes}
    (taken : zcbor.takeMap input = some (entries, rest)) :
    decode zcbor schema initial input =
      match entries.foldlM (Decoding.accept zcbor schema.fields) ⟨schema.fields.map initial, 0⟩ with
      | .error reason => .error reason
      | .ok state =>
        if state.seen &&& required schema.fields ≠ required schema.fields then .error .missingField
        else if rest ≠ [] then .error .trailingData
        else .ok state.members := by
  unfold decode
  obtain ⟨⟨count, tail⟩, started, read⟩ := bind_eq_some_iff.mp taken
  simp only [started, decodeEntries_of_takeEntries zcbor read]
  cases entries.foldlM (Decoding.accept zcbor schema.fields) ⟨schema.fields.map initial, 0⟩ with
  | error | ok => rfl

theorem settled_fine {members : List (Option Datum)}
    (settled : Forall₂ (Settles zcbor initial (cut entries)) schema.fields members) :
    Fine zcbor schema entries := by
  intro field member
  obtain ⟨_, -, settles⟩ := Pointwise.exists_of_mem settled member
  rcases settles with ⟨-, none, -⟩ | ⟨item, datum, one, decodes, -⟩
  · exact .inl none
  · exact .inr ⟨item, datum, one, decodes⟩

theorem settles_rightUnique : Relator.RightUnique (Settles zcbor initial entries) := by
  intro field left right first second
  rcases first with ⟨-, none, rfl⟩ | ⟨item, datum, one, decodes, rfl⟩ <;>
    rcases second with ⟨-, none', rfl⟩ | ⟨item', datum', one', decodes', rfl⟩
  · rfl
  · exact absurd (none.symm.trans one') (by simp)
  · exact absurd (none'.symm.trans one) (by simp)
  · cases one.symm.trans one'
    exact decodes.symm.trans decodes'

/-- The decoder accepts exactly the maps that settle every member, read with their numbers cut to
16 bits and with nothing after them. -/
theorem decode_eq_ok_iff (few : schema.fields.length ≤ 64) {input : Bytes}
    {members : List (Option Datum)} :
    decode zcbor schema initial input = .ok members ↔
      ∃ entries, zcbor.takeMap input = some (entries, []) ∧
        Forall₂ (Settles zcbor initial (cut entries)) schema.fields members := by
  have start := Decoding.gathered_initial zcbor schema initial
  cases taken : zcbor.takeMap input with
  | none =>
    obtain ⟨reason, failed⟩ := decode_of_none schema initial taken
    simp [failed]
  | some pair =>
    obtain ⟨entries, rest⟩ := pair
    rw [decode_of_takeMap taken]
    constructor
    · intro accepted
      cases folded : entries.foldlM (Decoding.accept zcbor schema.fields)
          ⟨schema.fields.map initial, 0⟩ with
      | error reason =>
        rw [folded] at accepted
        exact absurd accepted (by simp)
      | ok state =>
        simp only [folded] at accepted
        split_ifs at accepted with missing trailing
        cases accepted
        have gathered := start.fold few folded
        refine ⟨entries, by rw [not_not.mp trailing], ?_⟩
        exact gathered.settles ((and_required_eq_iff few).mp (not_not.mp missing))
    · rintro ⟨same, equal, settled⟩
      obtain ⟨⟩ := equal
      obtain ⟨state, folded⟩ := start.complete few (settled_fine settled)
      have gathered := start.fold few folded
      have seen : ∀ (index : Nat) (field : Field), schema.fields[index]? = some field →
          field.optional = false → state.seen.getLsbD index = true := by
        intro index field found needed
        rcases gathered.holds index field found with ⟨none, -, -⟩ | ⟨_, _, -, -, set, -⟩
        · obtain ⟨member, -, settles⟩ := Pointwise.exists_of_mem settled (mem_of_getElem? found)
          rcases settles with ⟨optional, -⟩ | ⟨item, datum, one, -⟩
          · exact absurd (needed.symm.trans optional) (by decide)
          · exact absurd (none.symm.trans one) (by simp)
        · exact set
      have same := right_unique_forall₂' settles_rightUnique (gathered.settles seen) settled
      simp only [folded, (and_required_eq_iff few).mpr seen, ne_eq, not_true_eq_false,
        if_false, same]

/-! ### What the encoder writes -/

variable (zcbor) in
/-- The entry of a member. -/
def entryOf? (pair : Field × Option Datum) : Option (Nat × Item) :=
  pair.2.bind fun datum =>
    (encodeValue zcbor pair.1.type datum).map fun item => (pair.1.id.toNat, item)

variable (zcbor) in
/-- The entries of a value, in the order of the fields. -/
def entriesOf (fields : List Field) (members : List (Option Datum)) : List (Nat × Item) :=
  (fields.zip members).filterMap (entryOf? zcbor)

variable (zcbor) in
/-- The bytes of an entry. -/
def putEntry (entry : Nat × Item) : Bytes := zcbor.put (.unsigned entry.1) ++ zcbor.put entry.2

variable (zcbor) in
/-- The bytes of a map. -/
def putMap (entries : List (Nat × Item)) : Bytes :=
  zcbor.mapStart entries.length ++ entries.flatMap (putEntry zcbor)

theorem length_of_append {output bytes next : Bytes}
    (appended : append capacity output bytes = some next) : next.length ≤ capacity := by
  unfold append at appended
  split_ifs at appended with small
  rw [← some.inj appended, length_append]
  exact small

theorem append_append (capacity : Nat) (output left right : Bytes) :
    ((append capacity output left).bind fun output => append capacity output right) =
      append capacity output (left ++ right) := by
  unfold append
  by_cases whole : output.length + (left ++ right).length ≤ capacity
  · have small : output.length + left.length ≤ capacity := by
      rw [length_append] at whole
      omega
    rw [if_pos small, if_pos whole, bind_some, if_pos, append_assoc]
    rw [length_append] at whole ⊢
    omega
  · split_ifs with small
    · rw [bind_some, if_neg]
      rw [length_append] at whole ⊢
      omega
    · rfl

theorem encodeField_eq (correct : zcbor.Correct) {field : Field} {member : Option Datum}
    (admits : field.Admits member) {output : Bytes} (small : output.length ≤ capacity) :
    encodeField zcbor capacity output (field, member) =
      append capacity output ((entryOf? zcbor (field, member)).toList.flatMap (putEntry zcbor)) := by
  cases member with
  | none =>
    simp [encodeField, entryOf?, append, if_pos small]
  | some datum =>
    obtain ⟨item, encoded, -, -⟩ := decodeValue_encodeValue correct admits
    simp only [encodeField, entryOf?, bind_some, encoded, map_some, toList_some,
      flatMap_singleton, putEntry, bind_eq_bind]
    exact append_append capacity output _ _

variable {members : List (Option Datum)}

section

variable (correct : zcbor.Correct)

include correct

theorem foldlM_encodeField (admitted : Forall₂ Field.Admits fields members)
    {output : Bytes} (small : output.length ≤ capacity) :
    (fields.zip members).foldlM (encodeField zcbor capacity) output =
      append capacity output ((entriesOf zcbor fields members).flatMap (putEntry zcbor)) := by
  induction admitted generalizing output with
  | nil => simp [entriesOf, append, small]
  | @cons field member fields members admits rest ih =>
    have split : (entriesOf zcbor (field :: fields) (member :: members)).flatMap (putEntry zcbor) =
        (entryOf? zcbor (field, member)).toList.flatMap (putEntry zcbor) ++
          (entriesOf zcbor fields members).flatMap (putEntry zcbor) := by
      rw [← flatMap_append, entriesOf, zip_cons_cons, filterMap_cons]
      cases entryOf? zcbor (field, member) <;> rfl
    rw [split, ← append_append, zip_cons_cons, foldlM_cons,
      encodeField_eq correct admits small]
    cases appended : append capacity output
        ((entryOf? zcbor (field, member)).toList.flatMap (putEntry zcbor)) with
    | none => rfl
    | some next => exact ih (length_of_append appended)

theorem length_entriesOf (admitted : Forall₂ Field.Admits fields members) :
    (entriesOf zcbor fields members).length = members.countP isSome := by
  induction admitted with
  | nil => rfl
  | @cons field member fields members admits rest ih =>
    rw [entriesOf, zip_cons_cons, filterMap_cons, countP_cons]
    cases member with
    | none => exact ih
    | some datum =>
      obtain ⟨item, encoded, -, -⟩ := decodeValue_encodeValue correct admits
      simp only [entryOf?, bind_some, encoded, map_some, length_cons, isSome_some, if_true]
      exact congrArg (· + 1) ih

theorem encode_eq (value : Value schema) (capacity : Nat) :
    encode zcbor schema value.members capacity =
      let output := putMap zcbor (entriesOf zcbor schema.fields value.members)
      if output.length ≤ capacity then .ok output else .error .noSpace := by
  have length := length_entriesOf correct value.admitted
  have appended : ((append capacity [] (zcbor.mapStart (value.members.countP isSome))).bind
      fun output => (schema.fields.zip value.members).foldlM (encodeField zcbor capacity) output) =
        append capacity [] (putMap zcbor (entriesOf zcbor schema.fields value.members)) := by
    rw [putMap, ← append_append, length]
    cases started : append capacity [] (zcbor.mapStart (value.members.countP isSome)) with
    | none => rfl
    | some output => exact foldlM_encodeField correct value.admitted (length_of_append started)
  rw [encode, appended, append]
  simp only [length_nil, Nat.zero_add, nil_append]
  split_ifs <;> rfl

section

variable (fits : ∀ entry ∈ entries, entry.1 < 2 ^ 32 ∧ entry.2.Fits)

include fits

theorem takeEntries_putEntry (rest : Bytes) :
    zcbor.takeEntries entries.length (entries.flatMap (putEntry zcbor) ++ rest) =
      some (entries, rest) := by
  induction entries with
  | nil => rfl
  | cons entry others ih =>
    obtain ⟨small, item⟩ := fits entry mem_cons_self
    have first : zcbor.takeEntry ((entry :: others).flatMap (putEntry zcbor) ++ rest) =
        some (entry, others.flatMap (putEntry zcbor) ++ rest) := by
      have key : (Item.unsigned entry.1).Fits := Nat.lt_trans small (by decide)
      rw [flatMap_cons, putEntry, append_assoc, append_assoc, Zcbor.takeEntry,
        correct.take_put _ _ key]
      simp only [if_neg small.not_ge, correct.take_put _ _ item, map_some]
    have later := ih fun other member =>
      fits other (mem_cons_of_mem _ member)
    rw [length_cons, Zcbor.takeEntries, first]
    simp only [later, map_some]

theorem takeMap_putMap (few : entries.length < 2 ^ 32) :
    zcbor.takeMap (putMap zcbor entries) = some (entries, []) := by
  rw [Zcbor.takeMap, putMap, correct.takeMapStart_mapStart _ _ few]
  simpa using takeEntries_putEntry correct fits []

end

theorem fits_of_mem_entriesOf (admitted : Forall₂ Field.Admits fields members) :
    ∀ entry ∈ entriesOf zcbor fields members, entry.1 < 2 ^ 16 ∧ entry.2.Fits := by
  induction admitted with
  | nil => exact fun entry member => absurd member not_mem_nil
  | @cons field member fields members admits rest ih =>
    rw [entriesOf, zip_cons_cons, filterMap_cons]
    cases member with
    | none => exact ih
    | some datum =>
      obtain ⟨item, encoded, fits, -⟩ := decodeValue_encodeValue correct admits
      simp only [entryOf?, bind_some, encoded, map_some, mem_cons]
      rintro entry (rfl | later)
      · exact ⟨field.id.toNat_lt, fits⟩
      · exact ih entry later

end

end Solar.Remote.Cbor
