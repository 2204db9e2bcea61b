/-
This file proves the object codec against the maps as they are sent. A value that
is encoded is decoded again, and a map is accepted in any order of its fields and
among numbers that the schema does not have, as far as the cut of the numbers to
16 bits does not make a number of the schema out of another one. Where it does,
the decoder loses a map that carries a value, or takes one that misses a field.
-/

import Solar.Remote.Codec.Cbor

namespace Solar.Remote.Cbor

open List hiding filter_map map_map
open Option hiding filter filter_map map map_map

open Solar.Cbor (Item)

variable {zcbor : Zcbor} {schema : Schema} {initial : Field → Option Datum}

/-! ### Maps that carry a value -/

variable {field : Field} {entries : List (Nat × Item)} {members : List (Option Datum)}

theorem Supplies.of_items {left right : List (Nat × Item)} {member : Option Datum}
    (supplies : Supplies zcbor left field member)
    (same : items field.id right = items field.id left) : Supplies zcbor right field member := by
  cases member with
  | none => exact ⟨supplies.1, same.trans supplies.2⟩
  | some datum =>
    obtain ⟨item, one, decodes⟩ := supplies
    exact ⟨item, same.trans one, decodes⟩

theorem items_eq_nil {id : UInt16} (absent : ∀ entry ∈ entries, entry.1 ≠ id.toNat) :
    items id entries = [] := by
  rw [items, filter_eq_nil_iff.mpr, map_nil]
  intro entry member
  simpa using absent entry member

theorem mem_entriesOf {fields : List Field} {entry : Nat × Item}
    (member : entry ∈ entriesOf zcbor fields members) :
    ∃ field ∈ fields, entry.1 = field.id.toNat := by
  obtain ⟨⟨field, datum⟩, inside, made⟩ := mem_filterMap.mp member
  refine ⟨field, (of_mem_zip inside).1, ?_⟩
  obtain ⟨_, -, mapped⟩ := bind_eq_some_iff.mp made
  obtain ⟨_, -, rfl⟩ := map_eq_some_iff.mp mapped
  rfl

/-- The map that the encoder writes carries the value. -/
theorem carries_entriesOf (correct : zcbor.Correct) {fields : List Field}
    (admitted : Forall₂ Field.Admits fields members) (distinct : (fields.map Field.id).Nodup) :
    Forall₂ (Supplies zcbor (entriesOf zcbor fields members)) fields members := by
  induction admitted with
  | nil => exact Forall₂.nil
  | @cons field member fields members admits rest ih =>
    rw [map_cons, nodup_cons] at distinct
    have others : ∀ other ∈ fields, other.id ≠ field.id := fun other inside same =>
      distinct.1 (same ▸ mem_map_of_mem inside)
    have split : entriesOf zcbor (field :: fields) (member :: members) =
        (entryOf? zcbor (field, member)).toList ++ entriesOf zcbor fields members := by
      rw [entriesOf, zip_cons_cons, filterMap_cons]
      cases entryOf? zcbor (field, member) <;> rfl
    have absent : items field.id (entriesOf zcbor fields members) = [] := by
      refine items_eq_nil fun entry inside => ?_
      obtain ⟨other, known, number⟩ := mem_entriesOf inside
      rw [number]
      exact fun same => others other known (UInt16.toNat_inj.mp same)
    rw [split]
    refine Forall₂.cons ?_ ?_
    · cases member with
      | none => exact ⟨admits, absent⟩
      | some datum =>
        obtain ⟨item, encoded, -, decodes⟩ := decodeValue_encodeValue correct admits
        refine ⟨item, ?_, decodes⟩
        rw [items_append, absent, append_nil]
        simp [entryOf?, encoded, items, filter_cons_of_pos]
    · have later := ih distinct.2
      refine forall₂_iff_get.mpr ⟨later.length_eq, fun index inside within => ?_⟩
      refine ((forall₂_iff_get.mp later).2 index inside within).of_items ?_
      rw [items_append, items_eq_nil, nil_append]
      intro entry made
      obtain ⟨_, -, mapped⟩ := bind_eq_some_iff.mp (mem_toList.mp made)
      obtain ⟨_, -, rfl⟩ := map_eq_some_iff.mp mapped
      exact fun same => others _ (get_mem fields ⟨index, inside⟩) (UInt16.toNat_inj.mp same).symm

/-! ### The cut -/

/-- Some number of the map is none of the schema's and is cut to one. -/
def Aliases (schema : Schema) (entries : List (Nat × Item)) : Prop :=
  ∃ entry ∈ entries, ∃ field ∈ schema.fields,
    entry.1 ≠ field.id.toNat ∧ entry.1 % 2 ^ 16 = field.id.toNat

theorem items_cut (id : UInt16) (entries : List (Nat × Item)) :
    items id (cut entries) =
      (entries.filter fun entry => entry.1 % 2 ^ 16 = id.toNat).map Prod.snd := by
  rw [items, cut, List.filter_map, List.map_map]
  rfl

theorem filter_sublist_cut {id : UInt16} :
    (entries.filter fun entry => entry.1 = id.toNat).Sublist
      (entries.filter fun entry => entry.1 % 2 ^ 16 = id.toNat) := by
  refine monotone_filter_right entries fun entry same => ?_
  have equal : entry.1 = id.toNat := of_decide_eq_true same
  refine decide_eq_true ?_
  rw [equal]
  exact Nat.mod_eq_of_lt id.toNat_lt

theorem items_sublist_cut (id : UInt16) (entries : List (Nat × Item)) :
    (items id entries).Sublist (items id (cut entries)) := by
  rw [items_cut]
  exact filter_sublist_cut.map Prod.snd

theorem items_cut_of_not_aliases (plain : ¬Aliases schema entries) (known : field ∈ schema.fields) :
    items field.id (cut entries) = items field.id entries := by
  rw [items_cut]
  refine congrArg (map Prod.snd) (filter_congr fun entry member => ?_)
  refine decide_eq_decide.mpr ⟨fun same => ?_, fun same => ?_⟩
  · by_contra different
    exact plain ⟨entry, member, field, known, different, same⟩
  · rw [same]
    exact Nat.mod_eq_of_lt field.id.toNat_lt

theorem exists_items_lt_of_aliases (aliased : Aliases schema entries) :
    ∃ field ∈ schema.fields,
      (items field.id entries).length < (items field.id (cut entries)).length := by
  obtain ⟨entry, member, field, known, different, same⟩ := aliased
  refine ⟨field, known, ?_⟩
  rw [items_cut, items, length_map, length_map]
  refine Nat.lt_of_le_of_ne filter_sublist_cut.length_le fun lengths => ?_
  have equal := filter_sublist_cut.eq_of_length lengths
  have inside : entry ∈ entries.filter fun entry => entry.1 % 2 ^ 16 = field.id.toNat :=
    mem_filter.mpr ⟨member, decide_eq_true same⟩
  rw [← equal, mem_filter] at inside
  exact different (of_decide_eq_true inside.2)

/-! ### What the decoder takes -/

variable (zcbor schema initial) in
/-- A map with at most one item for each field, where the item decodes, and all that is required. -/
def WellFormed (entries : List (Nat × Item)) : Prop :=
  ∃ members, Carries zcbor schema entries members

variable (schema initial) in
/-- `Value{}` leaves empty what the map leaves out. -/
def LeavesEmpty (entries : List (Nat × Item)) : Prop :=
  ∀ field ∈ schema.fields, items field.id entries = [] → field.optional = true →
    initial field = none

theorem wellFormed_iff :
    WellFormed zcbor schema entries ↔
      ∀ field ∈ schema.fields, (field.optional = true ∧ items field.id entries = []) ∨
        ∃ item datum, items field.id entries = [item] ∧
          decodeValue zcbor field.type item = some datum := by
  rw [WellFormed]
  simp only [Carries]
  rw [Pointwise.exists_iff]
  refine forall₂_congr fun field known => ⟨?_, ?_⟩
  · rintro ⟨none | datum, supplies⟩
    · exact .inl supplies
    · obtain ⟨item, one, decodes⟩ := supplies
      exact .inr ⟨item, datum, one, decodes⟩
  · rintro (absent | ⟨item, datum, one, decodes⟩)
    · exact ⟨none, absent⟩
    · exact ⟨some datum, item, one, decodes⟩

theorem settled_iff_wellFormed (initial : Field → Option Datum) :
    (∃ members, Forall₂ (Settles zcbor initial entries) schema.fields members) ↔
      WellFormed zcbor schema entries := by
  rw [Pointwise.exists_iff, wellFormed_iff]
  refine forall₂_congr fun field known => ⟨?_, ?_⟩
  · rintro ⟨member, ⟨optional, absent, -⟩ | ⟨item, datum, one, decodes, -⟩⟩
    · exact .inl ⟨optional, absent⟩
    · exact .inr ⟨item, datum, one, decodes⟩
  · rintro (⟨optional, absent⟩ | ⟨item, datum, one, decodes⟩)
    · exact ⟨initial field, .inl ⟨optional, absent, rfl⟩⟩
    · exact ⟨some datum, .inr ⟨item, datum, one, decodes, rfl⟩⟩

/-- The decoder gives what a map carries iff the cut leaves the map alone and `Value{}` is empty
where the map is. -/
theorem settles_iff_of_carries (carries : Carries zcbor schema entries members) :
    Forall₂ (Settles zcbor initial (cut entries)) schema.fields members ↔
      ¬Aliases schema entries ∧ LeavesEmpty schema initial entries := by
  obtain ⟨lengths, supplied⟩ := forall₂_iff_zip.mp carries
  constructor
  · intro settled
    have both : Forall₂ (fun field member => Supplies zcbor entries field member ∧
        Settles zcbor initial (cut entries) field member) schema.fields members :=
      forall₂_iff_zip.mpr ⟨lengths, fun inside =>
        ⟨supplied inside, (forall₂_iff_zip.mp settled).2 inside⟩⟩
    constructor
    · intro aliased
      obtain ⟨field, known, more⟩ := exists_items_lt_of_aliases aliased
      obtain ⟨member, -, supplies, settles⟩ := Pointwise.exists_of_mem both known
      rcases settles with ⟨-, none, -⟩ | ⟨item, datum, one, -, rfl⟩
      · rw [none] at more
        exact absurd more (Nat.not_lt_zero _)
      · obtain ⟨other, single, -⟩ := supplies
        rw [one, single] at more
        exact absurd more (Nat.lt_irrefl _)
    · intro field known absent optional
      obtain ⟨member, -, supplies, settles⟩ := Pointwise.exists_of_mem both known
      cases member with
      | some datum =>
        obtain ⟨item, single, -⟩ := supplies
        exact absurd (absent.symm.trans single) (by simp)
      | none =>
        rcases settles with ⟨-, -, kept⟩ | ⟨_, _, -, -, made⟩
        · exact kept.symm
        · exact absurd made (by simp)
  · rintro ⟨plain, empty⟩
    refine forall₂_iff_zip.mpr ⟨lengths, fun {field member} inside => ?_⟩
    have known : field ∈ schema.fields := (of_mem_zip inside).1
    have same := items_cut_of_not_aliases plain known
    cases member with
    | none =>
      obtain ⟨optional, absent⟩ := supplied inside
      exact .inl ⟨optional, same.trans absent, (empty field known absent optional).symm⟩
    | some datum =>
      obtain ⟨item, one, decodes⟩ := supplied inside
      exact .inr ⟨item, datum, same.trans one, decodes, rfl⟩

/-! ### Items that no member takes -/

/-- An integer that its type does not hold, an enumerator that a closed enumeration does not
declare, and text or bytes beyond the capacity. -/
def Unacceptable : FieldType → Item → Prop
  | .integer type, item => ∃ value, integer? item = some value ∧ ¬type.Holds value
  | .enumeration declaration, item => ∃ value, integer? item = some value ∧
      ¬(declaration.underlying.Holds value ∧ declaration.Accepts value)
  | .status, item => ∃ value, integer? item = some value ∧ ¬int32.Holds value
  | .text capacity, .text content => capacity < content.length
  | .bytes capacity, .bytes content => capacity < content.length
  | _, _ => False

variable {item : Item}

theorem decodeInteger_eq_none {type : IntegerType} {value : Int}
    (number : integer? item = some value) (outside : ¬type.Holds value) :
    decodeInteger type item = none := by
  refine eq_none_iff_forall_ne_some.mpr fun other decoded => ?_
  obtain ⟨same, holds⟩ := decodeInteger_eq_some_iff.mp decoded
  cases number.symm.trans same
  exact outside holds

theorem decodeValue_of_unacceptable {type : FieldType}
    (bad : Unacceptable type item) : decodeValue zcbor type item = none := by
  cases type with
  | enumeration declaration =>
    obtain ⟨value, number, outside⟩ := bad
    rw [decodeValue, map_eq_none_iff, filter_eq_none_iff]
    intro other decoded
    obtain ⟨same, holds⟩ := decodeInteger_eq_some_iff.mp decoded
    cases number.symm.trans same
    exact fun accepts => outside ⟨holds, of_decide_eq_true accepts⟩
  | text capacity =>
    cases item with
    | text content =>
      have large : capacity < content.length := bad
      rw [decodeValue, decodeBounded, if_pos large, map_none]
    | _ => exact absurd bad id
  | bytes capacity =>
    cases item with
    | bytes content =>
      have large : capacity < content.length := bad
      rw [decodeValue, decodeBounded, if_pos large, map_none]
    | _ => exact absurd bad id
  | boolean | float | double => exact absurd bad id
  | _ =>
    obtain ⟨value, number, outside⟩ := bad
    rw [decodeValue, decodeInteger_eq_none number outside, map_none]

/-! ### Strictness -/

variable (zcbor schema initial) in
/-- The decoder refuses an input. -/
def Refuses (input : Bytes) : Prop := ∃ reason, decode zcbor schema initial input = .error reason

variable (zcbor schema initial) in
/-- What is asked of the decoder for an input that reads as a map: it gives the value that the map
carries, and refuses a map with a number of the schema twice, without one that is required, with an
item that the field's type excludes, or with bytes after it. -/
structure Strict (input : Bytes) : Prop where
  accepts : ∀ entries members, zcbor.takeMap input = some (entries, []) →
    Carries zcbor schema entries members → decode zcbor schema initial input = .ok members
  repeated : ∀ entries rest, zcbor.takeMap input = some (entries, rest) →
    ∀ field ∈ schema.fields, 2 ≤ (items field.id entries).length →
      Refuses zcbor schema initial input
  missing : ∀ entries rest, zcbor.takeMap input = some (entries, rest) →
    ∀ field ∈ schema.fields, field.optional = false → items field.id entries = [] →
      Refuses zcbor schema initial input
  excluded : ∀ entries rest, zcbor.takeMap input = some (entries, rest) →
    ∀ field ∈ schema.fields, ∀ item ∈ items field.id entries, Unacceptable field.type item →
      Refuses zcbor schema initial input
  trailing : ∀ entries rest, zcbor.takeMap input = some (entries, rest) → rest ≠ [] →
    Refuses zcbor schema initial input

theorem refuses_of {input rest : Bytes} (few : schema.fields.length ≤ 64)
    (taken : zcbor.takeMap input = some (entries, rest))
    (bad : rest = [] → ¬WellFormed zcbor schema (cut entries)) :
    Refuses zcbor schema initial input := by
  cases decoded : decode zcbor schema initial input with
  | error reason => exact ⟨reason, decoded⟩
  | ok members =>
    obtain ⟨same, read, settled⟩ := (decode_eq_ok_iff few).mp decoded
    obtain ⟨⟩ := taken.symm.trans read
    exact absurd ((settled_iff_wellFormed initial).mp ⟨members, settled⟩) (bad rfl)

theorem not_wellFormed_of_repeated (known : field ∈ schema.fields)
    (twice : 2 ≤ (items field.id entries).length) : ¬WellFormed zcbor schema (cut entries) := by
  intro formed
  have more := (items_sublist_cut field.id entries).length_le
  rcases wellFormed_iff.mp formed field known with ⟨-, none⟩ | ⟨item, datum, one, -⟩
  · rw [none, length_nil] at more
    omega
  · rw [one, length_singleton] at more
    omega

theorem not_wellFormed_of_unacceptable (known : field ∈ schema.fields)
    (found : item ∈ items field.id entries) (bad : Unacceptable field.type item) :
    ¬WellFormed zcbor schema (cut entries) := by
  intro formed
  have inside := (items_sublist_cut field.id entries).subset found
  rcases wellFormed_iff.mp formed field known with ⟨-, none⟩ | ⟨other, datum, one, decodes⟩
  · rw [none] at inside
    exact absurd inside not_mem_nil
  · rw [one, mem_singleton] at inside
    subst inside
    rw [decodeValue_of_unacceptable bad] at decodes
    exact absurd decodes (by simp)

theorem wellFormed_of_cut (formed : WellFormed zcbor schema (cut entries))
    (complete : ∀ field ∈ schema.fields, items field.id entries = [] → field.optional = true) :
    WellFormed zcbor schema entries := by
  refine wellFormed_iff.mpr fun field known => ?_
  have part := items_sublist_cut field.id entries
  rcases wellFormed_iff.mp formed field known with ⟨optional, none⟩ | ⟨item, datum, one, decodes⟩
  · rw [none] at part
    exact .inl ⟨optional, sublist_nil.mp part⟩
  · rw [one] at part
    rcases sublist_singleton.mp part with none | same
    · exact .inl ⟨complete field known none, none⟩
    · exact .inr ⟨item, datum, same, decodes⟩

variable (zcbor schema initial) in
/-- The condition on an input: if a number outside the schema is cut to one of the schema's, the map
is not well formed either way; and `Value{}` is empty where a well-formed map is. -/
def Unaliased (input : Bytes) : Prop :=
  ∀ entries, zcbor.takeMap input = some (entries, []) → (Aliases schema entries →
      ¬WellFormed zcbor schema entries ∧ ¬WellFormed zcbor schema (cut entries)) ∧
    (WellFormed zcbor schema entries → LeavesEmpty schema initial entries)

variable {input : Bytes}

theorem Strict.plain (few : schema.fields.length ≤ 64)
    (strict : Strict zcbor schema initial input) (taken : zcbor.takeMap input = some (entries, []))
    (formed : WellFormed zcbor schema entries) :
    ¬Aliases schema entries ∧ LeavesEmpty schema initial entries := by
  obtain ⟨members, carries⟩ := formed
  have decoded := strict.accepts entries members taken carries
  obtain ⟨same, read, settled⟩ := (decode_eq_ok_iff few).mp decoded
  cases some.inj (taken.symm.trans read)
  exact (settles_iff_of_carries carries).mp settled

theorem unaliased_of_strict (few : schema.fields.length ≤ 64)
    (strict : Strict zcbor schema initial input) : Unaliased zcbor schema initial input := by
  intro entries taken
  refine ⟨fun aliased => ?_, fun formed => (strict.plain few taken formed).2⟩
  have plainly : ¬WellFormed zcbor schema entries := fun formed =>
    (strict.plain few taken formed).1 aliased
  refine ⟨plainly, fun formed => plainly (wellFormed_of_cut formed ?_)⟩
  intro field known absent
  obtain ⟨members, settled⟩ := (settled_iff_wellFormed initial).mpr formed
  cases optional : field.optional with
  | true => rfl
  | false =>
    obtain ⟨reason, refused⟩ := strict.missing entries [] taken field known optional absent
    have accepted := (decode_eq_ok_iff few).mpr ⟨entries, taken, settled⟩
    exact absurd (refused.symm.trans accepted) (by simp)

theorem strict_of_unaliased (few : schema.fields.length ≤ 64)
    (unaliased : Unaliased zcbor schema initial input) : Strict zcbor schema initial input where
  accepts entries members taken carries := by
    obtain ⟨either, empty⟩ := unaliased entries taken
    have formed : WellFormed zcbor schema entries := ⟨members, carries⟩
    have plain : ¬Aliases schema entries := fun aliased => (either aliased).1 formed
    exact (decode_eq_ok_iff few).mpr
      ⟨entries, taken, (settles_iff_of_carries carries).mpr ⟨plain, empty formed⟩⟩
  repeated entries rest taken field known twice :=
    refuses_of few taken fun _ => not_wellFormed_of_repeated known twice
  missing entries rest taken field known needed absent := by
    refine refuses_of few taken fun ended formed => ?_
    subst ended
    by_cases aliased : Aliases schema entries
    · exact ((unaliased entries taken).1 aliased).2 formed
    · have same := items_cut_of_not_aliases aliased known
      rcases wellFormed_iff.mp formed field known with ⟨optional, -⟩ | ⟨item, _, one, -⟩
      · exact absurd (needed.symm.trans optional) (by decide)
      · exact absurd ((absent.symm.trans same.symm).trans one) (by simp)
  excluded entries rest taken field known item found bad :=
    refuses_of few taken fun _ => not_wellFormed_of_unacceptable known found bad
  trailing entries rest taken more := refuses_of few taken fun ended => absurd ended more

/-! ### The codec -/

theorem not_aliases_entriesOf (zcbor : Zcbor) (value : Value schema) :
    ¬Aliases schema (entriesOf zcbor schema.fields value.members) := by
  rintro ⟨entry, member, field, -, different, same⟩
  obtain ⟨other, -, number⟩ := mem_entriesOf member
  refine different ?_
  rw [number, Nat.mod_eq_of_lt other.id.toNat_lt] at same
  exact number.trans same

theorem length_entriesOf_lt (correct : zcbor.Correct) (few : schema.fields.length ≤ 64)
    (value : Value schema) :
    (entriesOf zcbor schema.fields value.members).length < 2 ^ 32 := by
  have most : (entriesOf zcbor schema.fields value.members).length ≤ value.members.length := by
    rw [length_entriesOf correct value.admitted]
    exact countP_le_length
  have lengths := value.admitted.length_eq
  omega

theorem small_of_mem_entriesOf (correct : zcbor.Correct) (value : Value schema) :
    ∀ entry ∈ entriesOf zcbor schema.fields value.members, entry.1 < 2 ^ 32 ∧ entry.2.Fits := by
  intro entry member
  obtain ⟨small, fits⟩ := fits_of_mem_entriesOf correct value.admitted entry member
  exact ⟨Nat.lt_trans small (by decide), fits⟩

theorem takeMap_encode (correct : zcbor.Correct) (few : schema.fields.length ≤ 64)
    (value : Value schema) :
    zcbor.takeMap (putMap zcbor (entriesOf zcbor schema.fields value.members)) =
      some (entriesOf zcbor schema.fields value.members, []) :=
  takeMap_putMap correct (small_of_mem_entriesOf correct value)
    (length_entriesOf_lt correct few value)

/-- Encode a value with a buffer that suffices and decode it again: it comes back iff `Value{}` is
empty where the value is. An input is treated as it should be iff no number is cut to one of the
schema's, unless the map is not well formed either way, and `Value{}` is empty where the map is. -/
theorem object_codec_strict (initial : Field → Option Datum) (correct : zcbor.Correct)
    (few : schema.fields.length ≤ 64) :
    (∀ value : Value schema, ∃ bytes, (∀ capacity, encode zcbor schema value.members capacity =
        if bytes.length ≤ capacity then .ok bytes else .error .noSpace) ∧
      (decode zcbor schema initial bytes = .ok value.members ↔
        ∀ pair ∈ schema.fields.zip value.members, pair.2 = none → initial pair.1 = none)) ∧
    ∀ input, Strict zcbor schema initial input ↔ Unaliased zcbor schema initial input := by
  refine ⟨fun value => ?_, fun input => ⟨unaliased_of_strict few, strict_of_unaliased few⟩⟩
  have taken := takeMap_encode correct few value
  have carries : Carries zcbor schema (entriesOf zcbor schema.fields value.members) value.members :=
    carries_entriesOf correct value.admitted schema.ids_nodup
  have plain := not_aliases_entriesOf zcbor value
  refine ⟨_, encode_eq correct value, ?_⟩
  have decoded : decode zcbor schema initial
      (putMap zcbor (entriesOf zcbor schema.fields value.members)) = .ok value.members ↔
        LeavesEmpty schema initial (entriesOf zcbor schema.fields value.members) := by
    rw [decode_eq_ok_iff few]
    constructor
    · rintro ⟨entries, read, settled⟩
      cases some.inj (taken.symm.trans read)
      exact ((settles_iff_of_carries carries).mp settled).2
    · exact fun empty => ⟨_, taken, (settles_iff_of_carries carries).mpr ⟨plain, empty⟩⟩
  rw [decoded]
  obtain ⟨lengths, supplied⟩ := forall₂_iff_zip.mp carries
  constructor
  · rintro empty ⟨field, member⟩ inside rfl
    obtain ⟨optional, absent⟩ := supplied inside
    exact empty field (of_mem_zip inside).1 absent optional
  · intro blank field known absent _
    obtain ⟨member, inside, supplies⟩ := Pointwise.exists_of_mem carries known
    cases member with
    | none => exact blank (field, none) inside rfl
    | some datum =>
      obtain ⟨item, single, -⟩ := supplies
      exact absurd (absent.symm.trans single) (by simp)

/-! ### A schema with one counter -/

/-- The half-precision number with the given bits, found by search. -/
@[irreducible] def searchHalf (value : BitVec 32) : BitVec 16 :=
  (((range (2 ^ 16)).map (BitVec.ofNat 16)).find? fun bits => halfToFloat bits = value).getD 0

theorem halfToFloat_searchHalf {bits : BitVec 16} :
    halfToFloat (searchHalf (halfToFloat bits)) = halfToFloat bits := by
  have listed : bits ∈ (range (2 ^ 16)).map (BitVec.ofNat 16) :=
    List.mem_map.mpr ⟨bits.toNat, List.mem_range.mpr bits.isLt, by simp⟩
  unfold searchHalf
  cases found : ((range (2 ^ 16)).map (BitVec.ofNat 16)).find? fun other =>
      halfToFloat other = halfToFloat bits with
  | none => exact absurd (find?_eq_none.mp found bits listed) (by simp)
  | some other => simpa using find?_some found

/-- The primitives over definite lengths and shortest heads. -/
def wire : Zcbor where
  put := Solar.Cbor.write
  mapStart := Solar.Cbor.mapHead
  take := Solar.Cbor.read
  takeMapStart := Solar.Cbor.readMapHead
  toHalf := searchHalf
  ofHalf := halfToFloat

theorem wire_correct : wire.Correct where
  take_put _ rest fits := Solar.Cbor.read_write fits rest
  takeMapStart_mapStart _ rest small :=
    Solar.Cbor.readMapHead_mapHead (Nat.lt_trans small (by decide)) rest
  half bits _ := halfToFloat_searchHalf

/-- A byte under number 1 and an optional note under number 2. -/
def counterSchema : Schema where
  fields := [⟨1, "count", .integer ⟨false, .byte⟩, false⟩, ⟨2, "note", .text 4, true⟩]
  ordered := by decide
  nonzero := by decide
  named := by decide

def counterValue : Value counterSchema where
  members := [some (.integer 200), none]
  admitted := .cons ⟨by decide, by decide⟩ (.cons rfl .nil)

/-- `Value{}` of the counter. -/
def counterInitial (field : Field) : Option Datum :=
  if field.optional then none else some (.integer 0)

/-- The counter as it is encoded, and a map that has it after a number outside the schema. -/
theorem object_codec_strict_counter :
    (∃ bytes, encode wire counterSchema counterValue.members bytes.length = .ok bytes ∧
      decode wire counterSchema counterInitial bytes = .ok counterValue.members) ∧
    Strict wire counterSchema counterInitial [0xA2, 0x19, 0x03, 0xE7, 0x07, 0x01, 0x18, 0xC8] := by
  obtain ⟨trips, strict⟩ := object_codec_strict counterInitial wire_correct
    (show counterSchema.fields.length ≤ 64 by decide)
  constructor
  · obtain ⟨bytes, encoded, decoded⟩ := trips counterValue
    refine ⟨bytes, (encoded bytes.length).trans (if_pos le_rfl), decoded.mpr ?_⟩
    simp [counterSchema, counterValue, counterInitial]
  · refine (strict _).mpr fun entries taken => ?_
    have shape : wire.takeMap [0xA2, 0x19, 0x03, 0xE7, 0x07, 0x01, 0x18, 0xC8] =
        some ([(999, .unsigned 7), (1, .unsigned 200)], []) := by
      decide +kernel
    obtain ⟨rfl, -⟩ := Prod.mk.inj (some.inj (taken.symm.trans shape))
    constructor
    · intro aliased
      simp [Aliases, counterSchema] at aliased
    · intro _ field known _ optional
      rw [counterInitial, if_pos optional]

/-- A map with 7 under number 65537 and nothing under the required number 1. -/
theorem object_codec_not_strict :
    ¬Strict wire counterSchema counterInitial [0xA1, 0x1A, 0x00, 0x01, 0x00, 0x01, 0x07] := by
  intro strict
  have taken : wire.takeMap [0xA1, 0x1A, 0x00, 0x01, 0x00, 0x01, 0x07] =
      some ([(65537, .unsigned 7)], []) := by
    decide +kernel
  obtain ⟨reason, refused⟩ := strict.missing _ _ taken _ mem_cons_self rfl (by decide)
  have accepted : decode wire counterSchema counterInitial
      [0xA1, 0x1A, 0x00, 0x01, 0x00, 0x01, 0x07] = .ok [some (.integer 7), none] := by
    rfl
  exact absurd (refused.symm.trans accepted) (by simp)

end Solar.Remote.Cbor
