/-
This file proves that a group record is read back: the values of the members are
encoded one behind the other, each in the size its codec declares, and the loader
cuts the payload at the same sizes. What a group record loads is then a value for
each member.
-/

import Solar.Parameters.Durable

namespace Solar.Parameters

open List Words

namespace Facility

variable {A : Architecture}

/-! ### Payloads -/

/-- The payload is the encoding of these values. -/
def Encodes (A : Architecture) (members : List A.Parameter) (values : Values A)
    (payload : Bytes) : Prop :=
  encodeGroupPayload A (fun member => .ok (values member)) members = .ok payload

/-- The values all slots hold. -/
def values (facility : Facility A) : Values A := fun parameter => (facility.slot parameter).value

variable {payload : Bytes} {members : List A.Parameter}
  {provider : (parameter : A.Parameter) → Except Status (A.Value parameter)}
  {values : Values A}

theorem encodeGroupPayload_cons {member : A.Parameter} {rest : List A.Parameter}
    (encoded : encodeGroupPayload A provider (member :: rest) = .ok payload) :
    ∃ value bytes more, provider member = .ok value ∧
      (A.declaration member).codec.encodeFull value = .ok bytes ∧
      encodeGroupPayload A provider rest = .ok more ∧ payload = bytes ++ more := by
  unfold encodeGroupPayload at encoded
  split at encoded
  · exact nomatch encoded
  next value provided =>
  split at encoded
  · exact nomatch encoded
  next bytes written =>
  split at encoded
  · exact nomatch encoded
  next more later =>
  exact ⟨value, bytes, more, provided, written, later, (Except.ok.inj encoded).symm⟩

theorem encodes_of_provider
    (gives : ∀ member ∈ members, ∀ value, provider member = .ok value → value = values member)
    (encoded : encodeGroupPayload A provider members = .ok payload) :
    Encodes A members values payload := by
  induction members generalizing payload with
  | nil => exact encoded
  | cons member rest ih =>
    obtain ⟨value, bytes, more, provided, written, later, rfl⟩ := encodeGroupPayload_cons encoded
    obtain rfl := gives member mem_cons_self value provided
    have tail : Encodes A rest values more := ih
      (fun other listed => gives other (mem_cons_of_mem _ listed)) later
    unfold Encodes at tail ⊢
    simp only [encodeGroupPayload, written, tail]

theorem length_payload (encoded : Encodes A members values payload) :
    payload.length = (members.map fun member => (A.declaration member).codec.encodedSize).sum := by
  induction members generalizing payload with
  | nil =>
    obtain rfl := Except.ok.inj encoded
    rfl
  | cons member rest ih =>
    obtain ⟨value, bytes, more, _, written, later, rfl⟩ := encodeGroupPayload_cons encoded
    rw [length_append, (encodeFull_eq_ok written).2, ih later, map_cons, sum_cons]

/-- The loader's values: those of the members from the payload, the others as they were. -/
theorem decodeGroupValues_encoded (lawful : ∀ member ∈ members, (A.declaration member).codec.Lawful)
    {base : Values A} (encoded : Encodes A members values payload) :
    decodeGroupValues A members payload base =
      .ok fun parameter => if parameter ∈ members then values parameter else base parameter := by
  induction members generalizing payload base with
  | nil =>
    obtain rfl := Except.ok.inj encoded
    simp [decodeGroupValues]
  | cons member rest ih =>
    obtain ⟨value, bytes, more, given, written, later, rfl⟩ := encodeGroupPayload_cons encoded
    obtain rfl := Except.ok.inj given
    obtain ⟨wrote, full⟩ := encodeFull_eq_ok written
    have reads := lawful member mem_cons_self (values member) bytes wrote full
    have enough : ¬ (bytes ++ more).length < bytes.length := by
      rw [length_append]
      omega
    unfold decodeGroupValues
    simp only [← full, enough, if_false, take_left, drop_left, reads]
    rw [ih (fun other listed => lawful other (mem_cons_of_mem _ listed)) later]
    congr 1
    funext parameter
    by_cases first : parameter = member
    · subst first
      simp
    · simp [first]

theorem normalizeGroupValues_settled
    (settled : ∀ member ∈ members, Settled A member (values member)) :
    normalizeGroupValues A members values = .ok values := by
  induction members with
  | nil => rfl
  | cons member rest ih =>
    obtain ⟨adjusted, kept⟩ := settled member mem_cons_self
    unfold normalizeGroupValues
    simp only [kept, Function.update_eq_self]
    exact ih fun other listed => settled other (mem_cons_of_mem _ listed)

/-! ### Group records -/

/-- The members' codecs and validations keep to what the facility relies on. -/
def SoundGroup (A : Architecture) (group : A.Group) : Prop :=
  ∀ member ∈ (A.group group).members, Sound A member

/-- The value a member has after the group record was loaded. -/
def loadsGroup (A : Architecture) (group : A.Group) (content : Option Bytes) : Values A :=
  match content with
  | none => defaults A
  | some record =>
      match readGroupRecord A group record with
      | .error _ => defaults A
      | .ok (values, _) => values

/-- A group record that was written is read back. -/
theorem readGroupRecord_encoded {group : A.Group} (sound : SoundGroup A group)
    (settled : ∀ member ∈ (A.group group).members, Settled A member (values member))
    {record : Bytes} (encoded : Encodes A (A.group group).members values payload)
    (written : encodeGroupRecord A group payload = .ok record) :
    readGroupRecord A group record = .ok (fun parameter =>
      if parameter ∈ (A.group group).members then values parameter else defaults A parameter,
      .store) := by
  have fits := A.payload_size_le group
  have bounded := A.maxGroupRecordBytes_le
  have length := length_encodeRecord written
  have payloadLength := length_payload encoded
  have decoded := decodeRecord_encodeRecord (by omega) written
  have short : ¬ A.maxGroupRecordBytes < record.length := by omega
  have own : ¬ ((A.groupKey group).kind.code ≠ RecordKind.group.code ∨
      (A.groupKey group).stableId ≠ (A.group group).stableId) := by
    simp [Architecture.groupKey]
  have payloads : readGroupPayload A group (A.group group).version payload =
      .ok (fun parameter => if parameter ∈ (A.group group).members then values parameter
        else defaults A parameter, .store) := by
    simp [readGroupPayload, decodeGroupValues_encoded (fun member listed => (sound member
        listed).lawful) encoded, Except.map]
  have normalizes : normalizeGroupValues A (A.group group).members (fun parameter =>
        if parameter ∈ (A.group group).members then values parameter else defaults A parameter) =
      .ok _ := normalizeGroupValues_settled fun member listed => by
    rw [if_pos listed]
    exact settled member listed
  unfold readGroupRecord
  simp [short, decoded, own, payloads, normalizes]

theorem loadsGroup_encoded {group : A.Group} (sound : SoundGroup A group)
    (settled : ∀ member ∈ (A.group group).members, Settled A member (values member))
    {record : Bytes} (encoded : Encodes A (A.group group).members values payload)
    (written : encodeGroupRecord A group payload = .ok record) {member : A.Parameter}
    (listed : member ∈ (A.group group).members) :
    loadsGroup A group (some record) member = values member := by
  simp only [loadsGroup, readGroupRecord_encoded sound settled encoded written, if_pos listed]

/-! ### Loading a group -/

/-- What the load of the group does to the slot of a member. -/
def loadMember (A : Architecture) (group : A.Group) (content : Option Bytes)
    (member : A.Parameter) (slot : Slot (A.Value member)) : Slot (A.Value member) :=
  match content with
  | none => { slot with persistence := .clean }
  | some record =>
      match readGroupRecord A group record with
      | .error _ => slot
      | .ok (values, _) => slot.markLoaded (values member)

section

variable {group : A.Group} {member : A.Parameter}

theorem slot_loadPersistentGroup (listed : member ∈ (A.group group).members)
    (facility : Facility A) :
    (facility.loadPersistentGroup group).1.slot member =
      loadMember A group (facility.groupRecord group) member (facility.slot member) := by
  have distinct := A.nodup_members group
  unfold loadPersistentGroup loadMember groupRecord
  generalize facility.stored (A.groupStore group) (A.groupKey group) = content
  cases content with
  | none => exact slot_updateSlots_of_mem distinct listed facility
  | some record =>
  dsimp only
  generalize readGroupRecord A group record = read
  obtain status | ⟨values, source⟩ := read
  · rfl
  · dsimp only
    split_ifs
    · exact slot_updateSlots_of_mem distinct listed facility
    · exact slot_updateSlots_of_mem distinct listed facility

theorem value_loadMember (content : Option Bytes) :
    (loadMember A group content member (initialSlot A member)).value =
      loadsGroup A group content member := by
  cases content with
  | none => rfl
  | some record =>
    simp only [loadMember, loadsGroup]
    cases readGroupRecord A group record with
    | error | ok => rfl

theorem value_loadPersistentGroup (listed : member ∈ (A.group group).members)
    (stored : A.Store → Key → Option Bytes) :
    (((initial A stored).loadPersistentGroup group).1.slot member).value =
      loadsGroup A group (stored (A.groupStore group) (A.groupKey group)) member := by
  rw [slot_loadPersistentGroup listed]
  exact value_loadMember _

theorem dirty_loadMember (content : Option Bytes) :
    (loadMember A group content member (initialSlot A member)).dirty = false := by
  unfold loadMember
  split
  · rfl
  · split <;> rfl

section

variable (listed : member ∈ (A.group group).members)

include listed

theorem group_unique {other : A.Group} (otherListed : member ∈ (A.group other).members) :
    other = group := by
  have first := (A.transactional_iff member group).mpr listed
  have second := (A.transactional_iff member other).mpr otherListed
  rw [first] at second
  exact (Persistence.transactional.inj second).symm

theorem loadPersistentParameter_of_member (facility : Facility A) (parameter : A.Parameter) :
    (facility.loadPersistentParameter parameter).1.slot member = facility.slot member := by
  by_cases same : member = parameter
  · subst same
    simp only [loadPersistentParameter, (A.transactional_iff member group).mpr listed]
  · exact loadPersistentParameter_of_ne same facility

/-- The slot of a member after the boot. -/
theorem slot_boot_member {contents : A.Store → Key → Option Bytes} {start : Facility A}
    (booted : boot A contents = .ok start) :
    start.slot member =
      loadMember A group (start.groupRecord group) member (initialSlot A member) := by
  have stored := stored_boot booted
  unfold boot at booted
  split at booted
  · exact nomatch booted
  next loaded first =>
  have initially : (initial A contents).slot member = initialSlot A member ∧
      (initial A contents).stored = contents := ⟨rfl, rfl⟩
  have unloaded : loaded.slot member = initialSlot A member ∧ loaded.stored = contents :=
    loadEach_rule (motive := fun facility => facility.slot member = initialSlot A member ∧
        facility.stored = contents)
      (fun facility holds parameter _ =>
        ⟨(loadPersistentParameter_of_member listed facility parameter).trans holds.1,
          (stored_loadPersistentParameter facility parameter).trans holds.2⟩)
      initially first
  obtain ⟨before, same, decided⟩ := loadEach_own
    (fun facility => (facility.slot member, facility.stored))
    (fun facility other different => Prod.ext
      (loadPersistentGroup_of_not_mem (fun among => different (group_unique listed among)) facility)
      (stored_loadPersistentGroup facility other))
    A.nodup_groups (A.mem_groups group) booted
  obtain ⟨slot, unread⟩ := Prod.mk.inj same
  have own : start.slot member = loadMember A group (before.groupRecord group) member
      (before.slot member) :=
    (congrArg Prod.fst decided).trans (slot_loadPersistentGroup listed before)
  rw [own, groupRecord, groupRecord, slot, unread, unloaded.1, unloaded.2, stored]

end

end

end Facility

end Solar.Parameters
