/-
This file carries the durability of a persistence group through whole runs of
the threads. A set, a reset or a transaction acts on the group in one of three
ways, an image waits with the values it was encoded from, and a granted save of
an image makes the group's record that image. It ends with a group of two
members and the run in which an overtaken thread writes an older image over a
newer one.
-/

import Solar.Parameters.DurableGroup

namespace Solar.Parameters

open List Option Function Words

namespace Facility

variable {A : Architecture} {group : A.Group}

/-! ### After the boot -/

/-- Normalized values are settled at every member. -/
theorem settled_normalizeGroupValues {members : List A.Parameter}
    (settles : ∀ member ∈ members, Settles (A.declaration member).normalize)
    {values normalized : Values A}
    (made : normalizeGroupValues A members values = .ok normalized) :
    ∀ member, (member ∈ members ∨ Settled A member (values member)) →
      Settled A member (normalized member) := by
  induction members generalizing values with
  | nil =>
    intro member origin
    obtain rfl := Except.ok.inj made
    exact origin.resolve_left not_mem_nil
  | cons first rest ih =>
    intro member origin
    unfold normalizeGroupValues at made
    split at made
    · exact nomatch made
    next accepted acceptedBy =>
    refine ih (fun other listed => settles other (mem_cons_of_mem _ listed))
      made member ?_
    by_cases same : member = first
    · subst same
      refine .inr ?_
      rw [update_self]
      exact settles member mem_cons_self _ _ acceptedBy
    · rw [update_of_ne same]
      exact origin.imp_left fun listed => (mem_cons.mp listed).resolve_left same

theorem settled_of_readGroup
    (settles : ∀ member ∈ (A.group group).members, Settles (A.declaration member).normalize)
    {record : Bytes} {values : Values A} {source : LoadSource}
    (read : readGroupRecord A group record = .ok (values, source)) {member : A.Parameter}
    (listed : member ∈ (A.group group).members) : Settled A member (values member) := by
  unfold readGroupRecord at read
  split_ifs at read
  split at read
  · exact nomatch read
  split_ifs at read
  split at read
  · exact nomatch read
  split at read
  · exact nomatch read
  next normalized made =>
  obtain ⟨⟩ := Except.ok.inj read
  exact settled_normalizeGroupValues settles made member (.inl listed)

theorem settled_loadsGroup (sound : SoundGroup A group) (content : Option Bytes)
    {member : A.Parameter} (listed : member ∈ (A.group group).members) :
    Settled A member (loadsGroup A group content member) := by
  cases content with
  | none => exact settled_default A member
  | some record =>
  simp only [loadsGroup]
  rcases read : readGroupRecord A group record with status | ⟨values, source⟩
  · exact settled_default A member
  · exact settled_of_readGroup (fun other otherListed => (sound other otherListed).settles) read
      listed

theorem durableMembers_boot (sound : SoundGroup A group)
    {contents : A.Store → Key → Option Bytes} {start : Facility A}
    (booted : boot A contents = .ok start) : DurableMembers A group start := by
  have value : ∀ member ∈ (A.group group).members,
      (start.slot member).value = loadsGroup A group (start.groupRecord group) member := by
    intro member listed
    rw [slot_boot_member listed booted, value_loadMember]
  refine ⟨fun member listed => ?_, fun _ member listed => (value member listed).symm,
    fun member listed _ => (value member listed).symm, fun _ member listed => ?_⟩
  · rw [value member listed]
    exact settled_loadsGroup sound _ listed
  · rw [slot_boot_member listed booted]
    exact dirty_loadMember _

/-! ### Saves of other records -/

theorem groupOutcome_persistWork {parameter : A.Parameter}
    (outside : parameter ∉ (A.group group).members) (facility : Facility A)
    (environment : Environment A) (work : PersistenceWork (A.Value parameter)) {marks : Nat} :
    GroupOutcome A group marks facility (facility.persistWork environment parameter work).1 := by
  have apart : ∀ member ∈ (A.group group).members, member ≠ parameter := fun member listed same =>
    outside (same ▸ listed)
  unfold persistWork
  simp only
  obtain ⟨status, failed⟩ | ⟨content, _, _, saved⟩ :=
    facility.persistValue_cases environment parameter work.value work.erase
  · rw [failed]
    exact .of_eq (fun member listed => slot_updateSlot_of_ne _ _ _ (apart member listed)) rfl rfl
  · rw [saved]
    refine .of_eq (fun member listed => ?_) rfl (groupRecord_putParameter facility _ _)
    rw [slot_updateSlot_of_ne _ _ _ (apart member listed)]
    rfl

/-- The save of another group. -/
theorem groupOutcome_persistGroupWork {other : A.Group} (different : other ≠ group)
    (owns : OwnsRecord A group) (facility : Facility A) (environment : Environment A)
    (revision : UInt64) (payload : Bytes) {marks : Nat} :
    GroupOutcome A group marks facility
      (facility.persistGroupWork environment other revision payload).1 := by
  have outside : ∀ member ∈ (A.group group).members, member ∉ (A.group other).members :=
    fun member listed otherListed => different (group_unique listed otherListed)
  refine .of_eq (fun member listed =>
    (facility.persistGroupWork_of_not_mem (outside member listed) environment revision
      payload).1) ?_ ?_
  · unfold persistGroupWork
    rw [group_updateSlots, group_updateGroup_of_ne _ _ _ different.symm]
    obtain ⟨status, failed⟩ | ⟨record, _, _, saved⟩ :=
      facility.saveGroupPayload_cases environment other payload
    · rw [failed]
    · rw [saved]
      rfl
  · unfold persistGroupWork
    rw [groupRecord, stored_updateSlots, stored_updateGroup]
    obtain ⟨status, failed⟩ | ⟨record, _, _, saved⟩ :=
      facility.saveGroupPayload_cases environment other payload
    · rw [failed]
      rfl
    · rw [saved]
      exact groupRecord_putGroup_of_ne owns different facility record

/-- A save of the group keeps the values of the members and the group's revision. -/
theorem persistGroupWork_keeps (facility : Facility A) (environment : Environment A)
    (revision : UInt64) (payload : Bytes) :
    ((facility.persistGroupWork environment group revision payload).1.group group).revision =
        (facility.group group).revision ∧
      ∀ member ∈ (A.group group).members,
        ((facility.persistGroupWork environment group revision payload).1.slot member).value =
          (facility.slot member).value := by
  have slots : (facility.saveGroupPayload environment group payload).1.slot = facility.slot ∧
      (facility.saveGroupPayload environment group payload).1.group = facility.group := by
    obtain ⟨status, failed⟩ | ⟨record, _, _, saved⟩ :=
      facility.saveGroupPayload_cases environment group payload
    · rw [failed]
      exact ⟨rfl, rfl⟩
    · rw [saved]
      exact ⟨rfl, rfl⟩
  unfold persistGroupWork
  refine ⟨?_, fun member listed => ?_⟩
  · rw [group_updateSlots, group_updateGroup_self, slots.2]
    unfold GroupState.finish
    split_ifs <;> rfl
  · rw [slot_updateSlots_of_mem (A.nodup_members group) listed, slot_updateGroup, slots.1]
    unfold finishMember
    split
    · rfl
    split_ifs
    · unfold Slot.finishPersistence
      split
      · split_ifs <;> rfl
      · rfl
    · rfl

theorem FittingPayload.of_keeps {before after : Facility A} {revision : UInt64} {payload : Bytes}
    (fits : FittingPayload A group before revision payload)
    (kept : (after.group group).revision = (before.group group).revision ∧
      ∀ member ∈ (A.group group).members, (after.slot member).value = (before.slot member).value) :
    FittingPayload A group after revision payload := by
  obtain ⟨values, encodes, settled, current⟩ := fits
  refine ⟨values, encodes, settled, fun notAtOnce same member listed => ?_⟩
  rw [kept.2 member listed]
  exact current notAtOnce (same.trans kept.1) member listed

end Facility

/-! ### Runs -/

namespace System

variable {A : Architecture} {group : A.Group}

/-- The group is durable and its encoded images fit. No member is captured on its own. -/
structure DurableGroup (group : A.Group) (system : System A) : Prop where
  members : Facility.DurableMembers A group system.facility
  works : ∀ revision payload, ⟨group, revision, some payload⟩ ∈ system.groupWorks →
    Facility.FittingPayload A group system.facility revision payload
  outside : ∀ captured ∈ system.works, captured.parameter ∉ (A.group group).members

/-- No encoded image carries a revision that the group is given by the next changes. -/
def FreshGroup (group : A.Group) (changes : Nat) (system : System A) : Prop :=
  (A.group group).commit ≠ .immediate →
    ∀ revision payload, ⟨group, revision, some payload⟩ ∈ system.groupWorks →
      ∀ count, 0 < count → count ≤ changes →
        revision ≠ (system.facility.group group).revision + UInt64.ofNat count

/-- What is asked of a step, for one group. An encoded image is saved only while every member that
has another value by now is dirty, with the group. A change of members gives the group revisions that
no encoded image carries. In a group that is written at once a value is written once the image is; in
another group the values of a transaction that fails are undone. -/
def InTimeGroup (group : A.Group) (system : System A) : SystemLabel A → Prop
  | .set environment name _ _ | .reset environment name _ => name ∈ (A.group group).members →
      ((A.group group).commit = .immediate → (environment.write name).isOk = true) ∧
        FreshGroup group 1 system
  | .setAll environment transaction =>
      ((A.group group).commit ≠ .immediate → ∀ member ∈ (A.group group).members,
        Facility.Rewinds member environment transaction system.facility) ∧
      ((A.group group).commit = .immediate →
        Facility.Completes group environment transaction system.facility) ∧
      FreshGroup group transaction.assignments.length system
  | .commitGroup environment index => ∀ revision payload,
      system.groupWorks[index]? = some ⟨group, revision, some payload⟩ →
      (environment.store (A.groupKey group)).isOk = true →
        Facility.TimelyPayload A group system.facility payload
  | _ => True

variable {system next : System A}

theorem DurableGroup.of_outcome (holds : DurableGroup group system) {marks : Nat}
    (outcome : Facility.GroupOutcome A group marks system.facility next.facility)
    (fresh : FreshGroup group marks system) (works : next.works ⊆ system.works)
    (groupWorks : next.groupWorks ⊆ system.groupWorks) : DurableGroup group next where
  members := outcome.durable holds.members
  works revision payload listed := outcome.fits
    (fun notAtOnce => fresh notAtOnce revision payload (groupWorks listed))
    (holds.works revision payload (groupWorks listed))
  outside captured listed := holds.outside captured (works listed)

theorem freshGroup_zero (system : System A) : FreshGroup group 0 system :=
  fun _ _ _ _ _ positive bounded => absurd bounded (Nat.not_le_of_lt positive)

section

variable (holds : DurableGroup group system)

include holds

theorem DurableGroup.of_eq (facility : next.facility = system.facility)
    (works : next.works ⊆ system.works)
    (groupWorks : ∀ revision payload, ⟨group, revision, some payload⟩ ∈ next.groupWorks →
      ⟨group, revision, some payload⟩ ∈ system.groupWorks) : DurableGroup group next where
  members := facility ▸ holds.members
  works revision payload listed :=
    facility ▸ holds.works revision payload (groupWorks revision payload listed)
  outside captured listed := holds.outside captured (works listed)

/-- A captured work is one of a parameter with a record of its own. -/
theorem DurableGroup.of_capture (environment : Environment A) (name : A.Parameter) (force : Bool) :
    DurableGroup group (system.capture environment name force) := by
  unfold System.capture
  split
  next commit single =>
    split
    · exact holds
    split
    · exact holds
    simp only
    split_ifs with waits
    · exact holds
    · refine ⟨holds.members, holds.works, fun captured listed => ?_⟩
      obtain earlier | now := mem_append.mp listed
      · exact holds.outside captured earlier
      · rw [mem_singleton.mp now]
        intro member
        rw [(A.transactional_iff name group).mpr member] at single
        exact nomatch single
  · exact holds

theorem DurableGroup.of_commit {environment : Environment A} {index : Nat}
    (stepped : system.commit environment index = some next) : DurableGroup group next := by
  unfold System.commit at stepped
  split at stepped
  · exact nomatch stepped
  next captured found =>
  have outside := holds.outside captured (mem_of_getElem? found)
  split at stepped
  · rw [← some.inj stepped]
    exact holds.of_eq rfl eraseIdx_subset fun _ _ listed => listed
  · rw [← some.inj stepped]
    exact holds.of_outcome (Facility.groupOutcome_persistWork outside _ environment captured.work)
      (freshGroup_zero system) eraseIdx_subset (Subset.refl _)

theorem DurableGroup.of_readGroup (name : A.Group) (force : Bool) :
    DurableGroup group (system.readGroup name force) := by
  unfold System.readGroup
  simp only
  split_ifs with waits
  · exact holds
  · refine holds.of_eq rfl (Subset.refl _) fun revision payload listed => ?_
    obtain earlier | now := mem_append.mp listed
    · exact earlier
    · exact nomatch congrArg GroupWork.payload (mem_singleton.mp now)

/-- An image is encoded from the values the slots have. -/
theorem DurableGroup.of_encodeGroup {environment : Environment A} {index : Nat}
    (stepped : system.encodeGroup environment index = some next) : DurableGroup group next := by
  unfold System.encodeGroup at stepped
  split at stepped
  next name read found =>
    split at stepped
    · rw [← some.inj stepped]
      exact holds.of_eq rfl (Subset.refl _) fun _ _ listed => eraseIdx_subset listed
    split at stepped
    · rw [← some.inj stepped]
      exact holds.of_eq rfl (Subset.refl _) fun _ _ listed => eraseIdx_subset listed
    next image encoded =>
    rw [← some.inj stepped]
    refine ⟨holds.members, fun revision payload listed => ?_, holds.outside⟩
    obtain earlier | now := mem_or_eq_of_mem_set listed
    · exact holds.works revision payload earlier
    · obtain ⟨rfl, rfl, same⟩ := GroupWork.mk.inj now
      obtain ⟨⟩ := same
      refine ⟨system.facility.values, ?_, holds.members.settled, fun _ _ _ _ => rfl⟩
      exact Facility.encodes_of_provider
        (fun member _ value provided => (Facility.peek_eq_ok provided).symm) encoded
  · exact nomatch stepped

end

section

variable (sound : Facility.SoundGroup A group) (owns : Facility.OwnsRecord A group)

include sound owns

variable {system : System A}

section

variable (holds : DurableGroup group system)

include holds

theorem DurableGroup.of_set {environment : Environment A} {name : A.Parameter}
    {candidate : A.Value name} {noWait reset : Bool}
    (inTime : name ∈ (A.group group).members →
      ((A.group group).commit = .immediate → (environment.write name).isOk = true) ∧
        FreshGroup group 1 system) :
    DurableGroup group { system with facility := (system.facility.setParameter environment
      system.now name candidate noWait reset).1 } := by
  have sets := Facility.sets environment system.now name candidate noWait reset system.facility
  by_cases listed : name ∈ (A.group group).members
  · obtain ⟨writes, fresh⟩ := inTime listed
    exact holds.of_outcome (Facility.groupOutcome_set_member sound listed holds.members writes sets)
      fresh (Subset.refl _) (Subset.refl _)
  · exact holds.of_outcome (Facility.groupOutcome_set_outside listed owns sets)
      (freshGroup_zero system) (Subset.refl _) (Subset.refl _)

/-- The save of an encoded image. -/
theorem DurableGroup.of_commitGroup {environment : Environment A} {index : Nat}
    (timely : ∀ revision payload, system.groupWorks[index]? = some ⟨group, revision, some payload⟩ →
      (environment.store (A.groupKey group)).isOk = true →
        Facility.TimelyPayload A group system.facility payload)
    (stepped : system.commitGroup environment index = some next) : DurableGroup group next := by
  unfold System.commitGroup at stepped
  split at stepped
  next name revision payload found =>
    split at stepped
    · rw [← some.inj stepped]
      exact holds.of_eq rfl (Subset.refl _) fun _ _ listed => eraseIdx_subset listed
    rw [← some.inj stepped]
    by_cases same : name = group
    · subst same
      refine ⟨?_, fun other image listed => ?_, holds.outside⟩
      · obtain ⟨status, failed⟩ | ⟨record, granted, encoded, saved⟩ :=
          system.facility.saveGroupPayload_cases environment name payload
        · exact (Facility.groupOutcome_persist_failed failed).durable holds.members
        · exact Facility.durable_persist_saved sound holds.members
            (holds.works revision payload (mem_of_getElem? found))
            (timely revision payload found granted) encoded saved
      · exact (holds.works other image (eraseIdx_subset listed)).of_keeps
          (system.facility.persistGroupWork_keeps environment revision payload)
    · exact holds.of_outcome (Facility.groupOutcome_persistGroupWork same owns _ environment
        revision payload) (freshGroup_zero system) (Subset.refl _) eraseIdx_subset
  · exact nomatch stepped

/-- Every step in time keeps the group durable. -/
theorem DurableGroup.of_step {label : SystemLabel A}
    (inTime : InTimeGroup group system label) (stepped : system.step label = some next) :
    DurableGroup group next := by
  cases label with
  | elapse ticks =>
    cases stepped
    exact holds.of_eq rfl (Subset.refl _) fun _ _ listed => listed
  | setAll environment transaction =>
    cases stepped
    obtain ⟨rewinds, completes, fresh⟩ := inTime
    exact holds.of_outcome (Facility.groupOutcome_setAll sound owns holds.members rewinds completes
      (Facility.setsAll environment system.now transaction system.facility)) fresh
      (Subset.refl _) (Subset.refl _)
  | scheduleFailed name =>
    cases stepped
    refine holds.of_outcome (.kept (fun member _ => ?_) rfl rfl rfl) (freshGroup_zero system)
      (Subset.refl _) (Subset.refl _)
    by_cases same : member = name
    · subst same
      rw [Facility.slot_updateSlot_self]
      exact ⟨rfl, rfl, rfl, rfl, rfl⟩
    · rw [Facility.slot_updateSlot_of_ne _ _ _ same]
      exact .refl _
  | capture environment name force =>
    cases stepped
    exact holds.of_capture environment name force
  | commit environment index => exact holds.of_commit stepped
  | readGroup name force =>
    cases stepped
    exact holds.of_readGroup name force
  | encodeGroup environment index => exact holds.of_encodeGroup stepped
  | commitGroup environment index => exact holds.of_commitGroup sound owns inTime stepped
  | _ =>
    cases stepped
    exact holds.of_set sound owns inTime

end

/-- Clean means durable: in every run whose steps are all in time, loading the store's content gives
the members of a group that is not dirty the values they have, and every member that is not dirty. -/
theorem clean_group_is_durable {contents : A.Store → Key → Option Bytes} {start : Facility A}
    (booted : Facility.boot A contents = .ok start) {system : System A}
    (reached : (systemMachine A).ReachableWhere (InTimeGroup group) { facility := start } system)
    {member : A.Parameter} (listed : member ∈ (A.group group).members)
    (clean : (system.facility.group group).dirty = false ∨
      (system.facility.slot member).dirty = false) :
    (((Facility.initial A system.facility.stored).loadPersistentGroup group).1.slot member).value =
      (system.facility.slot member).value := by
  have holds : DurableGroup group system := by
    refine reached.invariant (DurableGroup group) ?_ fun system label next holds inTime =>
      holds.of_step sound owns inTime
    exact ⟨Facility.durableMembers_boot sound booted, nofun, nofun⟩
  rw [Facility.value_loadPersistentGroup listed]
  obtain groupClean | memberClean := clean
  · exact holds.members.clean groupClean member listed
  · exact holds.members.member member listed memberClean

end

/-! ### A group saved by two threads -/

/-- Two limits with one record, saved on request. -/
abbrev limitsArchitecture : Architecture where
  Parameter := Bool
  Group := Unit
  Store := Unit
  Value _ := UInt8
  parameters := [false, true]
  groups := [()]
  declaration upper := {
    stableId := if upper then 8 else 7
    version := 1
    defaultValue := 10
    normalize := range 0 100 .clamp
    codec := scalarCodec 1 UInt8.toNat UInt8.ofNat
    migrate := none
    failBoot := false
    valid_default := System.range_ten }
  persistence _ := .transactional ()
  store _ := ()
  group _ := {
    stableId := 9
    version := 1
    commit := .manual
    members := [false, true]
    migrate := none }
  groupStore _ := ()
  maxEncodedRecordBytes := 512
  maxGroupRecordBytes := 1024
  mem_parameters := System.mem_bools
  nodup_parameters := System.nodup_bools
  mem_groups _ := mem_singleton_self _
  nodup_groups := nodup_singleton _
  stableId_injective := by decide
  nodup_members _ := by decide
  transactional_iff parameter _ := iff_of_true rfl (by cases parameter <;> decide)
  encoded_size_le _ _ single := nomatch single
  payload_size_le _ := by decide
  maxEncodedRecordBytes_le := System.gainArchitecture.maxEncodedRecordBytes_le
  maxGroupRecordBytes_le := System.gainArchitecture.maxGroupRecordBytes_le

theorem sound_limits : Facility.SoundGroup limitsArchitecture () := fun _ _ => {
  lawful := lawful_scalarCodec (fun value => value.toNat_lt) fun value => UInt8.ofNat_toNat
  settles := settles_range (by decide) System.range_ten }

theorem owns_limits : Facility.OwnsRecord limitsArchitecture () := fun _ _ _ => rfl

/-- The system booted over empty stores. -/
def limitsStart : System limitsArchitecture where
  facility := ((Facility.initial limitsArchitecture fun _ _ => none).loadPersistentGroup ()).1

theorem boot_limits : Facility.boot limitsArchitecture (fun _ _ => none) =
    .ok limitsStart.facility := by
  rfl

/-- A member is set and the group is saved. -/
def limitsSaved : List (SystemLabel limitsArchitecture) :=
  [.set {} true (20 : UInt8) false, .readGroup () true, .encodeGroup {} 0, .commitGroup {} 0]

theorem limitsSaved_inTime : (systemMachine limitsArchitecture).Admissible
    (InTimeGroup (A := limitsArchitecture) ()) limitsStart limitsSaved := by
  refine ⟨fun _ => ⟨nofun, nofun⟩, fun next stepped => ?_⟩
  cases stepped
  refine ⟨trivial, fun next stepped => ?_⟩
  cases stepped
  refine ⟨trivial, fun next stepped => ?_⟩
  cases stepped
  refine ⟨fun revision payload found _ values decoded => ?_, fun _ _ => trivial⟩
  obtain rfl : ([10, 20] : Bytes) = payload :=
    some.inj (congrArg GroupWork.payload (some.inj found))
  obtain rfl := Except.ok.inj decoded
  refine ⟨.inl rfl, fun member _ => .inr ?_⟩
  cases member <;> rfl

theorem clean_group_is_durable_saved :
    ∃ system, (systemMachine limitsArchitecture).ReachableWhere
        (InTimeGroup (A := limitsArchitecture) ()) limitsStart system ∧
      (system.facility.group ()).dirty = false ∧
      (system.facility.slot true).value = (20 : UInt8) ∧
      (((Facility.initial limitsArchitecture system.facility.stored).loadPersistentGroup
        ()).1.slot true).value = (system.facility.slot true).value := by
  have reached := (systemMachine limitsArchitecture).reachableWhere_get _ limitsStart limitsSaved
    limitsSaved_inTime (by decide)
  exact ⟨_, reached, by decide, by decide,
    clean_group_is_durable sound_limits owns_limits boot_limits reached (by decide)
      (.inl (by decide))⟩

/-- A thread encodes the group and another value is set; a second thread saves the group, then the
first saves its image. -/
def limitsOvertaken : List (SystemLabel limitsArchitecture) :=
  [.set {} true (20 : UInt8) false, .readGroup () true, .encodeGroup {} 0,
    .set {} true (30 : UInt8) false, .readGroup () true, .encodeGroup {} 1, .commitGroup {} 1,
    .commitGroup {} 0]

theorem stale_save_of_group :
    ∃ system, (systemMachine limitsArchitecture).Reachable limitsStart system ∧
      system.works.length = 0 ∧ system.groupWorks.length = 0 ∧
      (system.facility.group ()).dirty = false ∧ (system.facility.slot true).dirty = false ∧
      ((((Facility.initial limitsArchitecture system.facility.stored).loadPersistentGroup
        ()).1.slot true).value : UInt8) ≠ (system.facility.slot true).value :=
  ⟨_, (systemMachine limitsArchitecture).reachable_get limitsStart limitsOvertaken (by decide),
    by decide, by decide, by decide, by decide, by decide⟩

end System

end Solar.Parameters
