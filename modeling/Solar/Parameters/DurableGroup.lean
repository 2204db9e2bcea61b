/-
This file proves when a clean persistence group is durable: loading the store's
content gives each member the value its slot holds, and a member that is clean
has its value in the group record even while the group is dirty.

A save of a group reads the group's revision, encodes the members and writes the
record at three different moments. A thread that is overtaken between the last
two writes an older image over a newer one that was already declared saved. The
result is about the runs in which that does not happen, in which a value is
written once the image with it is, and in which no encoded image outlives all
other revisions of its group.
-/

import Solar.Parameters.Groups

namespace Solar.Parameters

open List Function Words

namespace Facility

variable {A : Architecture} {group : A.Group}

/-! ### Durable groups -/

/-- The members of the group over its record. In a group that is written at once no member is ever
dirty. -/
structure DurableMembers (A : Architecture) (group : A.Group) (facility : Facility A) : Prop where
  settled : ∀ member ∈ (A.group group).members, Settled A member (facility.slot member).value
  clean : (facility.group group).dirty = false → ∀ member ∈ (A.group group).members,
    loadsGroup A group (facility.groupRecord group) member = (facility.slot member).value
  member : ∀ member ∈ (A.group group).members, (facility.slot member).dirty = false →
    loadsGroup A group (facility.groupRecord group) member = (facility.slot member).value
  immediate : (A.group group).commit = .immediate → ∀ member ∈ (A.group group).members,
    (facility.slot member).dirty = false

/-- An encoded payload under the slots: while its revision is the group's, its values are current,
in a group that is not written at once. -/
def FittingPayload (A : Architecture) (group : A.Group) (facility : Facility A)
    (revision : UInt64) (payload : Bytes) : Prop :=
  ∃ values, Encodes A (A.group group).members values payload ∧
    (∀ member ∈ (A.group group).members, Settled A member (values member)) ∧
    ((A.group group).commit ≠ .immediate → revision = (facility.group group).revision →
      ∀ member ∈ (A.group group).members, values member = (facility.slot member).value)

/-- What an operation under the write gate does to a group: it leaves it alone, writes the record of
the values it leaves behind, or marks the group and the members it changes. -/
inductive GroupOutcome (A : Architecture) (group : A.Group) (marks : Nat)
    (before after : Facility A) : Prop
  | kept (slots : ∀ member ∈ (A.group group).members,
        Agrees (after.slot member) (before.slot member))
      (dirty : (after.group group).dirty = (before.group group).dirty)
      (revision : (after.group group).revision = (before.group group).revision)
      (record : after.groupRecord group = before.groupRecord group)
  | saved (atOnce : (A.group group).commit = .immediate)
      (settled : ∀ member ∈ (A.group group).members, Settled A member (after.slot member).value)
      (clean : ∀ member ∈ (A.group group).members, (after.slot member).dirty = false)
      (state : after.group group = before.group group)
      (loaded : ∀ member ∈ (A.group group).members,
        loadsGroup A group (after.groupRecord group) member = (after.slot member).value)
  | marked (notAtOnce : (A.group group).commit ≠ .immediate)
      (slots : ∀ member ∈ (A.group group).members, Agrees (after.slot member) (before.slot member) ∨
          (after.slot member).dirty = true ∧ Settled A member (after.slot member).value)
      (dirty : (after.group group).dirty = true)
      (revision : ∃ count, 0 < count ∧ count ≤ marks ∧
        (after.group group).revision = (before.group group).revision + UInt64.ofNat count)
      (record : after.groupRecord group = before.groupRecord group)

section

variable {before after : Facility A} {marks : Nat}

theorem GroupOutcome.of_eq
    (slots : ∀ member ∈ (A.group group).members, after.slot member = before.slot member)
    (state : after.group group = before.group group)
    (record : after.groupRecord group = before.groupRecord group) :
    GroupOutcome A group marks before after :=
  .kept (fun member listed => by rw [slots member listed]; exact .refl _) (by rw [state])
    (by rw [state]) record

theorem GroupOutcome.durable (outcome : GroupOutcome A group marks before after)
    (durable : DurableMembers A group before) : DurableMembers A group after := by
  cases outcome with
  | kept slots dirty revision record =>
    refine ⟨fun member listed => ?_, fun notDirty member listed => ?_,
      fun member listed notDirty => ?_, fun atOnce member listed => ?_⟩
    · rw [(slots member listed).value]
      exact durable.settled member listed
    · rw [record, (slots member listed).value]
      exact durable.clean (dirty ▸ notDirty) member listed
    · rw [record, (slots member listed).value]
      exact durable.member member listed ((slots member listed).dirty ▸ notDirty)
    · rw [(slots member listed).dirty]
      exact durable.immediate atOnce member listed
  | saved atOnce settled clean state loaded =>
    exact ⟨settled, fun _ => loaded, fun member listed _ => loaded member listed, fun _ => clean⟩
  | marked notAtOnce slots dirty revision record =>
    refine ⟨fun member listed => ?_, fun notDirty => ?_, fun member listed notDirty => ?_,
      fun atOnce => absurd atOnce notAtOnce⟩
    · obtain same | ⟨_, settled⟩ := slots member listed
      · rw [same.value]
        exact durable.settled member listed
      · exact settled
    · rw [dirty] at notDirty
      exact nomatch notDirty
    · obtain same | ⟨isDirty, _⟩ := slots member listed
      · rw [record, same.value]
        exact durable.member member listed (same.dirty ▸ notDirty)
      · rw [isDirty] at notDirty
        exact nomatch notDirty

theorem GroupOutcome.fits (outcome : GroupOutcome A group marks before after)
    {revision : UInt64} {payload : Bytes}
    (fresh : (A.group group).commit ≠ .immediate → ∀ count, 0 < count → count ≤ marks →
      revision ≠ (before.group group).revision + UInt64.ofNat count)
    (fits : FittingPayload A group before revision payload) :
    FittingPayload A group after revision payload := by
  obtain ⟨values, encoded, settled, current⟩ := fits
  refine ⟨values, encoded, settled, fun notAtOnce same member listed => ?_⟩
  cases outcome with
  | kept slots dirty kept record =>
    rw [(slots member listed).value]
    exact current notAtOnce (kept ▸ same) member listed
  | saved atOnce => exact absurd atOnce notAtOnce
  | marked _ slots dirty next record =>
    obtain ⟨count, positive, bounded, moved⟩ := next
    exact absurd (same.trans moved) (fresh notAtOnce count positive bounded)

end

/-! ### Sets of members and of others -/

theorem groupRecord_putParameter (facility : Facility A) (parameter : A.Parameter)
    (content : Option Bytes) :
    (facility.putParameter parameter content).groupRecord group = facility.groupRecord group :=
  stored_putRecord_of_ne _ _ _ _ fun same => nomatch congrArg (fun place => place.2.kind) same

variable {parameter : A.Parameter} {environment : Environment A} {value : A.Value parameter}
  {reset : Bool} {before : Facility A}

theorem encodes_updated {facility : Facility A} {members : List A.Parameter} {payload : Bytes}
    (image : encodeGroupPayload A (update (facility.peek environment)
      parameter (.ok value)) members = .ok payload) :
    Encodes A members (update facility.values parameter value) payload := by
  refine encodes_of_provider (fun member _ given provided => ?_) image
  by_cases same : member = parameter
  · subst same
    rw [update_self] at provided ⊢
    exact (Except.ok.inj provided).symm
  · rw [update_of_ne same] at provided ⊢
    exact (peek_eq_ok provided).symm

theorem Prepares.outside (outside : parameter ∉ (A.group group).members) (owns : OwnsRecord A group)
    {facility : Facility A} {outcome : Facility A × Except (Error A) Unit}
    (ended : Prepares environment parameter value reset facility outcome) :
    (∀ member ∈ (A.group group).members, outcome.1.slot member = facility.slot member) ∧
      outcome.1.group group = facility.group group ∧
      outcome.1.groupRecord group = facility.groupRecord group := by
  have apart : ∀ member ∈ (A.group group).members, member ≠ parameter := fun member listed same =>
    outside (same ▸ listed)
  cases ended with
  | failed =>
    exact ⟨fun member listed => slot_updateSlot_of_ne _ _ _ (apart member listed), rfl, rfl⟩
  | own => exact ⟨fun _ _ => rfl, rfl, groupRecord_putParameter _ _ _⟩
  | @shared other payload record transactional =>
    have different : other ≠ group := fun same =>
      outside ((A.transactional_iff parameter group).mp (same ▸ transactional))
    exact ⟨fun _ _ => rfl, rfl, groupRecord_putGroup_of_ne owns different _ _⟩
  | _ => exact ⟨fun _ _ => rfl, rfl, rfl⟩

variable {now : Nat} {candidate : A.Value parameter}

/-- A set of a parameter outside the group. -/
theorem groupOutcome_set_outside (outside : parameter ∉ (A.group group).members)
    (owns : OwnsRecord A group) {after : Facility A} {marks : Nat}
    {result} (sets : Sets environment now parameter candidate reset before after result) :
    GroupOutcome A group marks before after := by
  have apart : ∀ member ∈ (A.group group).members, member ≠ parameter := fun member listed same =>
    outside (same ▸ listed)
  have elsewhere : A.persistence parameter ≠ .transactional group := fun transactional =>
    outside ((A.transactional_iff parameter group).mp transactional)
  cases sets with
  | unchanged => exact .of_eq (fun _ _ => rfl) rfl rfl
  | failed =>
    exact .of_eq (fun member listed => slot_updateSlot_of_ne _ _ _ (apart member listed)) rfl rfl
  | unwritten accepted changes prepares refused =>
    obtain ⟨slots, state, record⟩ := prepares.outside outside owns
    exact .of_eq slots state record
  | marked accepted same isReset prepares =>
    obtain ⟨slots, state, record⟩ := prepares.outside outside owns
    refine .of_eq (fun member listed => ?_) ?_ ?_
    · rw [slot_markCommitted_of_ne _ _ _ _ _ (apart member listed)]
      exact slots member listed
    · rw [group_markCommitted_of_ne _ _ _ _ _ elsewhere]
      exact state
    · rw [groupRecord, stored_markCommitted]
      exact record
  | committed accepted changes prepares granted =>
    obtain ⟨slots, state, record⟩ := prepares.outside outside owns
    refine .of_eq (fun member listed => ?_) ?_ ?_
    · rw [slot_markCommitted_of_ne _ _ _ _ _ (apart member listed),
        slot_updateSlot_of_ne _ _ _ (apart member listed)]
      exact slots member listed
    · rw [group_markCommitted_of_ne _ _ _ _ _ elsewhere]
      exact state
    · rw [groupRecord, stored_markCommitted]
      exact record

theorem commit_of_member (listed : parameter ∈ (A.group group).members) :
    A.commit parameter = some (A.group group).commit := by
  rw [Architecture.commit, (A.transactional_iff parameter group).mpr listed]

theorem dirty_commitSlot {Value : Type} {commit : Commit} (notAtOnce : commit ≠ .immediate)
    {revision : UInt64} {slot : Slot Value} :
    (commitSlot (some commit) now revision reset slot).dirty = true := by
  cases commit with
  | immediate => exact absurd rfl notAtOnce
  | _ => rfl

theorem commitGroup_of_later {commit : Commit} (notAtOnce : commit ≠ .immediate) (now : Nat)
    (state : GroupState) : (commitGroup commit now state).dirty = true ∧
      (commitGroup commit now state).revision = state.revision + 1 := by
  cases commit with
  | immediate => exact absurd rfl notAtOnce
  | _ => exact ⟨rfl, rfl⟩

/-- A member takes a value after a granted preparation with that value, and is marked. -/
theorem groupOutcome_commit (sound : SoundGroup A group)
    (listed : parameter ∈ (A.group group).members) {prepared base : Facility A}
    (durable : DurableMembers A group before) (settled : Settled A parameter value)
    (prepares : Prepares environment parameter value reset before (prepared, .ok ()))
    (takes : (base.slot parameter).value = value)
    (others : ∀ member, member ≠ parameter → base.slot member = prepared.slot member)
    (state : base.group = prepared.group) (stored : base.stored = prepared.stored)
    {revision : UInt64} {mark : Bool} :
    GroupOutcome A group 1 before
      (base.markCommittedPersistence now parameter revision mark).1 := by
  have transactional := (A.transactional_iff parameter group).mpr listed
  have commits := commit_of_member listed
  have own : (base.markCommittedPersistence now parameter revision mark).1.slot parameter =
      commitSlot (some (A.group group).commit) now revision mark (base.slot parameter) := by
    rw [slot_markCommitted_self, commits]
  have ownValue : ((base.markCommittedPersistence now parameter revision mark).1.slot
      parameter).value = value := by
    rw [own, value_commitSlot, takes]
  have other : ∀ member, member ≠ parameter →
      (base.markCommittedPersistence now parameter revision mark).1.slot member =
        prepared.slot member := fun member different => by
    rw [slot_markCommitted_of_ne _ _ _ _ _ different, others member different]
  have groupState : (base.markCommittedPersistence now parameter revision mark).1.group group =
      commitGroup (A.group group).commit now (prepared.group group) := by
    rw [group_markCommitted_self _ _ _ _ _ transactional, state]
  have record : (base.markCommittedPersistence now parameter revision mark).1.groupRecord group =
      prepared.groupRecord group := by
    rw [groupRecord, stored_markCommitted, stored]
    rfl
  cases prepares with
  | later notAtOnce =>
    have later : (A.group group).commit ≠ .immediate := fun atOnce =>
      notAtOnce (by rw [commits, atOnce])
    obtain ⟨dirty, moved⟩ := commitGroup_of_later later now (before.group group)
    refine .marked later (fun member memberListed => ?_) (groupState ▸ dirty)
      ⟨1, Nat.one_pos, Nat.le_refl 1, groupState ▸ moved⟩ record
    by_cases same : member = parameter
    · subst same
      refine .inr ⟨?_, ?_⟩
      · rw [own]
        exact dirty_commitSlot later
      · rw [ownValue]
        exact settled
    · rw [other member same]
      exact .inl (.refl _)
  | own single =>
    rw [transactional] at single
    cases single
  | @shared name payload bytes transactionalName atOnce image encoded =>
    obtain rfl : group = name := by
      rw [transactional] at transactionalName
      exact Persistence.transactional.inj transactionalName
    have valueOf : ∀ member ∈ (A.group group).members,
        ((base.markCommittedPersistence now parameter revision mark).1.slot member).value =
          update before.values parameter value member := by
      intro member _
      by_cases same : member = parameter
      · subst same
        rw [ownValue, update_self]
      · rw [other member same, update_of_ne same]
        rfl
    have settledAll : ∀ member ∈ (A.group group).members,
        Settled A member (update before.values parameter value member) := by
      intro member memberListed
      by_cases same : member = parameter
      · subst same
        rw [update_self]
        exact settled
      · rw [update_of_ne same]
        exact durable.settled member memberListed
    refine .saved atOnce (fun member memberListed => ?_) (fun member memberListed => ?_) ?_
      (fun member memberListed => ?_)
    · rw [valueOf member memberListed]
      exact settledAll member memberListed
    · by_cases same : member = parameter
      · subst same
        rw [own, atOnce]
        rfl
      · rw [other member same]
        exact durable.immediate atOnce member memberListed
    · rw [groupState, atOnce]
      rfl
    · rw [record, groupRecord_putGroup_self, valueOf member memberListed]
      exact loadsGroup_encoded sound settledAll (encodes_updated image) encoded memberListed

/-- A set of a member. In a group that is written at once, the value is written once the image
is. -/
theorem groupOutcome_set_member (sound : SoundGroup A group)
    (listed : parameter ∈ (A.group group).members) {after : Facility A}
    (durable : DurableMembers A group before)
    (writes : (A.group group).commit = .immediate → (environment.write parameter).isOk = true)
    {result} (sets : Sets environment now parameter candidate reset before after result) :
    GroupOutcome A group 1 before after := by
  have settles := (sound parameter listed).settles
  cases sets with
  | unchanged => exact .of_eq (fun _ _ => rfl) rfl rfl
  | failed =>
    refine .kept (fun member _ => ?_) rfl rfl rfl
    by_cases same : member = parameter
    · subst same
      rw [slot_updateSlot_self]
      exact .failed _
    · rw [slot_updateSlot_of_ne _ _ _ same]
      exact .refl _
  | unwritten accepted changes prepares refused =>
    cases prepares with
    | later notAtOnce => exact .of_eq (fun _ _ => rfl) rfl rfl
    | own single =>
      rw [(A.transactional_iff parameter group).mpr listed] at single
      exact nomatch single
    | @shared name payload record transactional atOnce =>
      rw [(A.transactional_iff parameter group).mpr listed] at transactional
      obtain rfl := Persistence.transactional.inj transactional
      rw [writes atOnce] at refused
      exact nomatch refused
  | @marked normalized prepared accepted same isReset prepares =>
    have slots : prepared.slot = before.slot := prepares.slot_of_ok
    exact groupOutcome_commit sound listed durable (settles _ _ accepted) prepares
      (by rw [slots, same]) (fun _ _ => rfl) rfl rfl
  | committed accepted changes prepares granted =>
    refine groupOutcome_commit sound listed durable (settles _ _ accepted) prepares ?_
      (fun member different => slot_updateSlot_of_ne _ _ _ different) rfl rfl
    rw [slot_updateSlot_self]
    rfl

/-! ### The group state after a transaction -/

/-- The states that mark the group. -/
def marksGroup (group : A.Group) (state : TransactionState A) : Bool :=
  state.changed && decide (A.persistence state.parameter = .transactional group)

theorem group_markTransaction_of_none {states : List (TransactionState A)}
    (none : ∀ state ∈ states, ¬ marksGroup group state = true) (facility : Facility A) :
    (facility.markTransactionPersistence now states).group group = facility.group group := by
  unfold markTransactionPersistence
  induction states generalizing facility with
  | nil => rfl
  | cons state rest ih =>
    rw [foldl_cons, ih fun other listed =>
      none other (mem_cons_of_mem _ listed)]
    have unmarked := none state mem_cons_self
    split_ifs with changed
    · refine group_markCommitted_of_ne _ _ _ _ _ fun transactional => unmarked ?_
      rw [marksGroup, changed, transactional]
      simp
    · rfl

theorem group_markTransaction_of_immediate (atOnce : (A.group group).commit = .immediate)
    (now : Nat) (states : List (TransactionState A)) (facility : Facility A) :
    (facility.markTransactionPersistence now states).group group = facility.group group := by
  refine foldl_congr (fun facility => facility.group group) (fun facility state => ?_) states
    facility
  split_ifs
  · by_cases transactional : A.persistence state.parameter = .transactional group
    · rw [group_markCommitted_self _ _ _ _ _ transactional, atOnce]
      rfl
    · exact group_markCommitted_of_ne _ _ _ _ _ transactional
  · rfl

/-- A group that is not written at once is marked once for each changed member. -/
theorem group_markTransaction (notAtOnce : (A.group group).commit ≠ .immediate) (now : Nat)
    (states : List (TransactionState A)) (facility : Facility A) :
    ((facility.markTransactionPersistence now states).group group).revision =
        (facility.group group).revision + UInt64.ofNat (states.countP (marksGroup group)) ∧
      (((facility.group group).dirty = true ∨ 0 < states.countP (marksGroup group)) →
        ((facility.markTransactionPersistence now states).group group).dirty = true) := by
  unfold markTransactionPersistence
  induction states generalizing facility with
  | nil => simp
  | cons state rest ih =>
    rw [foldl_cons]
    by_cases marks : marksGroup group state = true
    · have both : state.changed = true ∧ A.persistence state.parameter = .transactional group := by
        simpa [marksGroup] using marks
      rw [if_pos both.1, countP_cons_of_pos marks]
      obtain ⟨revision, dirty⟩ := ih
        (facility.markCommittedPersistence now state.parameter (state.before + 1) false).1
      have own := group_markCommitted_self facility now state.parameter (state.before + 1) false
        both.2
      obtain ⟨isDirty, moved⟩ := commitGroup_of_later notAtOnce now (facility.group group)
      refine ⟨?_, fun _ => dirty (.inl (by rw [own]; exact isDirty))⟩
      rw [revision, own, moved, UInt64.ofNat_add, UInt64.add_assoc]
      congr 1
      exact UInt64.add_comm _ _
    · rw [countP_cons_of_neg marks]
      have kept : (if state.changed then (facility.markCommittedPersistence now state.parameter
          (state.before + 1) false).1 else facility).group group = facility.group group := by
        split_ifs with changed
        · refine group_markCommitted_of_ne _ _ _ _ _ fun transactional => marks ?_
          rw [marksGroup, changed, transactional]
          simp
        · rfl
      obtain ⟨revision, dirty⟩ := ih (if state.changed then
        (facility.markCommittedPersistence now state.parameter (state.before + 1) false).1
        else facility)
      rw [kept] at revision dirty
      exact ⟨revision, dirty⟩

theorem group_committed (states : List (TransactionState A)) (prepared : Facility A) :
    ((states.foldl writeValue prepared).updateTransactionRecords states).group =
      prepared.group := by
  unfold updateTransactionRecords
  rw [foldl_congr (·.group) fun facility state => ?_,
    foldl_congr (·.group) fun facility state => ?_]
  · unfold writeValue
    split_ifs <;> rfl
  · split_ifs <;> rfl

/-! ### Transactions and the group -/

section

variable {transaction : Transaction A} {outcome : Facility A × Except (Error A) TransactionUpdate}
  {states : List (TransactionState A)}

theorem prepared_members {prepared : Facility A} {result : Except (Error A) Unit}
    (prepares : before.prepareTransactionPersistence environment states = (prepared, result)) :
    (∀ member ∈ (A.group group).members, prepared.slot member = before.slot member) ∧
      prepared.group group = before.group group := by
  obtain rfl := congrArg Prod.fst prepares
  refine ⟨fun member listed => slot_prepareTransactionPersistence ?_, ?_⟩
  · rw [(A.transactional_iff member group).mpr listed]
    exact nofun
  · rw [group_prepareTransactionPersistence]

theorem prepared_record (owns : OwnsRecord A group)
    (untouched : ¬ touchesGroup states group = true) {prepared : Facility A}
    {result : Except (Error A) Unit}
    (prepares : before.prepareTransactionPersistence environment states = (prepared, result)) :
    prepared.groupRecord group = before.groupRecord group := by
  obtain rfl := congrArg Prod.fst prepares
  refine prepareTransactionPersistence_rule
    (motive := fun next => next.groupRecord group = before.groupRecord group) ?_ ?_ rfl
  · intro next holds state _ single _ outcome ended
    have outside : state.parameter ∉ (A.group group).members := by
      intro listed
      rw [(A.transactional_iff _ group).mpr listed] at single
      exact nomatch single
    exact (ended.outside outside owns).2.2.trans holds
  · intro next holds other _ touched _ record _ _
    have different : other ≠ group := fun same => untouched (same ▸ touched)
    exact (groupRecord_putGroup_of_ne owns different _ _).trans holds

theorem touchesGroup_iff :
    touchesGroup states group = true ↔ (A.group group).commit = .immediate ∧
      ∃ state ∈ states, state.parameter ∈ (A.group group).members := by
  simp [touchesGroup]

theorem Captures.settles {facility : Facility A} {assignments : List (Assignment A)}
    {state : TransactionState A} (captures : facility.Captures assignments states)
    (sound : SoundGroup A group) (listed : state ∈ states)
    (member : state.parameter ∈ (A.group group).members) :
    Settled A state.parameter state.normalized.value := by
  obtain ⟨_, _, _, accepted, rfl⟩ := captures.exists_of_mem listed
  exact (sound _ member).settles _ _ accepted

/-- What a transaction leaves of a group: everything as it was, the members as they were over the
record that was prepared, or the values it commits. -/
inductive LeavesGroup (group : A.Group) (environment : Environment A) (now : Nat)
    (transaction : Transaction A) (before : Facility A) : Facility A → Prop
  | refused : LeavesGroup group environment now transaction before before
  | prepared {states : List (TransactionState A)} {prepared after : Facility A}
      {result : Except (Error A) Unit} (captures : before.Captures transaction.assignments states)
      (prepares : before.prepareTransactionPersistence environment states = (prepared, result))
      (slots : ∀ member ∈ (A.group group).members, after.slot member = before.slot member)
      (state : after.group group = before.group group)
      (record : after.groupRecord group = prepared.groupRecord group)
      (failed : result = .ok () → ∃ state ∈ states, state.changed = true ∧
        (environment.write state.parameter).isOk = false) :
      LeavesGroup group environment now transaction before after
  | committed {states : List (TransactionState A)} {prepared : Facility A}
      (captures : before.Captures transaction.assignments states)
      (prepares : before.prepareTransactionPersistence environment states = (prepared, .ok ()))
      (slots : ∀ member ∈ (A.group group).members, prepared.slot member = before.slot member)
      (state : prepared.group group = before.group group) :
      LeavesGroup group environment now transaction before (prepared.committed now states)

theorem SetsAll.leavesGroup (ended : SetsAll environment now transaction before outcome)
    (undone : ∀ states prepared, before.Captures transaction.assignments states →
      before.prepareTransactionPersistence environment states = (prepared, .ok ()) →
      (∃ state ∈ states, state.changed = true ∧
        (environment.write state.parameter).isOk = false) →
      ∀ state ∈ states, state.parameter ∈ (A.group group).members → state.changed = true →
        (environment.restore state.parameter).isOk = true) :
    LeavesGroup group environment now transaction before outcome.1 := by
  cases ended with
  | refused => exact .refused
  | unprepared captures prepares =>
    obtain ⟨slots, state⟩ := prepared_members prepares
    exact .prepared captures prepares slots state rfl nofun
  | @unwritten states done rest prepared error captures prepares split refused =>
    obtain ⟨slots, state⟩ := prepared_members prepares
    refine .prepared captures prepares (fun member listed => ?_) ?_ ?_ fun _ => refused
    · refine (captures.slot_undone captures.distinct split
        (congrArg Slot.value (slots member listed)) ?_).trans (slots member listed)
      rintro other inStates rfl
      exact undone states prepared captures prepares refused other inStates listed
    · rw [group_restored]
      exact state
    · rw [groupRecord, stored_restored]
      rfl
  | committed captures prepares =>
    obtain ⟨slots, state⟩ := prepared_members prepares
    exact .committed captures prepares slots state

theorem groupRecord_committed (prepared : Facility A) (now : Nat)
    (states : List (TransactionState A)) :
    (prepared.committed now states).groupRecord group = prepared.groupRecord group := by
  rw [groupRecord, stored_committed]
  rfl

/-- A transaction that assigns no member. -/
theorem groupOutcome_setAll_outside (owns : OwnsRecord A group)
    (outside : ∀ assignment ∈ transaction.assignments,
      assignment.parameter ∉ (A.group group).members) {marks : Nat}
    (ended : SetsAll environment now transaction before outcome) :
    GroupOutcome A group marks before outcome.1 := by
  have apart : ∀ {states}, before.Captures transaction.assignments states →
      ∀ state ∈ states, state.parameter ∉ (A.group group).members := by
    intro states captures state listed
    obtain ⟨assignment, assigned, _, _, rfl⟩ := captures.exists_of_mem listed
    exact outside assignment assigned
  have untouched : ∀ {states}, before.Captures transaction.assignments states →
      ¬ touchesGroup states group = true := by
    intro states captures touched
    obtain ⟨_, state, listed, member⟩ := touchesGroup_iff.mp touched
    exact apart captures state listed member
  have left : LeavesGroup group environment now transaction before outcome.1 :=
    ended.leavesGroup fun _ _ captures _ _ state listed member =>
      absurd member (apart captures state listed)
  generalize outcome.1 = after at left ⊢
  cases left with
  | refused => exact .of_eq (fun _ _ => rfl) rfl rfl
  | prepared captures prepares slots state record =>
    exact .of_eq slots state (record.trans (prepared_record owns (untouched captures) prepares))
  | @committed states prepared captures prepares slots state =>
    refine .of_eq (fun member listed => ?_) ?_ ?_
    · rw [slot_committed_of_not_mem fun found => ?_, slots member listed]
      obtain ⟨other, inStates, rfl⟩ := mem_map.mp found
      exact apart captures other inStates listed
    · rw [group_markTransaction_of_none fun other listed marks => ?_, group_committed, state]
      have both : other.changed = true ∧
          A.persistence other.parameter = .transactional group := by
        simpa [marksGroup] using marks
      exact apart captures other listed ((A.transactional_iff _ group).mp both.2)
    · exact (groupRecord_committed ..).trans (prepared_record owns (untouched captures) prepares)

/-- A transaction that assigns members of a group that is not written at once. -/
theorem groupOutcome_setAll_later (sound : SoundGroup A group) (owns : OwnsRecord A group)
    (notAtOnce : (A.group group).commit ≠ .immediate)
    (rewinds : ∀ member ∈ (A.group group).members, Rewinds member environment transaction before)
    (ended : SetsAll environment now transaction before outcome) :
    GroupOutcome A group transaction.assignments.length before outcome.1 := by
  have untouched : ∀ states : List (TransactionState A), ¬ touchesGroup states group = true :=
    fun _ touched => notAtOnce (touchesGroup_iff.mp touched).1
  have left : LeavesGroup group environment now transaction before outcome.1 := by
    refine ended.leavesGroup fun _ _ captures _ refused _ inStates listed changed => ?_
    obtain ⟨assignment, assigned, normalized, accepted, rfl⟩ := captures.exists_of_mem inStates
    obtain granted | ⟨_, granted⟩ := rewinds _ listed assignment assigned rfl normalized accepted
      (of_decide_eq_true changed)
    · exact absurd granted (captures.write_refused refused)
    · exact granted
  generalize outcome.1 = after at left ⊢
  cases left with
  | refused => exact .of_eq (fun _ _ => rfl) rfl rfl
  | prepared captures prepares slots state record =>
    exact .of_eq slots state (record.trans (prepared_record owns (untouched _) prepares))
  | @committed states prepared captures prepares slots state =>
    have final : ∀ member ∈ (A.group group).members,
        (prepared.committed now states).slot member = before.slot member ∨
        (∃ other ∈ states, marksGroup group other = true) ∧
          ((prepared.committed now states).slot member).dirty = true ∧
          Settled A member ((prepared.committed now states).slot member).value := by
      intro member listed
      by_cases assigned : member ∈ states.map (·.parameter)
      · obtain ⟨other, inStates, rfl⟩ := mem_map.mp assigned
        have own := slot_committed captures.distinct inStates now prepared
        split_ifs at own with changed
        · rw [commit_of_member listed] at own
          refine .inr ⟨⟨other, inStates, ?_⟩, ?_, ?_⟩
          · simp [marksGroup, changed, (A.transactional_iff _ group).mpr listed]
          · rw [own]
            exact dirty_commitSlot notAtOnce
          · rw [own, value_commitSlot]
            exact captures.settles sound inStates listed
        · exact .inl (own.trans (slots _ listed))
      · exact .inl ((slot_committed_of_not_mem assigned ..).trans (slots member listed))
    have stored : (prepared.committed now states).groupRecord group = before.groupRecord group :=
      (groupRecord_committed ..).trans (prepared_record owns (untouched states) prepares)
    obtain ⟨revision, dirty⟩ := group_markTransaction notAtOnce now states
      ((states.foldl writeValue prepared).updateTransactionRecords states)
    rw [group_committed, state] at revision dirty
    have length : states.length = transaction.assignments.length := by
      simpa using congrArg length captures.map_parameter
    by_cases some : ∃ other ∈ states, marksGroup group other = true
    · have positive : 0 < states.countP (marksGroup group) := countP_pos_iff.mpr some
      refine .marked notAtOnce (fun member listed => ?_) (dirty (.inr positive))
        ⟨_, positive, length ▸ countP_le_length, revision⟩ stored
      obtain same | ⟨_, changed⟩ := final member listed
      · rw [same]
        exact .inl (.refl _)
      · exact .inr changed
    · refine .of_eq (fun member listed => (final member listed).resolve_right
        fun changed => some changed.1) ?_ stored
      rw [group_markTransaction_of_none fun other listed marks => some ⟨other, listed, marks⟩,
        group_committed]
      exact state

/-! ### Transactions over a group that is written at once -/

theorem loadsGroup_image (sound : SoundGroup A group) (distinct : (states.map (·.parameter)).Nodup)
    {record : Bytes} (image : transactionImage environment states before group = some record)
    {values : Values A}
    (settled : ∀ member ∈ (A.group group).members, Settled A member (values member))
    (assigned : ∀ state ∈ states, state.parameter ∈ (A.group group).members →
      values state.parameter = state.normalized.value)
    (others : ∀ member ∈ (A.group group).members, member ∉ states.map (·.parameter) →
      values member = (before.slot member).value) {member : A.Parameter}
    (listed : member ∈ (A.group group).members) :
    loadsGroup A group (some record) member = values member := by
  obtain ⟨payload, encoded, written⟩ := transactionImage_eq_some image
  refine loadsGroup_encoded sound settled (encodes_of_provider ?_ encoded) written listed
  intro other otherListed value provided
  by_cases among : other ∈ states.map (·.parameter)
  · obtain ⟨state, inStates, rfl⟩ := mem_map.mp among
    rw [transactionProvider_of_mem distinct inStates] at provided
    exact (Except.ok.inj provided).symm.trans (assigned state inStates otherListed).symm
  · rw [transactionProvider_of_not_mem among] at provided
    exact (peek_eq_ok provided).symm.trans (others other otherListed among).symm

/-- Once the image of a group that is written at once holds a changed value, the transaction goes
through: the images of the later groups are granted, and the values are written. -/
def Completes (group : A.Group) (environment : Environment A) (transaction : Transaction A)
    (facility : Facility A) : Prop :=
  ∀ states, facility.Captures transaction.assignments states →
    (∃ state ∈ states, state.parameter ∈ (A.group group).members ∧ state.changed = true) →
    ∀ earlier later, A.groups = earlier ++ group :: later →
      (∀ other ∈ earlier ++ [group], touchesGroup states other = true →
        (transactionImage environment states facility other).isSome = true) →
      (∀ other ∈ later, touchesGroup states other = true →
        (transactionImage environment states facility other).isSome = true) ∧
      ∀ state ∈ states, state.changed = true → (environment.write state.parameter).isOk = true

section

variable {assignment : Assignment A} (assigned : assignment ∈ transaction.assignments)
  (listed : assignment.parameter ∈ (A.group group).members)
  (captures : before.Captures transaction.assignments states)

include assigned listed captures

theorem touchesGroup_assigned (atOnce : (A.group group).commit = .immediate) :
    touchesGroup states group = true := by
  obtain ⟨normalized, _, inStates⟩ := captures.exists_of_assignment assigned
  exact touchesGroup_iff.mpr ⟨atOnce, _, inStates, listed⟩

/-- A transaction over a member prepares groups only. -/
theorem preparesGroups_assigned :
    PreparesGroups environment states before before A.groups
      (before.prepareTransactionPersistence environment states) := by
  refine prepareTransactionPersistence_of_later (fun state inStates single => ?_) environment before
  obtain ⟨other, inTransaction, normalized, _, rfl⟩ := captures.exists_of_mem inStates
  obtain ⟨only, alone⟩ := length_eq_one_iff.mp (transaction.durable.resolve_right
    fun others => others other inTransaction single)
  rw [alone] at assigned inTransaction
  rw [mem_singleton.mp assigned] at listed
  obtain rfl := mem_singleton.mp inTransaction
  have transactional := (A.transactional_iff _ group).mpr listed
  exact absurd (transactional.symm.trans single) nofun

variable (owns : OwnsRecord A group) (atOnce : (A.group group).commit = .immediate)
  {prepared : Facility A}

include owns atOnce

/-- A granted preparation puts the images of all groups that are touched. -/
theorem groupRecord_assigned
    (prepares : before.prepareTransactionPersistence environment states = (prepared, .ok ())) :
    (∀ other, touchesGroup states other = true →
        (transactionImage environment states before other).isSome = true) ∧
      ∃ record, transactionImage environment states before group = some record ∧
        prepared.groupRecord group = some record := by
  have touched := touchesGroup_assigned assigned listed captures atOnce
  have ended : PreparesGroups environment states before before A.groups _ :=
    preparesGroups_assigned assigned listed captures
  rw [prepares] at ended
  cases ended with
  | all granted =>
    obtain ⟨record, image⟩ := Option.isSome_iff_exists.mp (granted group (A.mem_groups group) touched)
    exact ⟨fun other => granted other (A.mem_groups other), record, image,
      groupRecord_putImages owns (A.mem_groups group) touched image before⟩

variable (completes : Completes group environment transaction before)

include completes

theorem unchanged_of_unwritten
    (prepares : before.prepareTransactionPersistence environment states = (prepared, .ok ()))
    (refused : ∃ state ∈ states, state.changed = true ∧
      (environment.write state.parameter).isOk = false) :
    ¬ ∃ state ∈ states, state.parameter ∈ (A.group group).members ∧ state.changed = true := by
  intro changes
  obtain ⟨granted, _⟩ := groupRecord_assigned assigned listed captures owns atOnce prepares
  obtain ⟨earlier, later, cut⟩ := append_of_mem (A.mem_groups group)
  obtain ⟨failing, inStates, changed, refusal⟩ := refused
  rw [(completes states captures changes earlier later cut fun other _ => granted other).2 failing
    inStates changed] at refusal
  exact nomatch refusal

/-- A transaction that fails after the image of the group was put changes no member. -/
theorem unchanged_of_failed {result : Except (Error A) Unit}
    (prepares : before.prepareTransactionPersistence environment states = (prepared, result))
    (failed : result = .ok () → ∃ state ∈ states, state.changed = true ∧
      (environment.write state.parameter).isOk = false) :
    prepared.groupRecord group = before.groupRecord group ∨
      (∃ record, transactionImage environment states before group = some record ∧
        prepared.groupRecord group = some record) ∧
      ¬ ∃ state ∈ states, state.parameter ∈ (A.group group).members ∧ state.changed = true := by
  cases result with
  | ok =>
    exact .inr ⟨(groupRecord_assigned assigned listed captures owns atOnce prepares).2,
      unchanged_of_unwritten assigned listed captures owns atOnce completes prepares (failed rfl)⟩
  | error error =>
    have touched := touchesGroup_assigned assigned listed captures atOnce
    have ended : PreparesGroups environment states before before A.groups _ :=
      preparesGroups_assigned assigned listed captures
    rw [prepares] at ended
    cases ended with
    | @stopped done rest failing _ split granted failingTouched refused =>
      by_cases inDone : group ∈ done
      · obtain ⟨record, image⟩ := Option.isSome_iff_exists.mp (granted group inDone touched)
        refine .inr ⟨⟨record, image, groupRecord_putImages owns inDone touched image before⟩,
          fun changes => ?_⟩
        obtain ⟨earlier, later, cut⟩ := append_of_mem inDone
        have whole : A.groups = earlier ++ group :: (later ++ failing :: rest) := by
          rw [split, cut, append_assoc, cons_append]
        have complete := (completes states captures changes earlier _ whole fun other among =>
          granted other (by
            rw [cut]
            obtain inEarlier | last := mem_append.mp among
            · exact mem_append_left _ inEarlier
            · rw [mem_singleton.mp last]
              exact mem_append_right _ mem_cons_self)).1 failing
          (mem_append_right _ mem_cons_self) failingTouched
        rw [refused] at complete
        exact nomatch complete
      · exact .inl (groupRecord_putImages_of_ne owns (fun contrary => absurd contrary inDone) before)

end

/-- A transaction that assigns members of a group that is written at once. -/
theorem groupOutcome_setAll_atOnce (sound : SoundGroup A group) (owns : OwnsRecord A group)
    (atOnce : (A.group group).commit = .immediate) {assignment : Assignment A}
    (assigned : assignment ∈ transaction.assignments)
    (listed : assignment.parameter ∈ (A.group group).members)
    (durable : DurableMembers A group before)
    (completes : Completes group environment transaction before) {marks : Nat}
    (ended : SetsAll environment now transaction before outcome) :
    GroupOutcome A group marks before outcome.1 := by
  have left : LeavesGroup group environment now transaction before outcome.1 :=
    ended.leavesGroup fun _ _ captures prepares refused state inStates member changed =>
      absurd ⟨state, inStates, member, changed⟩
        (unchanged_of_unwritten assigned listed captures owns atOnce completes prepares refused)
  generalize outcome.1 = after at left ⊢
  cases left with
  | refused => exact .of_eq (fun _ _ => rfl) rfl rfl
  | @prepared states prepared after result captures prepares slots state record failed =>
    obtain kept | ⟨⟨bytes, image, put⟩, none⟩ :=
      unchanged_of_failed assigned listed captures owns atOnce completes prepares failed
    · exact .of_eq slots state (record.trans kept)
    -- An image over unchanged members: the record is new and its values are the old ones.
    refine .saved atOnce (fun member memberListed => ?_) (fun member memberListed => ?_) state
      (fun member memberListed => ?_)
    · rw [slots member memberListed]
      exact durable.settled member memberListed
    · rw [slots member memberListed]
      exact durable.immediate atOnce member memberListed
    · rw [record, put, slots member memberListed]
      refine loadsGroup_image sound captures.distinct image durable.settled ?_
        (fun _ _ _ => rfl) memberListed
      intro other inStates otherListed
      refine not_not.mp fun changes => none ⟨other, inStates, otherListed, ?_⟩
      obtain ⟨_, _, _, _, rfl⟩ := captures.exists_of_mem inStates
      exact decide_eq_true changes
  | @committed states prepared captures prepares slots state =>
    obtain ⟨_, record, image, stored⟩ :=
      groupRecord_assigned assigned listed captures owns atOnce prepares
    have own : ∀ other ∈ states, other.parameter ∈ (A.group group).members →
        ((prepared.committed now states).slot other.parameter).dirty = false ∧
          ((prepared.committed now states).slot other.parameter).value = other.normalized.value := by
      intro other inStates member
      rw [slot_committed captures.distinct inStates now prepared, commit_of_member member, atOnce]
      split_ifs with changed
      · exact ⟨rfl, rfl⟩
      · rw [slots _ member]
        refine ⟨durable.immediate atOnce _ member, not_not.mp fun changes => changed ?_⟩
        obtain ⟨_, _, _, _, rfl⟩ := captures.exists_of_mem inStates
        exact decide_eq_true changes
    have others : ∀ member ∈ (A.group group).members, member ∉ states.map (·.parameter) →
        (prepared.committed now states).slot member = before.slot member :=
      fun member memberListed absent =>
        (slot_committed_of_not_mem absent ..).trans (slots member memberListed)
    have each : ∀ member ∈ (A.group group).members,
        ((prepared.committed now states).slot member).dirty = false ∧
          Settled A member ((prepared.committed now states).slot member).value := by
      intro member memberListed
      by_cases among : member ∈ states.map (·.parameter)
      · obtain ⟨other, inStates, rfl⟩ := mem_map.mp among
        obtain ⟨clean, value⟩ := own other inStates memberListed
        exact ⟨clean, value ▸ captures.settles sound inStates memberListed⟩
      · rw [others member memberListed among]
        exact ⟨durable.immediate atOnce member memberListed, durable.settled member memberListed⟩
    refine .saved atOnce (fun member among => (each member among).2)
      (fun member among => (each member among).1) ?_ fun member memberListed => ?_
    · rw [group_markTransaction_of_immediate atOnce, group_committed]
      exact state
    · rw [groupRecord_committed, stored]
      exact loadsGroup_image sound captures.distinct image (fun name among => (each name among).2)
        (fun other inStates among => (own other inStates among).2)
        (fun name among absent => congrArg Slot.value (others name among absent)) memberListed

theorem groupOutcome_setAll (sound : SoundGroup A group) (owns : OwnsRecord A group)
    (durable : DurableMembers A group before)
    (rewinds : (A.group group).commit ≠ .immediate → ∀ member ∈ (A.group group).members,
      Rewinds member environment transaction before)
    (completes : (A.group group).commit = .immediate →
      Completes group environment transaction before)
    (ended : SetsAll environment now transaction before outcome) :
    GroupOutcome A group transaction.assignments.length before outcome.1 := by
  by_cases inside : ∃ assignment ∈ transaction.assignments,
      assignment.parameter ∈ (A.group group).members
  · obtain ⟨assignment, assigned, listed⟩ := inside
    by_cases atOnce : (A.group group).commit = .immediate
    · exact groupOutcome_setAll_atOnce sound owns atOnce assigned listed durable
        (completes atOnce) ended
    · exact groupOutcome_setAll_later sound owns atOnce (rewinds atOnce) ended
  · exact groupOutcome_setAll_outside owns
      (fun assignment assigned listed => inside ⟨assignment, assigned, listed⟩) ended

end

/-! ### Saves of the group and of others -/

section

variable {facility : Facility A} {revision : UInt64} {payload : Bytes}

theorem groupOutcome_persist_failed {status : Status}
    (failed : facility.saveGroupPayload environment group payload = (facility, .error status)) :
    GroupOutcome A group 0 facility
      (facility.persistGroupWork environment group revision payload).1 := by
  unfold persistGroupWork
  simp only [failed]
  refine .kept (fun member listed => ?_) ?_ ?_ ?_
  · rw [slot_updateSlots_of_mem (A.nodup_members group) listed]
    unfold finishMember
    cases environment.read member with
    | error _ => exact .refl _
    | ok _ => exact ⟨rfl, rfl, rfl, rfl, rfl⟩
  · rw [group_updateSlots, group_updateGroup_self]
    rfl
  · rw [group_updateSlots, group_updateGroup_self]
    rfl
  · rw [groupRecord, stored_updateSlots]
    rfl

/-- What is asked of a granted save of an encoded payload: a member that does not have the encoded
value any more is dirty, and the group is dirty if there is such a member. -/
def TimelyPayload (A : Architecture) (group : A.Group) (facility : Facility A)
    (payload : Bytes) : Prop :=
  ∀ values, decodeGroupValues A (A.group group).members payload (defaults A) = .ok values →
    ((facility.group group).dirty = true ∨
      ∀ member ∈ (A.group group).members, values member = (facility.slot member).value) ∧
    ∀ member ∈ (A.group group).members,
      (facility.slot member).dirty = true ∨ values member = (facility.slot member).value

theorem finish_of_eq {state : GroupState} (same : state.revision = revision) :
    state.finish revision true = ({ state with dirty := false, due := none }, true) :=
  if_pos ⟨rfl, same⟩

theorem finish_of_ne {state : GroupState} (different : ¬ state.revision = revision) :
    state.finish revision true = (state, false) := by
  rw [GroupState.finish, if_neg fun both => different both.2, if_neg nofun]

/-- A granted save of the group. -/
theorem durable_persist_saved (sound : SoundGroup A group)
    (durable : DurableMembers A group facility)
    (fits : FittingPayload A group facility revision payload)
    (timely : TimelyPayload A group facility payload) {record : Bytes}
    (encoded : encodeGroupRecord A group payload = .ok record)
    (saved : facility.saveGroupPayload environment group payload =
      (facility.putGroup group record, .ok ())) :
    DurableMembers A group (facility.persistGroupWork environment group revision payload).1 := by
  obtain ⟨values, encodes, settled, current⟩ := fits
  obtain ⟨groupTimely, memberTimely⟩ := timely _ (decodeGroupValues_encoded
    (fun member listed => (sound member listed).lawful) encodes)
  have loaded : ∀ member ∈ (A.group group).members,
      loadsGroup A group (some record) member = values member := fun member listed =>
    loadsGroup_encoded sound settled encodes encoded listed
  -- When the save clears the group, its values are current.
  have cleared : (facility.group group).revision = revision →
      ∀ member ∈ (A.group group).members, values member = (facility.slot member).value := by
    intro same member listed
    by_cases atOnce : (A.group group).commit = .immediate
    · obtain dirty | fresh := memberTimely member listed
      · rw [durable.immediate atOnce member listed] at dirty
        exact nomatch dirty
      · rwa [if_pos listed] at fresh
    · exact current atOnce same.symm member listed
  have stored : (facility.persistGroupWork environment group revision
      payload).1.groupRecord group = some record := by
    unfold persistGroupWork
    simp only [saved]
    rw [groupRecord, stored_updateSlots]
    exact groupRecord_putGroup_self _ _ _
  have slots : ∀ member ∈ (A.group group).members,
      ((facility.persistGroupWork environment group revision payload).1.slot member).value =
          (facility.slot member).value ∧
        (((facility.persistGroupWork environment group revision payload).1.slot member).dirty =
            (facility.slot member).dirty ∨
          (facility.group group).revision = revision ∧
            ((facility.persistGroupWork environment group revision payload).1.slot
              member).dirty = false) := by
    intro member listed
    unfold persistGroupWork
    simp only [saved]
    rw [slot_updateSlots_of_mem (A.nodup_members group) listed]
    unfold finishMember
    cases environment.read member with
    | error _ => exact ⟨rfl, .inl rfl⟩
    | ok _ =>
      by_cases same : (facility.group group).revision = revision
      · refine ⟨?_, .inr ⟨same, ?_⟩⟩
        · simp [finish_of_eq same, Slot.finishPersistence, putGroup, Except.isOk, Except.toBool]
        · simp [finish_of_eq same, Slot.finishPersistence, putGroup, Except.isOk, Except.toBool]
      · refine ⟨?_, .inl ?_⟩
        · simp [finish_of_ne same, putGroup, Except.isOk, Except.toBool]
        · simp [finish_of_ne same, putGroup, Except.isOk, Except.toBool]
  have state : ((facility.persistGroupWork environment group revision payload).1.group
      group).dirty = (facility.group group).dirty ∨ (facility.group group).revision = revision := by
    by_cases same : (facility.group group).revision = revision
    · exact .inr same
    · refine .inl ?_
      unfold persistGroupWork
      simp only [saved]
      rw [group_updateSlots]
      simp [finish_of_ne same, putGroup, Except.isOk, Except.toBool]
  refine ⟨fun member listed => ?_, fun notDirty member listed => ?_,
    fun member listed notDirty => ?_, fun atOnce member listed => ?_⟩
  · rw [(slots member listed).1]
    exact durable.settled member listed
  · rw [stored, (slots member listed).1, loaded member listed]
    obtain same | same := state
    · obtain dirty | fresh := groupTimely
      · rw [← same, notDirty] at dirty
        exact nomatch dirty
      · have now := fresh member listed
        rwa [if_pos listed] at now
    · exact cleared same member listed
  · rw [stored, (slots member listed).1, loaded member listed]
    obtain same | ⟨same, _⟩ := (slots member listed).2
    · obtain dirty | fresh := memberTimely member listed
      · rw [← same, notDirty] at dirty
        exact nomatch dirty
      · rwa [if_pos listed] at fresh
    · exact cleared same member listed
  · obtain same | ⟨_, clean⟩ := (slots member listed).2
    · rw [same]
      exact durable.immediate atOnce member listed
    · exact clean

end

end Facility

end Solar.Parameters
