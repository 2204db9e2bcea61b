/-
This file says what the operations of the facility do to the deadlines of
deferred items. A save that gets as far as the store ends the deadline of what
it saves, whether or not the store grants it; one that is turned away earlier
changes nothing. A change of a parameter gives new deadlines only when the
parameter is deferred, and then the registration is scheduled.
-/

import Solar.Parameters.Deferred
import Solar.Parameters.Groups

namespace Solar.Parameters

open List Words

variable {A : Architecture}

namespace Item

/-- The record an item is saved in. -/
def record : Item A → Item A
  | .parameter name => (A.recordOf name).getD (.parameter name)
  | .group name => .group name

end Item

namespace Facility

/-! ### Deadlines -/

variable {facility : Facility A} {environment : Environment A} {parameter name : A.Parameter}
  {candidate : A.Value parameter} {item : Item A} {deadline now : Nat} {reset : Bool}

theorem due_parameter_eq_some :
    facility.due (.parameter name) = some deadline ↔
      A.effectiveDeferred name = true ∧ (facility.slot name).dirty = true ∧
        (facility.slot name).due = some deadline := by
  simp only [due, Slot.nextDue]
  split_ifs with deferred dirty
  · simp [deferred, dirty]
  · simp [dirty]
  · simp [deferred]

theorem due_group_eq_some {name : A.Group} :
    facility.due (.group name) = some deadline ↔
      (A.group name).commit.isDeferred = true ∧ (facility.group name).dirty = true ∧
        (facility.group name).due = some deadline := by
  simp only [due]
  split_ifs with both
  · simp [both]
  · simp only [false_iff]
    exact fun all => both ⟨all.1, all.2.1⟩

theorem mem_dues_iff : deadline ∈ facility.dues ↔ ∃ item, facility.due item = some deadline := by
  unfold dues
  rw [mem_filterMap]
  constructor
  · exact fun ⟨item, _, due⟩ => ⟨item, due⟩
  · intro ⟨item, due⟩
    refine ⟨item, mem_append.mpr ?_, due⟩
    cases item with
    | parameter name => exact .inl (mem_map_of_mem (A.mem_parameters name))
    | group name => exact .inr (mem_map_of_mem (A.mem_groups name))

theorem dues_eq_nil_iff : facility.dues = [] ↔ ∀ item, facility.due item = none := by
  rw [eq_nil_iff_forall_not_mem]
  constructor
  · intro none item
    cases due : facility.due item with
    | none => rfl
    | some deadline => exact absurd (mem_dues_iff.mpr ⟨item, due⟩) (none deadline)
  · intro none deadline listed
    obtain ⟨item, due⟩ := mem_dues_iff.mp listed
    rw [none item] at due
    exact nomatch due

/-- A dirty member of a deferred group has a dirty group. -/
def Follows (facility : Facility A) : Prop :=
  ∀ group, (A.group group).commit.isDeferred = true → ∀ member ∈ (A.group group).members,
    (facility.slot member).dirty = true → (facility.group group).dirty = true

/-- Every deadline after an operation was one before it. -/
def Wanes (before after : Facility A) : Prop :=
  ∀ item deadline, after.due item = some deadline → before.due item = some deadline

theorem Wanes.dues {before after : Facility A} (wanes : Wanes before after) :
    ∀ deadline ∈ after.dues, deadline ∈ before.dues := by
  intro deadline listed
  obtain ⟨item, due⟩ := mem_dues_iff.mp listed
  exact mem_dues_iff.mpr ⟨item, wanes item deadline due⟩

/-! ### Operations that leave the deadlines alone -/

/-- Nothing that has to do with deadlines differs. -/
structure SameDues (before after : Facility A) : Prop where
  dirty : ∀ parameter, (after.slot parameter).dirty = (before.slot parameter).dirty
  slotDue : ∀ parameter, (after.slot parameter).due = (before.slot parameter).due
  group : after.group = before.group

namespace SameDues

variable {first second third : Facility A}

theorem refl (facility : Facility A) : SameDues facility facility :=
  ⟨fun _ => rfl, fun _ => rfl, rfl⟩

theorem trans (earlier : SameDues first second) (later : SameDues second third) :
    SameDues first third :=
  ⟨fun parameter => (later.dirty parameter).trans (earlier.dirty parameter),
    fun parameter => (later.slotDue parameter).trans (earlier.slotDue parameter),
    later.group.trans earlier.group⟩

theorem due (same : SameDues first second) (item : Item A) : second.due item = first.due item := by
  cases item with
  | parameter name => simp only [Facility.due, Slot.nextDue, same.dirty, same.slotDue]
  | group name => simp only [Facility.due, same.group]

theorem wanes (same : SameDues first second) : Wanes first second :=
  fun item deadline due => by rw [← same.due item, due]

theorem follows (same : SameDues first second) (follows : first.Follows) : second.Follows := by
  intro group deferred member listed dirty
  rw [same.group]
  exact follows group deferred member listed (same.dirty member ▸ dirty)

theorem of_slot (slot : second.slot = first.slot) (group : second.group = first.group) :
    SameDues first second :=
  ⟨fun _ => by rw [slot], fun _ => by rw [slot], group⟩

theorem updateSlot (facility : Facility A) (parameter : A.Parameter)
    {update : Slot (A.Value parameter) → Slot (A.Value parameter)}
    (dirty : ∀ slot, (update slot).dirty = slot.dirty) (due : ∀ slot, (update slot).due = slot.due) :
    SameDues facility (facility.updateSlot parameter update) := by
  refine ⟨fun other => ?_, fun other => ?_, rfl⟩
  · by_cases same : other = parameter
    · subst same
      rw [slot_updateSlot_self, dirty]
    · rw [slot_updateSlot_of_ne _ _ _ same]
  · by_cases same : other = parameter
    · subst same
      rw [slot_updateSlot_self, due]
    · rw [slot_updateSlot_of_ne _ _ _ same]

theorem foldl {Element : Type} {apply : Facility A → Element → Facility A}
    (each : ∀ facility element, SameDues facility (apply facility element))
    (elements : List Element) (facility : Facility A) :
    SameDues facility (elements.foldl apply facility) := by
  induction elements generalizing facility with
  | nil => exact .refl _
  | cons element rest ih => exact (each facility element).trans (ih _)

end SameDues

theorem sameDues_markFailure :
    SameDues facility (facility.updateSlot parameter (·.markPersistenceFailure)) :=
  .updateSlot facility parameter (fun _ => rfl) fun _ => rfl

theorem sameDues_commitValue {value : A.Value parameter} {revision : UInt64} :
    SameDues facility (facility.updateSlot parameter (·.commitValue value revision)) :=
  .updateSlot facility parameter (fun _ => rfl) fun _ => rfl

theorem Prepares.sameDues {value : A.Value parameter} {outcome : Facility A × Except (Error A) Unit}
    (ended : Prepares environment parameter value reset facility outcome) :
    SameDues facility outcome.1 := by
  cases ended with
  | failed => exact sameDues_markFailure
  | _ => exact .of_slot rfl rfl

theorem sameDues_prepareTransaction (environment : Environment A)
    (states : List (TransactionState A)) (facility : Facility A) :
    SameDues facility (facility.prepareTransactionPersistence environment states).1 := by
  refine prepareTransactionPersistence_rule (motive := fun next => SameDues facility next) ?_ ?_
    (.refl facility)
  · exact fun next holds state _ _ _ outcome ended => holds.trans ended.sameDues
  · exact fun next holds _ _ _ _ _ _ _ => holds.trans (.of_slot rfl rfl)

theorem sameDues_writeValue (facility : Facility A) (state : TransactionState A) :
    SameDues facility (writeValue facility state) := by
  unfold writeValue
  split_ifs
  · exact .updateSlot facility _ (fun _ => rfl) fun _ => rfl
  · exact .refl _

theorem sameDues_restore (environment : Environment A) (states : List (TransactionState A))
    (facility : Facility A) :
    SameDues facility (facility.restoreTransactionValues environment states) := by
  refine SameDues.foldl (fun facility state => ?_) states facility
  split_ifs
  · exact .updateSlot facility _ (fun _ => rfl) fun _ => rfl
  · exact .refl _

theorem sameDues_updateRecords (states : List (TransactionState A)) (facility : Facility A) :
    SameDues facility (facility.updateTransactionRecords states) := by
  refine SameDues.foldl (fun facility state => ?_) states facility
  split_ifs
  · exact .updateSlot facility _ (fun _ => rfl) fun _ => rfl
  · exact .refl _

/-! ### Changes of parameters -/

theorem effectiveDeferred_of_member {group : A.Group} {member : A.Parameter}
    (listed : member ∈ (A.group group).members) :
    A.effectiveDeferred member = (A.group group).commit.isDeferred := by
  simp [Architecture.effectiveDeferred, Architecture.commit,
    (A.transactional_iff member group).mpr listed]

theorem due_markCommitted (immediate : A.effectiveDeferred parameter = false)
    (facility : Facility A) (now : Nat) (revision : UInt64) (reset : Bool) :
    (facility.markCommittedPersistence now parameter revision reset).1.due item =
      facility.due item := by
  cases item with
  | parameter name =>
    by_cases same : name = parameter
    · subst same
      simp [due, immediate]
    · simp only [due, slot_markCommitted_of_ne _ _ _ _ _ same]
  | group name =>
    by_cases own : A.persistence parameter = .transactional name
    · have listed := (A.transactional_iff parameter name).mp own
      rw [effectiveDeferred_of_member listed] at immediate
      simp [due, immediate]
    · simp only [due, group_markCommitted_of_ne _ _ _ _ _ own]

theorem follows_markCommitted (follows : facility.Follows) {revision : UInt64} :
    (facility.markCommittedPersistence now parameter revision reset).1.Follows := by
  intro group deferred member listed dirty
  by_cases own : A.persistence parameter = .transactional group
  · rw [group_markCommitted_self _ _ _ _ _ own]
    cases commits : (A.group group).commit with
    | deferred delay => rfl
    | _ => exact nomatch commits ▸ deferred
  · have different : member ≠ parameter := fun same =>
      own (same ▸ (A.transactional_iff member group).mpr listed)
    rw [slot_markCommitted_of_ne _ _ _ _ _ different] at dirty
    rw [group_markCommitted_of_ne _ _ _ _ _ own]
    exact follows group deferred member listed dirty

theorem Sets.follows {next : Facility A} {result}
    (ended : Sets environment now parameter candidate reset facility next result)
    (follows : facility.Follows) : next.Follows := by
  cases ended with
  | unchanged => exact follows
  | failed => exact sameDues_markFailure.follows follows
  | unwritten accepted changes prepares refused => exact prepares.sameDues.follows follows
  | marked accepted same resets prepares =>
    exact follows_markCommitted (prepares.sameDues.follows follows)
  | committed accepted changes prepares granted =>
    refine follows_markCommitted ?_
    exact sameDues_commitValue.follows (prepares.sameDues.follows follows)

/-- A set that does not end in scheduling makes nothing due. -/
theorem Sets.wanes {next : Facility A} {result}
    (ended : Sets environment now parameter candidate reset facility next result)
    (unscheduled : ∀ update, result = .ok update →
      ¬ (A.effectiveDeferred parameter = true ∧ (update.changed = true ∨ reset = true))) :
    Wanes facility next := by
  cases ended with
  | unchanged => exact (SameDues.refl _).wanes
  | failed => exact sameDues_markFailure.wanes
  | unwritten accepted changes prepares refused => exact prepares.sameDues.wanes
  | marked accepted same resets prepares =>
    intro item deadline due
    rw [due_markCommitted (Bool.eq_false_iff.mpr fun deferred =>
      unscheduled _ rfl ⟨deferred, .inr resets⟩), prepares.sameDues.due] at due
    exact due
  | committed accepted changes prepares granted changed =>
    intro item deadline due
    rw [due_markCommitted (Bool.eq_false_iff.mpr fun deferred =>
      unscheduled _ rfl ⟨deferred, .inl changed⟩), sameDues_commitValue.due,
      prepares.sameDues.due] at due
    exact due

/-- What a transaction does to the deadlines: nothing when it fails, and the marks of the parameters
it assigns when it succeeds. -/
theorem SetsAll.marks {transaction : Transaction A}
    {outcome : Facility A × Except (Error A) TransactionUpdate}
    (ended : SetsAll environment now transaction facility outcome) :
    (∃ error, outcome.2 = .error error ∧ SameDues facility outcome.1) ∨
      ∃ update base states, outcome.2 = .ok update ∧ SameDues facility base ∧
        states.map (·.parameter) = transaction.assignments.map (·.parameter) ∧
        outcome.1 = base.markTransactionPersistence now states := by
  cases ended with
  | refused error => exact .inl ⟨error, rfl, .refl _⟩
  | @unprepared states prepared error captures prepares =>
    have same := sameDues_prepareTransaction environment states facility
    rw [prepares] at same
    exact .inl ⟨error, rfl, same⟩
  | @unwritten states done rest prepared error captures prepares split refused =>
    have same := sameDues_prepareTransaction environment states facility
    rw [prepares] at same
    exact .inl ⟨error, rfl, (same.trans (.foldl sameDues_writeValue done prepared)).trans
      (sameDues_restore environment states _)⟩
  | @committed states prepared captures prepares granted update =>
    have same := sameDues_prepareTransaction environment states facility
    rw [prepares] at same
    exact .inr ⟨update, _, states, rfl, (same.trans (.foldl sameDues_writeValue states
      prepared)).trans (sameDues_updateRecords states _), captures.map_parameter, rfl⟩

theorem follows_markTransaction (now : Nat) (states : List (TransactionState A))
    (follows : facility.Follows) : (facility.markTransactionPersistence now states).Follows := by
  unfold markTransactionPersistence
  induction states generalizing facility with
  | nil => exact follows
  | cons state rest ih =>
    rw [foldl_cons]
    refine ih ?_
    split_ifs
    · exact follows_markCommitted follows
    · exact follows

theorem due_markTransaction (now : Nat) {states : List (TransactionState A)}
    (immediate : ∀ parameter ∈ states.map (·.parameter), A.effectiveDeferred parameter = false)
    (facility : Facility A) (item : Item A) :
    (facility.markTransactionPersistence now states).due item = facility.due item := by
  unfold markTransactionPersistence
  induction states generalizing facility with
  | nil => rfl
  | cons state rest ih =>
    rw [foldl_cons, ih fun parameter listed =>
      immediate parameter (mem_cons_of_mem _ listed)]
    split_ifs
    · exact due_markCommitted (immediate _ mem_cons_self) _ _ _ _
    · rfl

/-! ### Saves -/

/-- The save of the item gets as far as the store. -/
def Reaches (environment : Environment A) (facility : Facility A) : Item A → Prop
  | .parameter name =>
      environment.writeGate.isOk = true ∧ (facility.peek environment name).isOk = true ∧
        (environment.persistenceGate (A.persistenceKey name)).isOk = true
  | .group name =>
      environment.writeGate.isOk = true ∧
        (encodeGroupPayload A (facility.peek environment) (A.group name).members).isOk = true ∧
        (environment.persistenceGate (A.groupKey name)).isOk = true

/-- What a save that gets as far as the store does to the deadlines. -/
structure Attempts (item : Item A) (before after : Facility A) : Prop where
  own : ∀ other : Item A, other.record = item → after.due other = none
  others : ∀ other : Item A, other.record ≠ item → after.due other = before.due other
  value : ∀ parameter, (after.slot parameter).value = (before.slot parameter).value
  follows : before.Follows → after.Follows

theorem finishPersistence_own {Value : Type} (slot : Slot Value) (outcome : Except Status Unit) :
    (slot.finishPersistence slot.pendingRevision outcome).nextDue = none ∧
      (slot.finishPersistence slot.pendingRevision outcome).value = slot.value ∧
      ((slot.finishPersistence slot.pendingRevision outcome).dirty = true → slot.dirty = true) := by
  cases outcome with
  | error status =>
    refine ⟨?_, rfl, id⟩
    unfold Slot.nextDue Slot.finishPersistence
    simp only
    split_ifs <;> rfl
  | ok _ => simp [Slot.finishPersistence, Slot.nextDue]

theorem record_parameter_eq {other : A.Parameter}
    (same : (Item.parameter name).record = Item.parameter other) : name = other := by
  unfold Item.record Architecture.recordOf at same
  simp only at same
  cases persistence : A.persistence name with rw [persistence] at same
  | transactional group => exact nomatch same
  | _ => exact Item.parameter.inj same

theorem record_parameter_group {group : A.Group} :
    (Item.parameter name).record = Item.group group ↔ name ∈ (A.group group).members := by
  rw [← A.transactional_iff]
  unfold Item.record Architecture.recordOf
  cases persistence : A.persistence name with
  | _ => simp [persistence]

theorem record_single {commit : Commit} (single : A.persistence name = .single commit) :
    (Item.parameter name).record = .parameter name := by
  simp [Item.record, Architecture.recordOf, single]

theorem persistValue_keeps (facility : Facility A) (environment : Environment A)
    (name : A.Parameter) (value : A.Value name) (erase : Bool) :
    (facility.persistValue environment name value erase).1.slot = facility.slot ∧
      (facility.persistValue environment name value erase).1.group = facility.group := by
  obtain ⟨status, failed⟩ | ⟨content, _, _, saved⟩ :=
    facility.persistValue_cases environment name value erase
  · rw [failed]
    exact ⟨rfl, rfl⟩
  · rw [saved]
    exact ⟨rfl, rfl⟩

variable {payload : Bytes}

theorem saveGroupPayload_keeps (facility : Facility A) {name : A.Group} :
    (facility.saveGroupPayload environment name payload).1.slot = facility.slot ∧
      (facility.saveGroupPayload environment name payload).1.group = facility.group := by
  obtain ⟨status, failed⟩ | ⟨record, _, _, saved⟩ :=
    facility.saveGroupPayload_cases environment name payload
  · rw [failed]
    exact ⟨rfl, rfl⟩
  · rw [saved]
    exact ⟨rfl, rfl⟩

/-- The save of a parameter with a record of its own. -/
theorem attempts_persistWork {commit : Commit} (single : A.persistence name = .single commit)
    (environment : Environment A) (facility : Facility A) :
    Attempts (.parameter name) facility
      (facility.persistWork environment name (facility.slot name).persistenceWork).1 := by
  obtain ⟨slots, groups⟩ := facility.persistValue_keeps environment name
    (facility.slot name).persistenceWork.value (facility.slot name).persistenceWork.erase
  have slot : ∀ other, other ≠ name →
      (facility.persistWork environment name (facility.slot name).persistenceWork).1.slot other =
        facility.slot other := by
    intro other different
    unfold persistWork
    rw [slot_updateSlot_of_ne _ _ _ different, slots]
  have group : (facility.persistWork environment name
      (facility.slot name).persistenceWork).1.group = facility.group := by
    exact groups
  have own : ∃ outcome, (facility.persistWork environment name
      (facility.slot name).persistenceWork).1.slot name =
        (facility.slot name).finishPersistence (facility.slot name).pendingRevision outcome := by
    refine ⟨(facility.persistValue environment name (facility.slot name).persistenceWork.value
      (facility.slot name).persistenceWork.erase).2, ?_⟩
    unfold persistWork
    rw [slot_updateSlot_self, slots]
    rfl
  obtain ⟨outcome, own⟩ := own
  obtain ⟨ended, value, dirty⟩ := finishPersistence_own (facility.slot name) outcome
  refine ⟨fun other same => ?_, fun other different => ?_, fun other => ?_, fun follows => ?_⟩
  · cases other with
    | parameter other =>
      obtain rfl := record_parameter_eq same
      simp [due, own, ended]
    | group other => exact nomatch same
  · cases other with
    | parameter other =>
      have apart : other ≠ name := by
        intro same
        subst same
        exact different (record_single single)
      simp only [due, slot other apart]
    | group other => simp only [due, group]
  · by_cases same : other = name
    · subst same
      rw [own, value]
    · rw [slot other same]
  · intro name' deferred member listed memberDirty
    have apart : member ≠ name := by
      intro same
      rw [← same, (A.transactional_iff member name').mpr listed] at single
      exact nomatch single
    rw [group]
    rw [slot member apart] at memberDirty
    exact follows name' deferred member listed memberDirty

theorem read_of_encoded {members : List A.Parameter}
    (encoded : encodeGroupPayload A (facility.peek environment) members = .ok payload) :
    ∀ member ∈ members, ∃ read, environment.read member = .ok read := by
  induction members generalizing payload with
  | nil => exact fun member listed => absurd listed not_mem_nil
  | cons first rest ih =>
    obtain ⟨value, bytes, more, provided, _, later, rfl⟩ := encodeGroupPayload_cons encoded
    intro member listed
    obtain rfl | among := mem_cons.mp listed
    · unfold peek at provided
      split at provided
      · exact nomatch provided
      · next read granted => exact ⟨read, granted⟩
    · exact ih later member among

theorem finish_own {state : GroupState} {succeeded : Bool} :
    (state.finish state.revision succeeded).2 = succeeded ∧
      (state.finish state.revision succeeded).1.dirty = (state.dirty && !succeeded) ∧
      (state.finish state.revision succeeded).1.due = none := by
  unfold GroupState.finish
  cases succeeded with
  | true | false => simp

/-- The save of a group. -/
theorem attempts_persistGroupWork {name : A.Group}
    (encoded : encodeGroupPayload A (facility.peek environment) (A.group name).members =
      .ok payload) :
    Attempts (.group name) facility (facility.persistGroupWork environment name
      (facility.group name).revision payload).1 := by
  obtain ⟨slots, groups⟩ := facility.saveGroupPayload_keeps
  obtain ⟨outcome, ended⟩ : ∃ outcome,
      (facility.saveGroupPayload environment name payload).2 = outcome := ⟨_, rfl⟩
  obtain ⟨cleared, groupDirty, groupDue⟩ := finish_own
  have outside : ∀ other, other ∉ (A.group name).members →
      (facility.persistGroupWork environment name (facility.group name).revision
        payload).1.slot other = facility.slot other := by
    intro other absent
    unfold persistGroupWork
    rw [slot_updateSlots_of_not_mem absent, slot_updateGroup, slots]
  have inside : ∀ member ∈ (A.group name).members,
      (facility.persistGroupWork environment name (facility.group name).revision
        payload).1.slot member =
        (facility.slot member).finishPersistence (facility.slot member).pendingRevision
          outcome := by
    intro member listed
    obtain ⟨read, granted⟩ := read_of_encoded encoded member listed
    unfold persistGroupWork
    rw [slot_updateSlots_of_mem (A.nodup_members name) listed, slot_updateGroup, slots, groups,
      ended, cleared]
    unfold finishMember
    rw [granted]
    cases outcome with
    | error | ok => rfl
  have state : ∀ other, other ≠ name →
      (facility.persistGroupWork environment name (facility.group name).revision
        payload).1.group other = facility.group other := by
    intro other different
    unfold persistGroupWork
    rw [group_updateSlots, group_updateGroup_of_ne _ _ _ different, groups]
  have ownState : (facility.persistGroupWork environment name (facility.group name).revision
      payload).1.group name =
        ((facility.group name).finish (facility.group name).revision outcome.isOk).1 := by
    unfold persistGroupWork
    rw [group_updateSlots, group_updateGroup_self, groups, ended]
  refine ⟨fun other same => ?_, fun other different => ?_, fun parameter => ?_,
    fun follows group deferred member listed dirty => ?_⟩
  · cases other with
    | parameter member =>
      have listed := record_parameter_group.mp same
      simp [due, inside member listed, (finishPersistence_own _ _).1]
    | group other =>
      obtain rfl := Item.group.inj same
      simp [due, ownState, groupDue]
  · cases other with
    | parameter member =>
      have absent : member ∉ (A.group name).members := fun listed =>
        different (record_parameter_group.mpr listed)
      simp only [due, outside member absent]
    | group other =>
      have apart : other ≠ name := fun same => different (congrArg Item.group same)
      simp only [due, state other apart]
  · by_cases listed : parameter ∈ (A.group name).members
    · rw [inside parameter listed, (finishPersistence_own _ _).2.1]
    · rw [outside parameter listed]
  · by_cases same : group = name
    · subst same
      rw [inside member listed] at dirty
      rw [ownState, groupDirty]
      cases outcome with
      | error status =>
        have before := follows group deferred member listed ((finishPersistence_own _ _).2.2 dirty)
        rw [before]
        rfl
      | ok _ =>
        simp only [Slot.finishPersistence, if_true] at dirty
        exact nomatch dirty
    · have absent : member ∉ (A.group name).members := fun other =>
        same (group_unique other listed)
      rw [outside member absent] at dirty
      rw [state group same]
      exact follows group deferred member listed dirty

/-- The record has a change to save. -/
def IsDirty (facility : Facility A) : Item A → Prop
  | .parameter name => (∃ commit, A.persistence name = .single commit) ∧
      (facility.slot name).dirty = true
  | .group name => (facility.group name).dirty = true

section

variable (environment : Environment A) (now : Nat) (force : Bool)

/-- How a save can end: it has nothing to save or comes too early, it is turned away, or it gets as
far as the store. -/
theorem persistItem_cases :
    (facility.persistItem environment now force item).1 = facility ∧
        (facility.persistItem environment now force item).2.isOk = true ∧
        ¬ (force = true ∧ facility.IsDirty item) ∨
      (facility.persistItem environment now force item).1 = facility ∧
        ¬ Reaches environment facility item ∨
      Attempts item facility (facility.persistItem environment now force item).1 := by
  cases item with
  | parameter name =>
    cases persistence : A.persistence name with
    | volatile | transactional =>
      simp only [persistItem, persistParameterSlot, persistence]
      refine .inl ⟨trivial, rfl, ?_⟩
      rintro ⟨_, ⟨_, single⟩, _⟩
      cases persistence.symm.trans single
    | single commit =>
    simp only [persistItem, persistParameterSlot, persistence]
    cases written : environment.writeGate with
    | error status =>
      exact .inr (.inl ⟨rfl, fun reaches => by simp [Reaches, written, Except.isOk,
        Except.toBool] at reaches⟩)
    | ok _ =>
    cases read : facility.peek environment name with
    | error status =>
      exact .inr (.inl ⟨rfl, fun reaches => by simp [Reaches, read, Except.isOk,
        Except.toBool] at reaches⟩)
    | ok _ =>
    split_ifs with waits
    · refine .inl ⟨rfl, rfl, ?_⟩
      rintro ⟨forced, _, dirty⟩
      simp [Slot.persistenceWork, dirty, forced] at waits
    · cases granted : environment.persistenceGate (A.persistenceKey name) with
      | error status =>
        exact .inr (.inl ⟨rfl, fun reaches => by simp [Reaches, granted, Except.isOk,
          Except.toBool] at reaches⟩)
      | ok _ => exact .inr (.inr (attempts_persistWork persistence environment facility))
  | group name =>
    simp only [persistItem, persistGroupSlot]
    split_ifs with waits
    · refine .inl ⟨rfl, rfl, ?_⟩
      rintro ⟨forced, dirty⟩
      simp only [IsDirty] at dirty
      simp [dirty, forced] at waits
    cases written : environment.writeGate with
    | error status =>
      exact .inr (.inl ⟨rfl, fun reaches => by simp [Reaches, written, Except.isOk,
        Except.toBool] at reaches⟩)
    | ok _ =>
    cases encoded : encodeGroupPayload A (facility.peek environment) (A.group name).members with
    | error status =>
      exact .inr (.inl ⟨rfl, fun reaches => by simp [Reaches, encoded, Except.isOk,
        Except.toBool] at reaches⟩)
    | ok payload =>
    cases granted : environment.persistenceGate (A.groupKey name) with
    | error status =>
      exact .inr (.inl ⟨rfl, fun reaches => by simp [Reaches, granted, Except.isOk,
        Except.toBool] at reaches⟩)
    | ok _ => exact .inr (.inr (attempts_persistGroupWork encoded))

theorem persistItem_keeps (facility : Facility A) (item : Item A) :
    (facility.persistItem environment now force item).1 = facility ∨
      Attempts item facility (facility.persistItem environment now force item).1 := by
  obtain ⟨same, _⟩ | ⟨same, _⟩ | attempts := persistItem_cases environment now force
  · exact .inl same
  · exact .inl same
  · exact .inr attempts

theorem wanes_persistItem (facility : Facility A) (item : Item A) :
    Wanes facility (facility.persistItem environment now force item).1 := by
  intro other deadline due
  obtain same | attempts := persistItem_keeps environment now force facility item
  · rw [← same]
    exact due
  · by_cases own : other.record = item
    · rw [attempts.own other own] at due
      exact nomatch due
    · rw [← attempts.others other own]
      exact due

end

theorem follows_persistItem (follows : facility.Follows) (environment : Environment A) (now : Nat)
    (force : Bool) (item : Item A) :
    (facility.persistItem environment now force item).1.Follows := by
  obtain same | attempts := persistItem_keeps environment now force facility item
  · rw [same]
    exact follows
  · exact attempts.follows follows

theorem value_persistItem {force : Bool} (parameter : A.Parameter) :
    ((facility.persistItem environment now force item).1.slot parameter).value =
      (facility.slot parameter).value := by
  obtain same | attempts := persistItem_keeps environment now force facility item
  · rw [same]
  · exact attempts.value parameter

theorem Reaches.congr {before after : Facility A} (reaches : Reaches environment before item)
    (value : ∀ parameter, (after.slot parameter).value = (before.slot parameter).value) :
    Reaches environment after item := by
  have peeks : after.peek environment = before.peek environment := by
    funext parameter
    simp only [peek, value]
  cases item with
  | _ =>
    simp only [Reaches, peeks] at reaches ⊢
    exact reaches

/-- A record with a deadline. -/
def Awaits (facility : Facility A) (item : Item A) : Prop :=
  ∃ other : Item A, other.record = item ∧ ∃ deadline, facility.due other = some deadline

/-- A record with a deadline is dirty. -/
theorem Awaits.isDirty (follows : facility.Follows) (awaits : facility.Awaits item) :
    facility.IsDirty item := by
  obtain ⟨other, same, deadline, due⟩ := awaits
  cases item with
  | parameter name =>
    cases other with
    | group other => exact nomatch same
    | parameter other =>
      obtain rfl := record_parameter_eq same
      obtain ⟨deferred, dirty, _⟩ := due_parameter_eq_some.mp due
      refine ⟨?_, dirty⟩
      unfold Architecture.effectiveDeferred Architecture.commit at deferred
      cases persistence : A.persistence other with
      | volatile => simp [persistence] at deferred
      | single commit => exact ⟨commit, rfl⟩
      | transactional group =>
        simp only [Item.record, Architecture.recordOf, persistence] at same
        exact nomatch same
  | group name =>
    cases other with
    | group other =>
      obtain rfl := Item.group.inj same
      exact (due_group_eq_some.mp due).2.1
    | parameter member =>
      have listed := record_parameter_group.mp same
      obtain ⟨deferred, dirty, _⟩ := due_parameter_eq_some.mp due
      exact follows name (effectiveDeferred_of_member listed ▸ deferred) member listed dirty

theorem not_awaits_persistItem (follows : facility.Follows)
    (reaches : facility.Awaits item → Reaches environment facility item) :
    ¬ (facility.persistItem environment now true item).1.Awaits item := by
  intro ⟨other, same, deadline, due⟩
  have awaits : facility.Awaits item := ⟨other, same, deadline,
    wanes_persistItem environment now true facility item other deadline due⟩
  obtain ⟨_, _, clean⟩ | ⟨_, turnedAway⟩ | attempts :=
    persistItem_cases environment now true
  · exact clean ⟨rfl, awaits.isDirty follows⟩
  · exact turnedAway (reaches awaits)
  · rw [attempts.own other same] at due
    exact nomatch due

theorem dues_of_failed {force : Bool} (reaches : Reaches environment facility item)
    (failed : (facility.persistItem environment now force item).2.isOk = false)
    (only : ∀ other, facility.due other ≠ none → other.record = item) :
    (facility.persistItem environment now force item).1.dues = [] := by
  obtain ⟨_, succeeded, _⟩ | ⟨_, turnedAway⟩ | attempts :=
    persistItem_cases environment now force
  · rw [succeeded] at failed
    exact nomatch failed
  · exact absurd reaches turnedAway
  · rw [dues_eq_nil_iff]
    intro other
    by_cases own : other.record = item
    · exact attempts.own other own
    · rw [attempts.others other own]
      exact not_not.mp fun some => own (only other some)

theorem wanes_persistItems (environments : Item A → Environment A) (now : Nat) (force : Bool)
    (items : List (Item A)) (facility : Facility A) :
    Wanes facility (facility.persistItems environments now force items) := by
  induction items generalizing facility with
  | nil => exact fun _ _ due => due
  | cons item rest ih =>
    intro other deadline due
    exact wanes_persistItem _ now force facility item other deadline
      (ih _ other deadline due)

theorem follows_persistItems (follows : facility.Follows) (environments : Item A → Environment A)
    (now : Nat) (force : Bool) (items : List (Item A)) :
    (facility.persistItems environments now force items).Follows := by
  induction items generalizing facility with
  | nil => exact follows
  | cons item rest ih => exact ih (follows_persistItem follows _ now force item)

variable {environments : Item A → Environment A}

/-- Forced saves that get as far as the store end the deadlines of their records. -/
theorem not_awaits_persistItems (follows : facility.Follows) {items : List (Item A)}
    (reaches : ∀ item ∈ items, facility.Awaits item → Reaches (environments item) facility item) :
    ∀ item ∈ items, ¬ (facility.persistItems environments now true items).Awaits item := by
  induction items generalizing facility with
  | nil => exact fun item listed => absurd listed not_mem_nil
  | cons first rest ih =>
    intro item listed awaits
    have wanes := wanes_persistItem (environments first) now true facility first
    have later : ∀ item ∈ rest, (facility.persistItem (environments first) now true
        first).1.Awaits item → Reaches (environments item)
          (facility.persistItem (environments first) now true first).1 item := by
      intro item among ⟨other, same, deadline, due⟩
      exact (reaches item (mem_cons_of_mem _ among)
        ⟨other, same, deadline, wanes other deadline due⟩).congr
          value_persistItem
    obtain rfl | among := mem_cons.mp listed
    · obtain ⟨other, same, deadline, due⟩ := awaits
      exact not_awaits_persistItem follows (reaches item mem_cons_self)
        ⟨other, same, deadline, wanes_persistItems environments now true rest _ other deadline due⟩
    · exact ih (follows_persistItem follows _ now true first) later item among
        awaits

/-- Everything with a deadline is in a record that a flush saves. -/
theorem record_mem_deferredItems (due : facility.due item = some deadline) :
    item.record ∈ A.deferredItems := by
  cases item with
  | group name =>
    refine mem_append_right _ (mem_map_of_mem (mem_filter.mpr ?_))
    exact ⟨A.mem_groups name, (due_group_eq_some.mp due).1⟩
  | parameter name =>
    have deferred := (due_parameter_eq_some.mp due).1
    unfold Architecture.effectiveDeferred Architecture.commit at deferred
    unfold Item.record Architecture.recordOf
    cases persistence : A.persistence name with
    | volatile => simp [persistence] at deferred
    | single commit =>
      simp only [persistence, Option.any_some] at deferred ⊢
      refine mem_append_left _ (mem_map_of_mem (mem_filter.mpr ?_))
      exact ⟨A.mem_parameters name, by simp only [persistence, deferred]⟩
    | transactional group =>
      simp only [persistence, Option.any_some] at deferred ⊢
      refine mem_append_right _ (mem_map_of_mem (mem_filter.mpr ?_))
      exact ⟨A.mem_groups group, deferred⟩

theorem dues_flushed (follows : facility.Follows) (now : Nat)
    (reaches : ∀ item ∈ A.deferredItems, facility.Awaits item →
      Reaches (environments item) facility item) :
    (facility.persistItems environments now true A.deferredItems).dues = [] := by
  rw [dues_eq_nil_iff]
  intro item
  cases due : (facility.persistItems environments now true A.deferredItems).due item with
  | none => rfl
  | some deadline =>
    exact absurd ⟨item, rfl, deadline, due⟩
      (not_awaits_persistItems follows reaches item.record (record_mem_deferredItems due))

end Facility

end Solar.Parameters
