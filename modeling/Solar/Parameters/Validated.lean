/-
This file proves that only validated values are visible. A value enters a slot as
a default, from a record, from a migration, as a member of a group record, by a
set, or by a transaction that is undone; each of these doors either normalizes it
or takes it from where it was settled before. A record that is rejected, as a
whole also when it is the record of a group, leaves the default.
-/

import Solar.Parameters.GroupRuns
import Solar.Remote.Codec.Float

namespace Solar.Parameters

open List Words

/-! ### Validation policies -/

/-- The validation policies that a parameter can declare. A range has its bounds in order. -/
inductive ValidationPolicy (Value : Type)
  | acceptAny
  | range [LT Value] [DecidableLT Value] [RangeValue Value] (minimum maximum : Value)
      (ordered : ¬ maximum < minimum) (behavior : RangeBehavior)
  | oneOf (values : List Value)
  | custom (validator : Value → Option Value)

namespace ValidationPolicy

variable {Value : Type} (equals : Value → Value → Bool)

/-- `ValidationTraits<Policy>::normalize`, over the `==` of the value type. -/
def normalize : ValidationPolicy Value → Validation Value
  | .acceptAny => Parameters.acceptAny
  | @range _ _ _ _ minimum maximum _ behavior => Parameters.range minimum maximum behavior
  | .oneOf values => Parameters.oneOf equals values
  | .custom validator => Parameters.custom equals validator

/-- Whether a value that the policy leaves as it is counts as adjusted: for a custom policy, when the
value does not equal itself. -/
def adjusts : ValidationPolicy Value → Value → Bool
  | .custom _, value => !equals value value
  | _, _ => false

/-- A custom validator that accepts what it made as it is. -/
def Idempotent : ValidationPolicy Value → Prop
  | .custom validator => ∀ candidate value, validator candidate = some value →
      validator value = some value
  | _ => True

variable {equals} {policy : ValidationPolicy Value} {value : Value}

theorem settles_normalize (idempotent : policy.Idempotent)
    (valid : policy.normalize equals value = some ⟨value, false⟩) :
    Settles (policy.normalize equals) := by
  cases policy with
  | acceptAny => exact settles_acceptAny
  | range minimum maximum ordered behavior => exact settles_range ordered valid
  | oneOf values => exact settles_oneOf equals values
  | custom validator =>
    intro candidate normalized made
    obtain ⟨value, accepted, rfl⟩ := Option.map_eq_some_iff.mp made
    have again : validator value = some value := idempotent candidate value accepted
    exact ⟨_, Option.map_eq_some_iff.mpr ⟨value, again, rfl⟩⟩

/-- A range that adjusts a value replaces it by another, and only a custom policy compares it. -/
theorem adjusted_of_keeps (kept : (policy.normalize equals).Keeps value) :
    policy.normalize equals value = some ⟨value, policy.adjusts equals value⟩ := by
  obtain ⟨adjusted, kept⟩ := kept
  cases policy with
  | acceptAny => rfl
  | range minimum maximum ordered behavior =>
    simp only [normalize, Parameters.range] at kept
    split_ifs at kept with infinite low high
    · cases behavior with
      | clamp =>
        obtain ⟨⟩ := kept
        exact absurd low (RangeValue.irreflexive _)
      | reject => exact nomatch kept
    · cases behavior with
      | clamp =>
        obtain ⟨⟩ := kept
        exact absurd high (RangeValue.irreflexive _)
      | reject => exact nomatch kept
    · exact range_eq_some_iff.mpr ⟨rfl, by simpa using infinite, low, high⟩
  | oneOf values =>
    simp only [normalize, Parameters.oneOf] at kept
    split_ifs at kept with listed
    exact if_pos listed
  | custom validator =>
    obtain ⟨made, accepted, same⟩ := Option.map_eq_some_iff.mp kept
    obtain rfl : made = value := congrArg Normalized.value same
    exact Option.map_eq_some_iff.mpr ⟨made, accepted, rfl⟩

end ValidationPolicy

variable {A : Architecture}

namespace Facility

/-! ### Settled facilities -/

/-- Every value is one that its validation leaves as it is. -/
def Validated (facility : Facility A) : Prop :=
  ∀ parameter, Settled A parameter (facility.slot parameter).value

namespace Validated

variable {facility after : Facility A}

section

variable (validated : facility.Validated)

include validated

theorem of_values
    (same : ∀ parameter, (after.slot parameter).value = (facility.slot parameter).value) :
    after.Validated := by
  intro parameter
  rw [same]
  exact validated parameter

theorem updateSlot {parameter : A.Parameter}
    {update : Slot (A.Value parameter) → Slot (A.Value parameter)}
    (settled : Settled A parameter (update (facility.slot parameter)).value) :
    (facility.updateSlot parameter update).Validated := by
  intro other
  by_cases same : other = parameter
  · subst same
    rw [slot_updateSlot_self]
    exact settled
  · rw [slot_updateSlot_of_ne _ _ _ same]
    exact validated other

theorem updateSlots {members : List A.Parameter}
    {update : (parameter : A.Parameter) → Slot (A.Value parameter) → Slot (A.Value parameter)}
    (settled : ∀ member ∈ members, ∀ slot, Settled A member slot.value →
      Settled A member (update member slot).value) :
    (facility.updateSlots update members).Validated := by
  induction members generalizing facility with
  | nil => exact validated
  | cons member rest ih =>
    refine ih (validated.updateSlot ?_) fun other listed =>
      settled other (mem_cons_of_mem _ listed)
    exact settled member mem_cons_self _ (validated member)

theorem foldl {Item : Type} {step : Facility A → Item → Facility A} {items : List Item}
    (keeps : ∀ facility : Facility A, facility.Validated → ∀ item ∈ items,
      (step facility item).Validated) : (items.foldl step facility).Validated := by
  induction items generalizing facility with
  | nil => exact validated
  | cons item rest ih =>
    exact ih (keeps facility validated item mem_cons_self)
      fun facility holds other listed => keeps facility holds other (mem_cons_of_mem _ listed)

theorem markCommitted (now : Nat) (parameter : A.Parameter) (revision : UInt64) (reset : Bool) :
    (facility.markCommittedPersistence now parameter revision reset).1.Validated := by
  refine validated.of_values fun other => ?_
  by_cases same : other = parameter
  · subst same
    rw [slot_markCommitted_self]
    cases A.commit other with
    | none => rfl
    | some commit => exact value_commitSlot commit now revision reset _
  · rw [slot_markCommitted_of_ne _ _ _ _ _ same]

end

end Validated

/-! ### The boot -/

variable {facility : Facility A}

section

variable (settles : ∀ parameter, Settles (A.declaration parameter).normalize)
include settles

theorem settled_loadSlot (parameter : A.Parameter) (content : Option Bytes)
    {slot : Slot (A.Value parameter)} (settled : Settled A parameter slot.value) :
    Settled A parameter (loadSlot A parameter content slot).1.value := by
  unfold loadSlot
  split
  · exact settled
  · split
    · exact settled
    · next value read => exact settled_of_read (settles parameter) read
    · next value read => exact settled_of_read (settles parameter) read

variable {states : List (TransactionState A)}

theorem validated_loadPersistentParameter (validated : facility.Validated)
    (parameter : A.Parameter) : (facility.loadPersistentParameter parameter).1.Validated := by
  unfold loadPersistentParameter
  split
  · dsimp only
    refine validated.updateSlot ?_
    exact settled_loadSlot settles parameter _ (validated parameter)
  · exact validated

theorem validated_loadPersistentGroup (validated : facility.Validated) (group : A.Group) :
    (facility.loadPersistentGroup group).1.Validated := by
  intro parameter
  by_cases listed : parameter ∈ (A.group group).members
  · rw [slot_loadPersistentGroup listed]
    unfold loadMember
    split
    · exact validated parameter
    · split
      · exact validated parameter
      · next values source read =>
        exact settled_of_readGroup (fun member _ => settles member) read listed
  · rw [loadPersistentGroup_of_not_mem listed]
    exact validated parameter

theorem validated_boot {contents : A.Store → Key → Option Bytes} {start : Facility A}
    (booted : boot A contents = .ok start) : start.Validated := by
  unfold boot at booted
  split at booted
  · exact nomatch booted
  next loaded first =>
  have initially : (initial A contents).Validated := fun parameter => settled_default A parameter
  have parameters : loaded.Validated := loadEach_rule (motive := Validated)
    (fun facility holds parameter _ => validated_loadPersistentParameter settles holds parameter)
    initially first
  exact loadEach_rule (motive := Validated)
    (fun facility holds group _ => validated_loadPersistentGroup settles holds group) parameters
    booted

/-! ### Sets and transactions -/

theorem Sets.validated {environment : Environment A} {now : Nat} {parameter : A.Parameter}
    {candidate : A.Value parameter} {reset : Bool} {after : Facility A}
    {result} (sets : Sets environment now parameter candidate reset facility after result)
    (validated : facility.Validated) : after.Validated := by
  cases sets with
  | unchanged => exact validated
  | failed => exact validated.updateSlot (validated parameter)
  | unwritten accepted changes prepares refused =>
    exact validated.of_values fun other => by rw [prepares.slot_of_ok]
  | marked accepted same resets prepares =>
    refine Validated.markCommitted ?_ now parameter _ true
    exact validated.of_values fun other => by rw [prepares.slot_of_ok]
  | committed accepted changes prepares granted =>
    have unchanged := validated.of_values fun other => by rw [prepares.slot_of_ok]
    refine Validated.markCommitted (unchanged.updateSlot ?_) now parameter _ reset
    exact settles parameter _ _ accepted

theorem Captures.settled (validated : facility.Validated) {assignments : List (Assignment A)}
    (captures : facility.Captures assignments states) {state : TransactionState A}
    (listed : state ∈ states) : Settled A state.parameter state.normalized.value ∧
      Settled A state.parameter state.oldValue := by
  obtain ⟨assignment, -, normalized, accepted, rfl⟩ := captures.exists_of_mem listed
  exact ⟨settles _ _ _ accepted, validated _⟩

omit settles in
theorem validated_prepareTransaction (validated : facility.Validated) (environment : Environment A)
    (states : List (TransactionState A)) :
    (facility.prepareTransactionPersistence environment states).1.Validated := by
  refine prepareTransactionPersistence_rule (motive := Validated) ?_ ?_ validated
  · intro next holds state _ single _ outcome ended
    cases ended with
    | failed => exact holds.updateSlot (holds state.parameter)
    | _ => exact holds
  · exact fun next holds _ _ _ _ _ _ _ => holds

omit settles in
theorem Validated.pass (validated : facility.Validated) (condition : TransactionState A → Prop)
    [DecidablePred condition]
    {own : (state : TransactionState A) → Slot (A.Value state.parameter) →
      Slot (A.Value state.parameter)}
    (settled : ∀ state ∈ states, ∀ slot, Settled A state.parameter (own state slot).value) :
    (states.foldl (fun facility state => if condition state then
      facility.updateSlot state.parameter (own state) else facility) facility).Validated := by
  refine validated.foldl fun facility holds state listed => ?_
  split_ifs
  · exact holds.updateSlot (settled state listed _)
  · exact holds

omit settles in
theorem validated_restored (validated : facility.Validated)
    {done undone : List (TransactionState A)}
    (settled : ∀ state ∈ states, Settled A state.parameter state.normalized.value ∧
      Settled A state.parameter state.oldValue)
    (written : done ⊆ states) (restored : undone ⊆ states) (environment : Environment A) :
    ((done.foldl writeValue facility).restoreTransactionValues environment undone).Validated := by
  have writes : (done.foldl writeValue facility).Validated :=
    validated.pass (fun state => state.changed) fun state listed _ =>
      (settled state (written listed)).1
  exact writes.pass (fun state => state.changed ∧ (environment.restore state.parameter).isOk)
    fun state listed _ => (settled state (restored listed)).2

theorem SetsAll.validated {environment : Environment A} {now : Nat} {transaction : Transaction A}
    {outcome : Facility A × Except (Error A) TransactionUpdate}
    (sets : SetsAll environment now transaction facility outcome) (validated : facility.Validated) :
    outcome.1.Validated := by
  cases sets with
  | refused error => exact validated
  | @unprepared states prepared error captures prepares =>
    have prepared := validated_prepareTransaction validated environment states
    rw [prepares] at prepared
    exact prepared
  | @unwritten states done rest prepared error captures prepares split refused =>
    have prepared := validated_prepareTransaction validated environment states
    rw [prepares] at prepared
    refine validated_restored prepared (fun state => captures.settled settles validated) ?_
      (Subset.refl _) environment
    rw [split]
    exact subset_append_left _ _
  | @committed states prepared captures prepares granted update =>
    have prepared := validated_prepareTransaction validated environment states
    rw [prepares] at prepared
    have settled : ∀ state ∈ states, Settled A state.parameter state.normalized.value :=
      fun state listed => (captures.settled settles validated listed).1
    have written : (states.foldl writeValue _).Validated :=
      prepared.pass (fun state => state.changed) fun state listed _ => settled state listed
    have updated : ((states.foldl writeValue _).updateTransactionRecords states).Validated :=
      written.pass (fun state => state.changed) fun state listed _ => settled state listed
    refine updated.foldl fun facility holds state _ => ?_
    split_ifs
    · exact holds.markCommitted now state.parameter _ false
    · exact holds

end

/-! ### Saves -/

theorem value_finishPersistence {Value : Type} (slot : Slot Value) (revision : UInt64)
    (persisted : Except Status Unit) :
    (slot.finishPersistence revision persisted).value = slot.value := by
  cases persisted with
  | error status => rfl
  | ok _ =>
    unfold Slot.finishPersistence
    split_ifs
    · rfl
    · rfl

theorem Validated.persistWork (validated : facility.Validated) (environment : Environment A)
    (parameter : A.Parameter) (work : PersistenceWork (A.Value parameter)) :
    (facility.persistWork environment parameter work).1.Validated := by
  have saved : (facility.persistValue environment parameter work.value work.erase).1.Validated := by
    obtain ⟨status, failed⟩ | ⟨content, -, -, written⟩ :=
      facility.persistValue_cases environment parameter work.value work.erase
    · rw [failed]
      exact validated
    · rw [written]
      exact validated
  unfold Facility.persistWork
  dsimp only
  refine saved.updateSlot ?_
  rw [value_finishPersistence]
  exact saved parameter

theorem Validated.persistGroupWork (validated : facility.Validated) (environment : Environment A)
    (group : A.Group) (revision : UInt64) (payload : Bytes) :
    (facility.persistGroupWork environment group revision payload).1.Validated := by
  have saved : (facility.saveGroupPayload environment group payload).1.Validated := by
    obtain ⟨status, failed⟩ | ⟨record, -, -, written⟩ :=
      facility.saveGroupPayload_cases environment group payload
    · rw [failed]
      exact validated
    · rw [written]
      exact validated
  refine Validated.updateSlots ?_ fun member _ slot settled => ?_
  · exact saved.of_values fun _ => rfl
  · unfold finishMember
    split
    · exact settled
    · split_ifs
      · rw [value_finishPersistence]
        exact settled
      · exact settled

/-! ### Rejected records -/

/-- What is wrong with a record of a parameter that is not loaded: its size, its envelope, its key,
its version or its codec or migration, or its value. -/
inductive RejectsParameter (A : Architecture) (parameter : A.Parameter) (record : Bytes) : Prop
  | size (large : A.maxEncodedRecordBytes < record.length)
  | corrupt {status : Status} (decodes : decodeRecord record = .error status)
  | key {decoded : DecodedRecord} (decodes : decodeRecord record = .ok decoded)
      (other : decoded.kind ≠ RecordKind.parameter.code ∨
        decoded.stableId ≠ (A.declaration parameter).stableId)
  | payload {decoded : DecodedRecord} {status : Status}
      (decodes : decodeRecord record = .ok decoded)
      (fails : readParameterPayload A parameter decoded.version decoded.payload = .error status)
  | value {decoded : DecodedRecord} {value : A.Value parameter} {source : LoadSource}
      (decodes : decodeRecord record = .ok decoded)
      (reads : readParameterPayload A parameter decoded.version decoded.payload =
        .ok (value, source))
      (refuses : (A.declaration parameter).normalize value = none)

/-- The same of a group record; one refused member is enough. -/
inductive RejectsGroup (A : Architecture) (group : A.Group) (record : Bytes) : Prop
  | size (large : A.maxGroupRecordBytes < record.length)
  | corrupt {status : Status} (decodes : decodeRecord record = .error status)
  | key {decoded : DecodedRecord} (decodes : decodeRecord record = .ok decoded)
      (other : decoded.kind ≠ RecordKind.group.code ∨ decoded.stableId ≠ (A.group group).stableId)
  | payload {decoded : DecodedRecord} {status : Status}
      (decodes : decodeRecord record = .ok decoded)
      (fails : readGroupPayload A group decoded.version decoded.payload = .error status)
  | value {decoded : DecodedRecord} {values : Values A} {source : LoadSource}
      {member : A.Parameter} (decodes : decodeRecord record = .ok decoded)
      (reads : readGroupPayload A group decoded.version decoded.payload = .ok (values, source))
      (listed : member ∈ (A.group group).members)
      (refuses : (A.declaration member).normalize (values member) = none)

/-- The record of the parameter, or of its group, is there and is rejected. -/
def Rejected (A : Architecture) (contents : A.Store → Key → Option Bytes)
    (parameter : A.Parameter) : Prop :=
  match A.persistence parameter with
  | .volatile => False
  | .single _ => ∃ record, contents (A.store parameter) (A.persistenceKey parameter) =
      some record ∧ RejectsParameter A parameter record
  | .transactional group => ∃ record, contents (A.groupStore group) (A.groupKey group) =
      some record ∧ RejectsGroup A group record

theorem RejectsParameter.read_eq_error {parameter : A.Parameter} {record : Bytes}
    (rejects : RejectsParameter A parameter record) :
    ∃ status, readParameterRecord A parameter record = .error status := by
  unfold readParameterRecord
  split_ifs with large
  · exact ⟨_, rfl⟩
  cases rejects with
  | size larger => exact absurd larger large
  | corrupt decodes =>
    rw [decodes]
    exact ⟨_, rfl⟩
  | key decodes other =>
    simp only [decodes, if_pos other]
    exact ⟨_, rfl⟩
  | payload decodes fails =>
    simp only [decodes, fails]
    split_ifs
    · exact ⟨_, rfl⟩
    · exact ⟨_, rfl⟩
  | value decodes reads refuses =>
    simp only [decodes, reads, refuses]
    split_ifs
    · exact ⟨_, rfl⟩
    · exact ⟨_, rfl⟩

theorem normalizeGroupValues_of_refused {members : List A.Parameter} (distinct : members.Nodup)
    {values : Values A} {member : A.Parameter} (listed : member ∈ members)
    (refuses : (A.declaration member).normalize (values member) = none) :
    ∃ status, normalizeGroupValues A members values = .error status := by
  induction members generalizing values with
  | nil => exact absurd listed not_mem_nil
  | cons first rest ih =>
    rw [nodup_cons] at distinct
    unfold normalizeGroupValues
    cases accepted : (A.declaration first).normalize (values first) with
    | none => exact ⟨_, rfl⟩
    | some normalized =>
      have different : member ≠ first := by
        rintro rfl
        rw [refuses] at accepted
        cases accepted
      refine ih distinct.2 ((mem_cons.mp listed).resolve_left different) ?_
      rw [Function.update_of_ne different]
      exact refuses

theorem RejectsGroup.read_eq_error {group : A.Group} {record : Bytes}
    (rejects : RejectsGroup A group record) :
    ∃ status, readGroupRecord A group record = .error status := by
  unfold readGroupRecord
  split_ifs with large
  · exact ⟨_, rfl⟩
  cases rejects with
  | size larger => exact absurd larger large
  | corrupt decodes =>
    rw [decodes]
    exact ⟨_, rfl⟩
  | key decodes other =>
    simp only [decodes, if_pos other]
    exact ⟨_, rfl⟩
  | payload decodes fails =>
    simp only [decodes, fails]
    split_ifs
    · exact ⟨_, rfl⟩
    · exact ⟨_, rfl⟩
  | value decodes reads listed refuses =>
    obtain ⟨status, fails⟩ :=
      normalizeGroupValues_of_refused (A.nodup_members group) listed refuses
    simp only [decodes, reads, fails]
    split_ifs
    · exact ⟨_, rfl⟩
    · exact ⟨_, rfl⟩

/-- A parameter whose record is rejected starts with its default. -/
theorem value_of_rejected {contents : A.Store → Key → Option Bytes} {start : Facility A}
    (booted : boot A contents = .ok start) {parameter : A.Parameter}
    (rejected : Rejected A contents parameter) :
    (start.slot parameter).value = (A.declaration parameter).defaultValue := by
  have stored := stored_boot booted
  unfold Rejected at rejected
  cases persistence : A.persistence parameter with rw [persistence] at rejected
  | volatile => exact rejected.elim
  | single commit =>
    obtain ⟨record, content, rejects⟩ := rejected
    obtain ⟨status, fails⟩ := rejects.read_eq_error
    rw [slot_boot persistence booted, parameterRecord, stored, content]
    simp only [loadSlot, fails]
    rfl
  | transactional group =>
    obtain ⟨record, content, rejects⟩ := rejected
    obtain ⟨status, fails⟩ := rejects.read_eq_error
    have listed := (A.transactional_iff parameter group).mp persistence
    rw [slot_boot_member listed booted, groupRecord, stored, content]
    simp only [loadMember, fails]
    rfl

/-- A facility that is seen while `set_all_parameters` holds the write gate: some of the values are
written, and then some of them are taken back. -/
inductive Passes (environment : Environment A) (transaction : Transaction A)
    (facility : Facility A) : Facility A → Prop
  | seen {normalized : List (NormalizedAssignment A)} {states : List (TransactionState A)}
      (normalizes : normalizeTransaction transaction.assignments = .ok normalized)
      (captures : facility.captureTransaction environment normalized = .ok states)
      (written undone : Nat) :
      Passes environment transaction facility
        (((facility.prepareTransactionPersistence environment states).1.writeTransactionValues
          environment (states.take written)).1.restoreTransactionValues environment
            (states.take undone))

theorem Passes.validated (settles : ∀ parameter, Settles (A.declaration parameter).normalize)
    {environment : Environment A} {transaction : Transaction A} {passed : Facility A}
    (passes : Passes environment transaction facility passed) (validated : facility.Validated) :
    passed.Validated := by
  cases passes with
  | @seen normalized states normalizes captured written undone =>
    have captures := captures_of_capture normalizes captured
    have prepared := validated_prepareTransaction validated environment states
    generalize (facility.prepareTransactionPersistence environment states).1 = before at prepared ⊢
    have settled : ∀ state ∈ states, Settled A state.parameter state.normalized.value ∧
        Settled A state.parameter state.oldValue :=
      fun state listed => captures.settled settles validated listed
    obtain ⟨same, -⟩ | ⟨done, rest, error, split, same, -⟩ :=
      writeTransactionValues_cases environment (states.take written) before
    · rw [same]
      exact validated_restored prepared settled (take_subset _ _) (take_subset _ _) environment
    · rw [same]
      refine validated_restored prepared settled ?_ (take_subset _ _) environment
      refine Subset.trans ?_ (take_subset written states)
      rw [split]
      exact subset_append_left _ _

end Facility

/-! ### Runs -/

section

variable {start : Facility A}

theorem System.facility_capture (system : System A) (environment : Environment A)
    (parameter : A.Parameter) (force : Bool) :
    (system.capture environment parameter force).facility = system.facility := by
  unfold System.capture
  split
  · split
    · rfl
    · split
      · rfl
      · dsimp only
        split_ifs
        · rfl
        · rfl
  · rfl

theorem System.facility_readGroup (system : System A) (group : A.Group) (force : Bool) :
    (system.readGroup group force).facility = system.facility := by
  unfold System.readGroup
  dsimp only
  split_ifs
  · rfl
  · rfl

theorem System.facility_encodeGroup {system next : System A} {environment : Environment A}
    {index : Nat} (stepped : system.encodeGroup environment index = some next) :
    next.facility = system.facility := by
  unfold System.encodeGroup at stepped
  split at stepped
  · split at stepped
    · cases stepped
      rfl
    · split at stepped
      · cases stepped
        rfl
      · cases stepped
        rfl
  · exact nomatch stepped

/-- A step of the threads keeps the values settled. -/
theorem System.validated_step (settles : ∀ parameter, Settles (A.declaration parameter).normalize)
    {system next : System A} {label : SystemLabel A} (validated : system.facility.Validated)
    (stepped : (systemMachine A).step system label = some next) : next.facility.Validated := by
  cases label with
  | elapse ticks =>
    cases stepped
    exact validated
  | set environment parameter candidate noWait =>
    cases stepped
    exact (Facility.sets environment system.now parameter candidate noWait false
      system.facility).validated settles validated
  | reset environment parameter noWait =>
    cases stepped
    exact (Facility.sets environment system.now parameter _ noWait true
      system.facility).validated settles validated
  | setAll environment transaction =>
    cases stepped
    exact (Facility.setsAll environment system.now transaction system.facility).validated settles
      validated
  | scheduleFailed parameter =>
    cases stepped
    exact validated.updateSlot (validated parameter)
  | capture environment parameter force =>
    cases stepped
    rw [facility_capture]
    exact validated
  | commit environment index =>
    change system.commit environment index = some next at stepped
    unfold System.commit at stepped
    split at stepped
    · exact nomatch stepped
    · split at stepped
      · cases stepped
        exact validated
      · cases stepped
        exact validated.persistWork environment _ _
  | readGroup group force =>
    cases stepped
    rw [facility_readGroup]
    exact validated
  | encodeGroup environment index =>
    rw [facility_encodeGroup stepped]
    exact validated
  | commitGroup environment index =>
    change system.commitGroup environment index = some next at stepped
    unfold System.commitGroup at stepped
    split at stepped
    · split at stepped
      · cases stepped
        exact validated
      · cases stepped
        exact validated.persistGroupWork environment _ _ _
    · exact nomatch stepped

/-- Only validated values are visible: in every state that is reached after the boot, and also while
a transaction is written or undone, the validation leaves every value as it is, and counts it as
adjusted only when its policy is a custom one and the value does not equal itself; and after the boot
a parameter whose record was rejected has its default. -/
theorem only_validated_values_are_visible
    (equals : ∀ parameter, A.Value parameter → A.Value parameter → Bool)
    (policy : ∀ parameter, ValidationPolicy (A.Value parameter))
    (idempotent : ∀ parameter, (policy parameter).Idempotent)
    (declares : ∀ parameter,
      (A.declaration parameter).normalize = (policy parameter).normalize (equals parameter))
    {contents : A.Store → Key → Option Bytes} (booted : Facility.boot A contents = .ok start) :
    (∀ system, (systemMachine A).Reachable { facility := start } system →
      (∀ parameter, (A.declaration parameter).normalize (system.facility.slot parameter).value =
        some ⟨(system.facility.slot parameter).value,
          (policy parameter).adjusts (equals parameter) (system.facility.slot parameter).value⟩) ∧
      ∀ environment transaction passed,
        Facility.Passes environment transaction system.facility passed → ∀ parameter,
          (A.declaration parameter).normalize (passed.slot parameter).value =
            some ⟨(passed.slot parameter).value,
              (policy parameter).adjusts (equals parameter) (passed.slot parameter).value⟩) ∧
    ∀ parameter, Facility.Rejected A contents parameter →
      (start.slot parameter).value = (A.declaration parameter).defaultValue := by
  have settles : ∀ parameter, Settles (A.declaration parameter).normalize := by
    intro parameter
    have valid := (A.declaration parameter).valid_default
    rw [declares parameter] at valid ⊢
    exact ValidationPolicy.settles_normalize (idempotent parameter) valid
  have adjusts : ∀ facility : Facility A, facility.Validated → ∀ parameter,
      (A.declaration parameter).normalize (facility.slot parameter).value =
        some ⟨(facility.slot parameter).value,
          (policy parameter).adjusts (equals parameter) (facility.slot parameter).value⟩ := by
    intro facility validated parameter
    have kept := validated parameter
    rw [Facility.Settled, declares parameter] at kept
    rw [declares parameter]
    exact ValidationPolicy.adjusted_of_keeps kept
  refine ⟨fun system reached => ?_, fun parameter => Facility.value_of_rejected booted⟩
  have validated : system.facility.Validated :=
    reached.invariant (fun system => system.facility.Validated)
      (Facility.validated_boot settles booted)
      fun _ _ _ holds stepped => System.validated_step settles holds stepped
  exact ⟨adjusts _ validated, fun _ _ _ passes => adjusts _ (passes.validated settles validated)⟩

end

/-! ### The limits over a broken store -/

/-- The record of the group is not one. -/
def brokenStore (_ : Unit) (_ : Key) : Option Bytes := some [1, 2, 3]

theorem limits_start_with_their_defaults :
    ∃ start, Facility.boot System.limitsArchitecture brokenStore = .ok start ∧
      (start.slot true).value = (10 : UInt8) ∧
      ∃ system, (systemMachine System.limitsArchitecture).Reachable { facility := start } system ∧
        (system.facility.slot true).value = (100 : UInt8) ∧
        (System.limitsArchitecture.declaration true).normalize (system.facility.slot true).value =
          some ⟨(system.facility.slot true).value, false⟩ := by
  have booted : Facility.boot System.limitsArchitecture brokenStore =
      .ok (Facility.initial System.limitsArchitecture brokenStore) := by
    rfl
  have ordered : ¬ (100 : UInt8) < 0 := by decide
  have holds := only_validated_values_are_visible (A := System.limitsArchitecture)
    (fun _ left right => decide (left = right)) (fun _ => .range (0 : UInt8) 100 ordered .clamp)
    (fun _ => trivial) (fun _ => rfl) booted
  have reached := (systemMachine System.limitsArchitecture).reachable_get
    { facility := Facility.initial System.limitsArchitecture brokenStore }
    [.set {} true (200 : UInt8) false] (by decide)
  have corrupt : Facility.Rejected System.limitsArchitecture brokenStore true :=
    ⟨[1, 2, 3], rfl, .corrupt rfl⟩
  exact ⟨_, booted, holds.2 true corrupt, _, reached, by decide, (holds.1 _ reached).1 true⟩

/-! ### A value that does not equal itself -/

/-- The `==` of `float`, on the bits of the numbers. -/
def floatEquals (left right : BitVec 32) : Bool :=
  decide (Remote.Cbor.Equals Remote.Cbor.infinity32 left right)

/-- A number that starts at zero and is saved nowhere. Its custom validator accepts all numbers. -/
abbrev ratioArchitecture : Architecture where
  Parameter := Unit
  Group := Empty
  Store := Unit
  Value _ := BitVec 32
  parameters := [()]
  groups := []
  declaration _ := {
    stableId := 7
    version := 1
    defaultValue := 0
    normalize := custom floatEquals some
    codec := scalarCodec 4 BitVec.toNat (BitVec.ofNat 32)
    migrate := none
    failBoot := false
    valid_default := by decide }
  persistence _ := .volatile
  store _ := ()
  group name := name.elim
  groupStore name := name.elim
  maxEncodedRecordBytes := 512
  maxGroupRecordBytes := 1024
  mem_parameters _ := mem_singleton_self _
  nodup_parameters := nodup_singleton _
  mem_groups := System.gainArchitecture.mem_groups
  nodup_groups := nodup_nil
  stableId_injective _ _ _ _ _ := rfl
  nodup_members name := name.elim
  transactional_iff _ name := name.elim
  encoded_size_le _ _ single := nomatch single
  payload_size_le name := name.elim
  maxEncodedRecordBytes_le := System.gainArchitecture.maxEncodedRecordBytes_le
  maxGroupRecordBytes_le := System.gainArchitecture.maxGroupRecordBytes_le

/-- A NaN is set: the validator lets it through, and as it does not equal itself, its validation counts
it as adjusted. -/
theorem visible_nan_counts_as_adjusted :
    (ValidationPolicy.custom (some : BitVec 32 → Option (BitVec 32))).Idempotent ∧
    (ratioArchitecture.declaration ()).normalize =
      (ValidationPolicy.custom some).normalize floatEquals ∧
    ∃ start, Facility.boot ratioArchitecture (fun _ _ => none) = .ok start ∧
      ∃ system, (systemMachine ratioArchitecture).Reachable { facility := start } system ∧
        (ratioArchitecture.declaration ()).normalize (system.facility.slot ()).value =
          some ⟨(system.facility.slot ()).value, true⟩ := by
  have booted : Facility.boot ratioArchitecture (fun _ _ => none) =
      .ok (Facility.initial ratioArchitecture fun _ _ => none) := by
    rfl
  have reached := (systemMachine ratioArchitecture).reachable_get
    { facility := Facility.initial ratioArchitecture fun _ _ => none }
    [.set {} () (0x7fc00000 : BitVec 32) false] (by decide)
  exact ⟨fun _ _ _ => rfl, rfl, _, booted, _, reached, by decide⟩

end Solar.Parameters
