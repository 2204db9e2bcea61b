/-
This file says what the operations of the facility can do, each once: how the
write of a record, the preparation of an immediate write, a set and a
transaction can end, and what they leave alone. The later files take an
operation apart by these results and do not unfold it.
-/

import Solar.Parameters.Interleaving

namespace Solar.Parameters

open Words

namespace Facility

variable {A : Architecture}

/-! ### Writing a record -/

/-- What `persist_value` puts in the store. -/
def parameterImage (A : Architecture) (parameter : A.Parameter) (value : A.Value parameter)
    (erase : Bool) : Except Status (Option Bytes) :=
  if erase then .ok none else (encodePersistentValue A parameter value).map some

section

variable (facility : Facility A)

/-- The facility with the record of a parameter replaced. -/
def putParameter (parameter : A.Parameter) (content : Option Bytes) : Facility A :=
  facility.putRecord (A.store parameter) (A.persistenceKey parameter) content

/-- The facility with the record of a group replaced. -/
def putGroup (group : A.Group) (record : Bytes) : Facility A :=
  facility.putRecord (A.groupStore group) (A.groupKey group) (some record)

/-- The record of a parameter. -/
def parameterRecord (parameter : A.Parameter) : Option Bytes :=
  facility.stored (A.store parameter) (A.persistenceKey parameter)

/-- The record of a group. -/
def groupRecord (group : A.Group) : Option Bytes :=
  facility.stored (A.groupStore group) (A.groupKey group)

end

variable (facility : Facility A) {environment : Environment A} {parameter : A.Parameter}
  {value : A.Value parameter}

section

variable (environment)

theorem writeStore_cases (store : A.Store) (key : Key) (content : Option Bytes) :
    (∃ status, facility.writeStore environment store key content = (facility, .error status)) ∨
      ((environment.store key).isOk = true ∧ facility.writeStore environment store key content =
        (facility.putRecord store key content, .ok ())) := by
  unfold writeStore
  cases environment.store key with
  | error status => exact .inl ⟨status, rfl⟩
  | ok _ => exact .inr ⟨rfl, rfl⟩

theorem persistValue_cases (parameter : A.Parameter) (value : A.Value parameter) (erase : Bool) :
    (∃ status, facility.persistValue environment parameter value erase =
        (facility, .error status)) ∨
      (∃ content, (environment.store (A.persistenceKey parameter)).isOk = true ∧
        parameterImage A parameter value erase = .ok content ∧
        facility.persistValue environment parameter value erase =
          (facility.putParameter parameter content, .ok ())) := by
  cases erase with
  | true =>
    obtain refused | ⟨granted, saved⟩ := facility.writeStore_cases environment (A.store parameter)
      (A.persistenceKey parameter) none
    · exact .inl refused
    · exact .inr ⟨none, granted, rfl, saved⟩
  | false =>
    cases encoded : encodePersistentValue A parameter value with
    | error status =>
      refine .inl ⟨status, ?_⟩
      simp [persistValue, encoded]
    | ok record =>
      have image : parameterImage A parameter value false = .ok (some record) := by
        simp [parameterImage, encoded, Except.map]
      have same : facility.persistValue environment parameter value false =
          facility.writeStore environment (A.store parameter) (A.persistenceKey parameter)
            (some record) := by
        simp [persistValue, encoded]
      rw [same]
      obtain refused | ⟨granted, saved⟩ := facility.writeStore_cases environment
        (A.store parameter) (A.persistenceKey parameter) (some record)
      · exact .inl refused
      · exact .inr ⟨some record, granted, image, saved⟩

theorem saveGroupPayload_cases (group : A.Group) (payload : Bytes) :
    (∃ status, facility.saveGroupPayload environment group payload = (facility, .error status)) ∨
      (∃ record, (environment.store (A.groupKey group)).isOk = true ∧
        encodeGroupRecord A group payload = .ok record ∧
        facility.saveGroupPayload environment group payload =
          (facility.putGroup group record, .ok ())) := by
  unfold saveGroupPayload
  cases encodeGroupRecord A group payload with
  | error status => exact .inl ⟨status, rfl⟩
  | ok record =>
    obtain refused | ⟨granted, saved⟩ := facility.writeStore_cases environment
      (A.groupStore group) (A.groupKey group) (some record)
    · exact .inl refused
    · exact .inr ⟨record, granted, rfl, saved⟩

theorem persistGroupImage_cases (group : A.Group)
    (provider : (parameter : A.Parameter) → Except Status (A.Value parameter)) :
    (∃ status, facility.persistGroupImage environment group provider = (facility, .error status)) ∨
      (∃ payload record, (environment.store (A.groupKey group)).isOk = true ∧
        encodeGroupPayload A provider (A.group group).members = .ok payload ∧
        encodeGroupRecord A group payload = .ok record ∧
        facility.persistGroupImage environment group provider =
          (facility.putGroup group record, .ok ())) := by
  unfold persistGroupImage
  cases encodeGroupPayload A provider (A.group group).members with
  | error status => exact .inl ⟨status, rfl⟩
  | ok payload =>
    obtain refused | ⟨record, granted, encoded, saved⟩ :=
      facility.saveGroupPayload_cases environment group payload
    · exact .inl refused
    · exact .inr ⟨payload, record, granted, rfl, encoded, saved⟩

end

/-! ### Preparing an immediate write -/

/-- How `prepare_immediate_persistence` can end. -/
inductive Prepares (environment : Environment A) (parameter : A.Parameter)
    (value : A.Value parameter) (reset : Bool) (facility : Facility A) :
    Facility A × Except (Error A) Unit → Prop
  | refused (error : Error A) : Prepares environment parameter value reset facility
      (facility, .error error)
  | failed (error : Error A) : Prepares environment parameter value reset facility
      (facility.updateSlot parameter (·.markPersistenceFailure), .error error)
  | later (notAtOnce : A.commit parameter ≠ some .immediate) :
      Prepares environment parameter value reset facility (facility, .ok ())
  | own {content : Option Bytes} (single : A.persistence parameter = .single .immediate)
      (image : parameterImage A parameter value reset = .ok content) :
      Prepares environment parameter value reset facility
        (facility.putParameter parameter content, .ok ())
  | shared {group : A.Group} {payload record : Bytes}
      (transactional : A.persistence parameter = .transactional group)
      (immediate : (A.group group).commit = .immediate)
      (image : encodeGroupPayload A (Function.update (facility.peek environment) parameter
        (.ok value)) (A.group group).members = .ok payload)
      (encoded : encodeGroupRecord A group payload = .ok record) :
      Prepares environment parameter value reset facility (facility.putGroup group record, .ok ())

theorem prepares (environment : Environment A) (parameter : A.Parameter)
    (value : A.Value parameter) (reset : Bool) (facility : Facility A) :
    Prepares environment parameter value reset facility
      (facility.prepareImmediatePersistence environment parameter value reset) := by
  cases persistence : A.persistence parameter with
  | volatile =>
    simp only [prepareImmediatePersistence, persistence]
    exact .later (by simp [Architecture.commit, persistence])
  | single commit =>
    by_cases atOnce : commit = .immediate
    · subst atOnce
      simp only [prepareImmediatePersistence, persistence]
      cases environment.persistenceGate (A.persistenceKey parameter) with
      | error status => exact .refused _
      | ok _ =>
        obtain ⟨status, failed⟩ | ⟨content, _, image, saved⟩ :=
          facility.persistValue_cases environment parameter value reset
        · rw [failed]
          exact .failed _
        · rw [saved]
          exact .own persistence image
    · have same : facility.prepareImmediatePersistence environment parameter value reset =
          (facility, .ok ()) := by
        unfold prepareImmediatePersistence
        rw [persistence]
        cases commit with
        | immediate => exact absurd rfl atOnce
        | _ => rfl
      rw [same]
      exact .later (by simpa [Architecture.commit, persistence] using atOnce)
  | transactional group =>
    simp only [prepareImmediatePersistence, persistence]
    split_ifs with immediate
    · cases environment.persistenceGate (A.groupKey group) with
      | error status => exact .refused _
      | ok _ =>
        obtain ⟨status, failed⟩ | ⟨payload, record, _, image, encoded, saved⟩ :=
          facility.persistGroupImage_cases environment group
            (Function.update (facility.peek environment) parameter (.ok value))
        · rw [failed]
          exact .failed _
        · rw [saved]
          exact .shared persistence immediate image encoded
    · exact .later (by simpa [Architecture.commit, persistence] using immediate)

variable {facility prepared : Facility A}

theorem Prepares.eq_of_error {reset : Bool} {error : Error A}
    (ended : Prepares environment parameter value reset facility (prepared, .error error)) :
    prepared = facility ∨ prepared = facility.updateSlot parameter (·.markPersistenceFailure) := by
  cases ended with
  | refused => exact .inl rfl
  | failed => exact .inr rfl

theorem Prepares.slot_of_ok {reset : Bool}
    (ended : Prepares environment parameter value reset facility (prepared, .ok ())) :
    prepared.slot = facility.slot := by
  cases ended <;> rfl

/-! ### Sets and resets -/

/-- What `mark_committed_persistence` does to the slot. -/
def commitSlot {Value : Type} (commit : Option Commit) (now : Nat) (revision : UInt64)
    (reset : Bool) (slot : Slot Value) : Slot Value :=
  match commit with
  | none => slot
  | some .immediate => slot.markPersisted revision
  | some (.deferred delay) => slot.markDirty revision reset (some (now + delay))
  | some .manual => slot.markDirty revision reset none

/-- What `mark_committed_persistence` does to the group of the parameter. -/
def commitGroup (commit : Commit) (now : Nat) (state : GroupState) : GroupState :=
  match commit with
  | .immediate => state
  | .deferred delay => state.markDirty (some (now + delay))
  | .manual => state.markDirty none

section

variable (facility : Facility A) (now : Nat) (parameter : A.Parameter) (revision : UInt64)
  (reset : Bool)

theorem slot_markCommitted_self :
    (facility.markCommittedPersistence now parameter revision reset).1.slot parameter =
      commitSlot (A.commit parameter) now revision reset (facility.slot parameter) := by
  unfold markCommittedPersistence Architecture.commit
  cases A.persistence parameter with
  | volatile => rfl
  | single commit => cases commit <;> simp [commitSlot]
  | transactional group => cases commits : (A.group group).commit <;> simp [commits, commitSlot]

theorem slot_markCommitted_of_ne {other : A.Parameter} (different : other ≠ parameter) :
    (facility.markCommittedPersistence now parameter revision reset).1.slot other =
      facility.slot other := by
  unfold markCommittedPersistence
  cases A.persistence parameter with
  | volatile => rfl
  | single commit => cases commit <;> simp [slot_updateSlot_of_ne _ _ _ different]
  | transactional group =>
    cases commits : (A.group group).commit <;>
      simp [commits, slot_updateSlot_of_ne _ _ _ different]

@[simp] theorem stored_markCommitted :
    (facility.markCommittedPersistence now parameter revision reset).1.stored =
      facility.stored := by
  unfold markCommittedPersistence
  cases A.persistence parameter with
  | volatile => rfl
  | single commit => cases commit <;> simp
  | transactional group => cases commits : (A.group group).commit <;> simp [commits]

theorem group_markCommitted_self {group : A.Group}
    (transactional : A.persistence parameter = .transactional group) :
    (facility.markCommittedPersistence now parameter revision reset).1.group group =
      commitGroup (A.group group).commit now (facility.group group) := by
  unfold markCommittedPersistence
  cases commits : (A.group group).commit <;> simp [transactional, commits, commitGroup]

theorem group_markCommitted_of_ne {group : A.Group}
    (different : A.persistence parameter ≠ .transactional group) :
    (facility.markCommittedPersistence now parameter revision reset).1.group group =
      facility.group group := by
  unfold markCommittedPersistence
  cases persistence : A.persistence parameter with
  | volatile => rfl
  | single commit => cases commit <;> simp
  | transactional other =>
    have apart : group ≠ other := fun same => different (by rw [persistence, same])
    cases commits : (A.group other).commit <;> simp [commits, group_updateGroup_of_ne _ _ _ apart]

end

/-- How `set_parameter` can leave the facility, and what it returns. -/
inductive Sets (environment : Environment A) (now : Nat) (parameter : A.Parameter)
    (candidate : A.Value parameter) (reset : Bool) (facility : Facility A) :
    Facility A → Except (Error A) (Update (A.Value parameter)) → Prop
  | unchanged {result} (settled : ∀ update, result = .ok update →
        update.changed = false ∧ reset = false) :
      Sets environment now parameter candidate reset facility facility result
  | failed {error} : Sets environment now parameter candidate reset facility
      (facility.updateSlot parameter (·.markPersistenceFailure)) (.error error)
  | unwritten {normalized : Normalized (A.Value parameter)} {prepared : Facility A}
      (accepted : (A.declaration parameter).normalize candidate = some normalized)
      (changes : (facility.slot parameter).value ≠ normalized.value)
      (prepares : Prepares environment parameter normalized.value reset facility (prepared, .ok ()))
      (refused : (environment.write parameter).isOk = false) {error} :
      Sets environment now parameter candidate reset facility prepared (.error error)
  | marked {normalized : Normalized (A.Value parameter)} {prepared : Facility A}
      (accepted : (A.declaration parameter).normalize candidate = some normalized)
      (same : (facility.slot parameter).value = normalized.value) (resets : reset = true)
      (prepares : Prepares environment parameter normalized.value true facility
        (prepared, .ok ())) {update} (unchanged : update.changed = false) :
      Sets environment now parameter candidate reset facility
        (prepared.markCommittedPersistence now parameter (facility.slot parameter).revision true).1
        (.ok update)
  | committed {normalized : Normalized (A.Value parameter)} {prepared : Facility A}
      (accepted : (A.declaration parameter).normalize candidate = some normalized)
      (changes : (facility.slot parameter).value ≠ normalized.value)
      (prepares : Prepares environment parameter normalized.value reset facility (prepared, .ok ()))
      (granted : (environment.write parameter).isOk = true) {update}
      (changed : update.changed = true) (value : update.effectiveValue = normalized.value)
      (revision : update.revision = (facility.slot parameter).revision + 1) :
      Sets environment now parameter candidate reset facility
        ((prepared.updateSlot parameter (·.commitValue normalized.value
          ((facility.slot parameter).revision + 1))).markCommittedPersistence now parameter
            ((facility.slot parameter).revision + 1) reset).1 (.ok update)

theorem peek_eq_ok (read : facility.peek environment parameter = .ok value) :
    (facility.slot parameter).value = value := by
  unfold peek at read
  split at read
  · exact nomatch read
  · exact Except.ok.inj read

theorem sets (environment : Environment A) (now : Nat) (parameter : A.Parameter)
    (candidate : A.Value parameter) (noWait reset : Bool) (facility : Facility A) :
    Sets environment now parameter candidate reset facility
      (facility.setParameter environment now parameter candidate noWait reset).1
      (facility.setParameter environment now parameter candidate noWait reset).2 := by
  unfold setParameter
  cases environment.entry with
  | error refusal => exact .unchanged nofun
  | ok _ =>
  cases accepted : (A.declaration parameter).normalize candidate with
  | none => exact .unchanged nofun
  | some normalized =>
  cases environment.writeGate with
  | error status => exact .unchanged nofun
  | ok _ =>
  cases read : facility.peek environment parameter with
  | error status => exact .unchanged nofun
  | ok old =>
  obtain rfl := peek_eq_ok read
  by_cases same : (facility.slot parameter).value = normalized.value
  · by_cases resets : reset = true
    · simp only [if_pos same, if_pos resets]
      have ended := prepares environment parameter normalized.value true facility
      generalize facility.prepareImmediatePersistence environment parameter normalized.value true =
        outcome at ended ⊢
      obtain ⟨prepared, _ | _⟩ := outcome
      · obtain left | left := ended.eq_of_error
        · rw [left]
          exact .unchanged nofun
        · rw [left]
          exact .failed
      · exact .marked accepted same resets ended rfl
    · simp only [if_pos same, if_neg resets]
      refine .unchanged fun update ended => ?_
      rw [← Except.ok.inj ended]
      exact ⟨rfl, Bool.eq_false_iff.mpr resets⟩
  · simp only [if_neg same]
    have ended := prepares environment parameter normalized.value reset facility
    generalize facility.prepareImmediatePersistence environment parameter normalized.value reset =
      outcome at ended ⊢
    obtain ⟨prepared, _ | _⟩ := outcome
    · obtain left | left := ended.eq_of_error
      · rw [left]
        exact .unchanged nofun
      · rw [left]
        exact .failed
    · cases written : environment.write parameter with
      | error status => exact .unwritten accepted same ended (by rw [written]; rfl)
      | ok _ => exact .committed accepted same ended (by rw [written]; rfl) rfl rfl rfl

end Facility

end Solar.Parameters
