/-
This file models the state of the parameter facility: the slot of each
parameter, the state of each persistence group and what the stores hold, with
the operations of a slot and of a group state, the writing of a record and of a
group image, and the loading of both at boot.

The records a slot keeps for diagnostics (counters, the last error, the last
origin, the load outcome) are left out. What the kernel and a store answer to a
call is given by an `Environment`.
-/

import Solar.Parameters.Declaration

namespace Solar.Parameters

open Function Words

/-! ### Slots -/

inductive PersistenceState
  | volatile | clean | dirty | scheduled | failed | resetPending

/-- `ParameterSlot`. Deadlines are times of the kernel's clock. -/
structure Slot (Value : Type) where
  value : Value
  revision : UInt64 := 0
  pendingRevision : UInt64 := 0
  dirty : Bool := false
  persistence : PersistenceState
  due : Option Nat := none
  erasePending : Bool := false

/-- `PersistenceWork`. -/
structure PersistenceWork (Value : Type) where
  value : Value
  revision : UInt64
  due : Option Nat
  dirty : Bool
  erase : Bool

namespace Slot

variable {Value : Type} (slot : Slot Value)

def markDirty (revision : UInt64) (reset : Bool) (due : Option Nat) : Slot Value :=
  { slot with
    dirty := true
    pendingRevision := revision
    persistence := if reset then .resetPending else if due.isSome then .scheduled else .dirty
    due
    erasePending := reset }

def persistenceWork : PersistenceWork Value :=
  { value := slot.value
    revision := slot.pendingRevision
    due := slot.due
    dirty := slot.dirty
    erase := slot.erasePending }

def finishPersistence (revision : UInt64) : Except Status Unit → Slot Value
  | .ok _ =>
      if slot.pendingRevision = revision then
        { slot with dirty := false, persistence := .clean, due := none, erasePending := false }
      else slot
  | .error _ => { slot with persistence := .failed, due := none }

def markScheduleFailure : Slot Value := { slot with persistence := .failed, due := none }

def markPersisted (revision : UInt64) : Slot Value :=
  { slot with
    pendingRevision := revision
    persistence := .clean
    dirty := false
    due := none
    erasePending := false }

def markPersistenceFailure : Slot Value := { slot with persistence := .failed }

def nextDue : Option Nat := if slot.dirty then slot.due else none

def markLoaded (value : Value) : Slot Value :=
  { slot with
    value
    persistence := .clean
    dirty := false
    due := none
    erasePending := false }

/-- The write of a new value and of its revision. -/
def commitValue (value : Value) (revision : UInt64) : Slot Value :=
  { slot with value, revision }

end Slot

/-! ### Groups -/

structure GroupState where
  revision : UInt64 := 0
  due : Option Nat := none
  dirty : Bool := false

namespace GroupState

variable (state : GroupState)

def markDirty (due : Option Nat) : GroupState :=
  { revision := state.revision + 1, dirty := true, due }

/-- `finish`, with whether it cleared the group. -/
def finish (revision : UInt64) (success : Bool) : GroupState × Bool :=
  if success ∧ state.revision = revision then
    ({ state with dirty := false, due := none }, true)
  else if success = false then ({ state with due := none }, false)
  else (state, false)

end GroupState

/-! ### The facility -/

/-- The state of the facility and of its stores. -/
structure Facility (A : Architecture) where
  slot : (parameter : A.Parameter) → Slot (A.Value parameter)
  group : A.Group → GroupState
  stored : A.Store → Key → Option Bytes

inductive Reason
  | notReady | validationRejected | wouldBlock | invalidContext | persistenceUnavailable
  | persistenceFailed | internalInvariant

/-- What the kernel and the stores answer during one call: whether the caller may call now, and then
to taking the write gate, reading a value cell, taking the persistence gate before a record is
written, writing the record, writing a value cell, and writing it once more when a transaction is
undone. -/
structure Environment (A : Architecture) where
  entry : Except (Status × Reason) Unit := .ok ()
  writeGate : Except Status Unit := .ok ()
  read : A.Parameter → Except Status Unit := fun _ => .ok ()
  persistenceGate : Key → Except Status Unit := fun _ => .ok ()
  store : Key → Except Status Unit := fun _ => .ok ()
  write : A.Parameter → Except Status Unit := fun _ => .ok ()
  restore : A.Parameter → Except Status Unit := fun _ => .ok ()

namespace Facility

variable {A : Architecture} (facility : Facility A)

def updateSlot (parameter : A.Parameter)
    (update : Slot (A.Value parameter) → Slot (A.Value parameter)) : Facility A :=
  { facility with
    slot := Function.update facility.slot parameter (update (facility.slot parameter)) }

def updateGroup (group : A.Group) (update : GroupState → GroupState) : Facility A :=
  { facility with group := Function.update facility.group group (update (facility.group group)) }

/-- Put a record in a store, or take it out. -/
def putRecord (store : A.Store) (key : Key) (content : Option Bytes) : Facility A :=
  { facility with
    stored := update facility.stored store
      (update (facility.stored store) key content) }

section

variable (parameter : A.Parameter)
  (update : Slot (A.Value parameter) → Slot (A.Value parameter)) (group : A.Group)
  (updateState : GroupState → GroupState) (store : A.Store) (key : Key) (content : Option Bytes)

@[simp] theorem slot_updateSlot_self :
    (facility.updateSlot parameter update).slot parameter =
      update (facility.slot parameter) := update_self ..

theorem slot_updateSlot_of_ne {other : A.Parameter} (different : other ≠ parameter) :
    (facility.updateSlot parameter update).slot other = facility.slot other :=
  update_of_ne different ..

@[simp] theorem group_updateSlot :
    (facility.updateSlot parameter update).group = facility.group := rfl

@[simp] theorem stored_updateSlot :
    (facility.updateSlot parameter update).stored = facility.stored := rfl

@[simp] theorem slot_updateGroup :
    (facility.updateGroup group updateState).slot = facility.slot := rfl

@[simp] theorem group_updateGroup_self :
    (facility.updateGroup group updateState).group group =
      updateState (facility.group group) := update_self ..

theorem group_updateGroup_of_ne {other : A.Group} (different : other ≠ group) :
    (facility.updateGroup group updateState).group other = facility.group other :=
  update_of_ne different ..

@[simp] theorem stored_updateGroup :
    (facility.updateGroup group updateState).stored = facility.stored := rfl

@[simp] theorem slot_putRecord :
    (facility.putRecord store key content).slot = facility.slot := rfl

@[simp] theorem group_putRecord :
    (facility.putRecord store key content).group = facility.group := rfl

@[simp] theorem stored_putRecord_self :
    (facility.putRecord store key content).stored store key = content := by
  simp [putRecord]

theorem stored_putRecord_of_ne {otherStore : A.Store} {otherKey : Key}
    (different : (otherStore, otherKey) ≠ (store, key)) :
    (facility.putRecord store key content).stored otherStore otherKey =
      facility.stored otherStore otherKey := by
  by_cases same : otherStore = store
  · subst same
    have keys : otherKey ≠ key := fun sameKey => different (by rw [sameKey])
    simp [putRecord, keys]
  · simp [putRecord, same]

end

/-! ### Writing records -/

/-- `encode_persistent_value`. -/
def encodePersistentValue (A : Architecture) (parameter : A.Parameter)
    (value : A.Value parameter) : Except Status Bytes :=
  match (A.declaration parameter).codec.encodeFull value with
  | .error status => .error status
  | .ok payload =>
      encodeRecord (A.persistenceKey parameter) (A.declaration parameter).version payload
        A.maxEncodedRecordBytes

/-- A store's `save` or `erase`: it answers, and a granted one replaces the record as a whole. -/
def writeStore (environment : Environment A) (store : A.Store) (key : Key)
    (content : Option Bytes) : Facility A × Except Status Unit :=
  match environment.store key with
  | .error status => (facility, .error status)
  | .ok _ => (facility.putRecord store key content, .ok ())

/-- `persist_value`. -/
def persistValue (environment : Environment A) (parameter : A.Parameter)
    (value : A.Value parameter) (erase : Bool) : Facility A × Except Status Unit :=
  if erase then
    facility.writeStore environment (A.store parameter) (A.persistenceKey parameter) none
  else
    match encodePersistentValue A parameter value with
    | .error status => (facility, .error status)
    | .ok record =>
        facility.writeStore environment (A.store parameter) (A.persistenceKey parameter)
          (some record)

/-- `encode_group_payload`. -/
def encodeGroupPayload (A : Architecture)
    (provider : (parameter : A.Parameter) → Except Status (A.Value parameter)) :
    List A.Parameter → Except Status Bytes
  | [] => .ok []
  | member :: rest =>
      match provider member with
      | .error status => .error status
      | .ok value =>
          match (A.declaration member).codec.encodeFull value with
          | .error status => .error status
          | .ok bytes =>
              match encodeGroupPayload A provider rest with
              | .error status => .error status
              | .ok more => .ok (bytes ++ more)

/-- The record of a group image. -/
def encodeGroupRecord (A : Architecture) (group : A.Group) (payload : Bytes) :
    Except Status Bytes :=
  encodeRecord (A.groupKey group) (A.group group).version payload A.maxGroupRecordBytes

section

variable (environment : Environment A)

/-- The save of a group image. -/
def saveGroupPayload (group : A.Group) (payload : Bytes) : Facility A × Except Status Unit :=
  match encodeGroupRecord A group payload with
  | .error status => (facility, .error status)
  | .ok record =>
      facility.writeStore environment (A.groupStore group) (A.groupKey group) (some record)

/-- `persist_group_image`. -/
def persistGroupImage (group : A.Group)
    (provider : (parameter : A.Parameter) → Except Status (A.Value parameter)) :
    Facility A × Except Status Unit :=
  match encodeGroupPayload A provider (A.group group).members with
  | .error status => (facility, .error status)
  | .ok payload => facility.saveGroupPayload environment group payload

/-- `peek`. -/
def peek (parameter : A.Parameter) : Except Status (A.Value parameter) :=
  match environment.read parameter with
  | .error status => .error status
  | .ok _ => .ok (facility.slot parameter).value

end

/-! ### Loading -/

inductive LoadSource
  | store | migration
  deriving DecidableEq

/-- The value of a payload: decoded when the version is the declared one, migrated when it is an
older one and there is a migration. -/
def readParameterPayload (A : Architecture) (parameter : A.Parameter) (version : UInt16)
    (payload : Bytes) : Except Status (A.Value parameter × LoadSource) :=
  let declaration := A.declaration parameter
  if version = declaration.version then
    (declaration.codec.decode payload).map fun value => (value, .store)
  else
    match declaration.migrate with
    | none => .error .protocolError
    | some migrate =>
        if version < declaration.version then
          (migrate version payload).map fun value => (value, .migration)
        else .error .protocolError

/-- The part of `load_persistent_parameter` that reads a record: the value it gives the slot. -/
def readParameterRecord (A : Architecture) (parameter : A.Parameter) (record : Bytes) :
    Except Status (A.Value parameter × LoadSource) :=
  if A.maxEncodedRecordBytes < record.length then .error .messageTooLarge
  else
    match decodeRecord record with
    | .error status => .error status
    | .ok decoded =>
        if decoded.kind ≠ RecordKind.parameter.code ∨
            decoded.stableId ≠ (A.declaration parameter).stableId then .error .protocolError
        else
          match readParameterPayload A parameter decoded.version decoded.payload with
          | .error status => .error status
          | .ok (value, source) =>
              match (A.declaration parameter).normalize value with
              | none => .error .invalid
              | some normalized => .ok (normalized.value, source)

/-- What `load_persistent_parameter` does to the slot, and whether it lets the boot go on. -/
def loadSlot (A : Architecture) (parameter : A.Parameter) (content : Option Bytes)
    (slot : Slot (A.Value parameter)) : Slot (A.Value parameter) × Except Status Unit :=
  match content with
  | none => ({ slot with persistence := .clean }, .ok ())
  | some record =>
      match readParameterRecord A parameter record with
      | .error status =>
          (slot, if (A.declaration parameter).failBoot then .error status else .ok ())
      | .ok (value, .store) => (slot.markLoaded value, .ok ())
      | .ok (value, .migration) => ((slot.markLoaded value).markDirty 0 false none, .ok ())

/-- `load_persistent_parameter`. -/
def loadPersistentParameter (parameter : A.Parameter) : Facility A × Except Status Unit :=
  match A.persistence parameter with
  | .single _ =>
      let loaded := loadSlot A parameter
        (facility.stored (A.store parameter) (A.persistenceKey parameter)) (facility.slot parameter)
      (facility.updateSlot parameter fun _ => loaded.1, loaded.2)
  | _ => (facility, .ok ())

/-- The values of all parameters. A group reads its members' only. -/
abbrev Values (A : Architecture) := (parameter : A.Parameter) → A.Value parameter

/-- `decode_group_values`, of the members that are left and the bytes that are left. -/
def decodeGroupValues (A : Architecture) : List A.Parameter → Bytes → Values A →
    Except Status (Values A)
  | [], payload, values => if payload = [] then .ok values else .error .messageTooLarge
  | member :: rest, payload, values =>
      let codec := (A.declaration member).codec
      if payload.length < codec.encodedSize then .error .messageTooLarge
      else
        match codec.decode (payload.take codec.encodedSize) with
        | .error status => .error status
        | .ok value =>
            decodeGroupValues A rest (payload.drop codec.encodedSize)
              (update values member value)

/-- `normalize_group_values`. -/
def normalizeGroupValues (A : Architecture) : List A.Parameter → Values A →
    Except Status (Values A)
  | [], values => .ok values
  | member :: rest, values =>
      match (A.declaration member).normalize (values member) with
      | none => .error .invalid
      | some normalized =>
          normalizeGroupValues A rest (update values member normalized.value)

/-- `GroupValues::defaults`. -/
def defaults (A : Architecture) : Values A := fun parameter =>
  (A.declaration parameter).defaultValue

/-- The values of a group payload, as for a parameter. -/
def readGroupPayload (A : Architecture) (group : A.Group) (version : UInt16) (payload : Bytes) :
    Except Status (Values A × LoadSource) :=
  let declaration := A.group group
  if version = declaration.version then
    (decodeGroupValues A declaration.members payload (defaults A)).map
      fun values => (values, .store)
  else
    match declaration.migrate with
    | none => .error .protocolError
    | some migrate =>
        if version < declaration.version then
          (migrate version payload).map fun values => (values, .migration)
        else .error .protocolError

/-- The part of `load_persistent_group` that reads a record. -/
def readGroupRecord (A : Architecture) (group : A.Group) (record : Bytes) :
    Except Status (Values A × LoadSource) :=
  if A.maxGroupRecordBytes < record.length then .error .messageTooLarge
  else
    match decodeRecord record with
    | .error status => .error status
    | .ok decoded =>
        if decoded.kind ≠ RecordKind.group.code ∨
            decoded.stableId ≠ (A.group group).stableId then .error .protocolError
        else
          match readGroupPayload A group decoded.version decoded.payload with
          | .error status => .error status
          | .ok (values, source) =>
              match normalizeGroupValues A (A.group group).members values with
              | .error status => .error status
              | .ok normalized => .ok (normalized, source)

/-- The same update on the slot of each listed parameter. -/
def updateSlots (update : (parameter : A.Parameter) → Slot (A.Value parameter) →
    Slot (A.Value parameter)) : List A.Parameter → Facility A → Facility A
  | [], facility => facility
  | member :: rest, facility => updateSlots update rest (facility.updateSlot member (update member))

/-- `load_persistent_group`. -/
def loadPersistentGroup (group : A.Group) : Facility A × Except Status Unit :=
  let members := (A.group group).members
  match facility.stored (A.groupStore group) (A.groupKey group) with
  | none =>
      (facility.updateSlots (fun _ slot => { slot with persistence := .clean }) members, .ok ())
  | some record =>
      match readGroupRecord A group record with
      | .error status =>
          (facility, if members.any fun member => (A.declaration member).failBoot then
            .error status else .ok ())
      | .ok (values, source) =>
          let loaded := facility.updateSlots
            (fun member slot => slot.markLoaded (values member)) members
          (if source = .migration then loaded.updateGroup group (·.markDirty none) else loaded,
            .ok ())

/-- Load one item after another while the boot goes on. -/
def loadEach {Item : Type} (load : Facility A → Item → Facility A × Except Status Unit) :
    List Item → Facility A → Except Status (Facility A)
  | [], facility => .ok facility
  | item :: rest, facility =>
      match load facility item with
      | (_, .error status) => .error status
      | (loaded, .ok _) => loadEach load rest loaded

/-- The slots and groups as `init` sets them up. -/
def initial (A : Architecture) (stored : A.Store → Key → Option Bytes) : Facility A where
  slot parameter := {
    value := (A.declaration parameter).defaultValue
    persistence := if A.persistence parameter = .volatile then .volatile else .clean }
  group _ := {}
  stored

/-- `Facility::init` with `initialize_persistence`, over what the stores hold. -/
def boot (A : Architecture) (stored : A.Store → Key → Option Bytes) :
    Except Status (Facility A) :=
  match loadEach loadPersistentParameter A.parameters (initial A stored) with
  | .error status => .error status
  | .ok loaded => loadEach loadPersistentGroup A.groups loaded

end Facility

end Solar.Parameters
