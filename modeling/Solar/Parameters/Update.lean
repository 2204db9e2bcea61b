/-
This file models the two operations that change parameters: `set_parameter`,
which also resets, and `set_all_parameters`, up to the release of the write
gate. Both hold that gate throughout, so each is one step for every other
thread. What follows the release, the scheduling of the deferred writes and the
change handlers, is not part of them.

An operation returns the facility it leaves behind also when it fails: a record
that was written before the failing step stays written.
-/

import Solar.Parameters.Facility

namespace Solar.Parameters

/-! ### Results -/

inductive Operation
  | set | trySet | reset | transaction | save

structure Error (A : Architecture) where
  status : Status
  reason : Reason
  operation : Operation
  parameter : Option A.Parameter := none
  groupId : Option UInt64 := none

structure Update (Value : Type) where
  effectiveValue : Value
  revision : UInt64
  persistence : PersistenceState
  changed : Bool
  adjusted : Bool

/-- The reason given for a refused gate or value cell. -/
def refusalReason (status : Status) : Reason :=
  if status = .wouldBlock then .wouldBlock else .internalInvariant

variable {A : Architecture}

namespace Facility

/-! ### One parameter -/

/-- What `prepare_immediate_persistence` makes of the outcome of a save. -/
def finishPreparation (parameter : A.Parameter) (reset : Bool) :
    Facility A × Except Status Unit → Facility A × Except (Error A) Unit
  | (next, .error status) =>
      (next.updateSlot parameter (·.markPersistenceFailure), .error {
        status, reason := .persistenceFailed, operation := if reset then .reset else .save
        parameter := some parameter })
  | (next, .ok _) => (next, .ok ())

/-- `prepare_immediate_persistence`. -/
def prepareImmediatePersistence (environment : Environment A) (parameter : A.Parameter)
    (value : A.Value parameter) (reset : Bool) (facility : Facility A) :
    Facility A × Except (Error A) Unit :=
  let refused (status : Status) : Facility A × Except (Error A) Unit :=
    (facility, .error {
      status, reason := .persistenceUnavailable, operation := .save, parameter := some parameter })
  match A.persistence parameter with
  | .single .immediate =>
      match environment.persistenceGate (A.persistenceKey parameter) with
      | .error status => refused status
      | .ok _ =>
          finishPreparation parameter reset
            (facility.persistValue environment parameter value reset)
  | .transactional group =>
      if (A.group group).commit = .immediate then
        match environment.persistenceGate (A.groupKey group) with
        | .error status => refused status
        | .ok _ =>
            finishPreparation parameter reset (facility.persistGroupImage environment group
              (Function.update (facility.peek environment) parameter (.ok value)))
      else (facility, .ok ())
  | _ => (facility, .ok ())

/-- `mark_committed_persistence`. -/
def markCommittedPersistence (now : Nat) (parameter : A.Parameter) (revision : UInt64)
    (reset : Bool) (facility : Facility A) : Facility A × PersistenceState :=
  match A.persistence parameter with
  | .volatile => (facility, .volatile)
  | .single .immediate => (facility.updateSlot parameter (·.markPersisted revision), .clean)
  | .single (.deferred delay) =>
      (facility.updateSlot parameter (·.markDirty revision reset (some (now + delay))),
        if reset then .resetPending else .scheduled)
  | .single .manual =>
      (facility.updateSlot parameter (·.markDirty revision reset none),
        if reset then .resetPending else .dirty)
  | .transactional group =>
      match (A.group group).commit with
      | .immediate => (facility.updateSlot parameter (·.markPersisted revision), .clean)
      | .deferred delay =>
          ((facility.updateSlot parameter (·.markDirty revision reset (some (now + delay)))).updateGroup
            group (·.markDirty (some (now + delay))),
            if reset then .resetPending else .scheduled)
      | .manual =>
          ((facility.updateSlot parameter (·.markDirty revision reset none)).updateGroup group
            (·.markDirty none), if reset then .resetPending else .dirty)

/-- `set_parameter`. -/
def setParameter (environment : Environment A) (now : Nat) (parameter : A.Parameter)
    (candidate : A.Value parameter) (noWait reset : Bool) (facility : Facility A) :
    Facility A × Except (Error A) (Update (A.Value parameter)) :=
  let operation : Operation := if reset then .reset else if noWait then .trySet else .set
  let failure (status : Status) (reason : Reason) : Except (Error A) (Update (A.Value parameter)) :=
    .error { status, reason, operation, parameter := some parameter }
  match environment.entry with
  | .error (status, reason) => (facility, failure status reason)
  | .ok _ =>
    match (A.declaration parameter).normalize candidate with
    | none => (facility, failure .invalid .validationRejected)
    | some normalized =>
      match environment.writeGate with
      | .error status => (facility, failure status (refusalReason status))
      | .ok _ =>
        match facility.peek environment parameter with
        | .error status => (facility, failure status (refusalReason status))
        | .ok old =>
          let before := (facility.slot parameter).revision
          if old = normalized.value then
            if reset then
              match facility.prepareImmediatePersistence environment parameter normalized.value
                  true with
              | (prepared, .error error) => (prepared, .error error)
              | (prepared, .ok _) =>
                  let committed := prepared.markCommittedPersistence now parameter before true
                  (committed.1, .ok {
                    effectiveValue := normalized.value
                    revision := before
                    persistence := committed.2
                    changed := false
                    adjusted := normalized.adjusted })
            else
              (facility, .ok {
                effectiveValue := normalized.value
                revision := before
                persistence := (facility.slot parameter).persistence
                changed := false
                adjusted := normalized.adjusted })
          else
            match facility.prepareImmediatePersistence environment parameter normalized.value
                reset with
            | (prepared, .error error) => (prepared, .error error)
            | (prepared, .ok _) =>
                match environment.write parameter with
                | .error status => (prepared, failure status .internalInvariant)
                | .ok _ =>
                    let written := prepared.updateSlot parameter
                      (·.commitValue normalized.value (before + 1))
                    let committed :=
                      written.markCommittedPersistence now parameter (before + 1) reset
                    (committed.1, .ok {
                      effectiveValue := normalized.value
                      revision := before + 1
                      persistence := committed.2
                      changed := true
                      adjusted := normalized.adjusted })

/-! ### Transactions -/

end Facility

structure Assignment (A : Architecture) where
  parameter : A.Parameter
  value : A.Value parameter

/-- The assignments of one `set_all`, with what its compile-time checks ask for. -/
structure Transaction (A : Architecture) where
  assignments : List (Assignment A)
  distinct : (assignments.map (·.parameter)).Nodup
  durable : assignments.length = 1 ∨
    ∀ assignment ∈ assignments, A.persistence assignment.parameter ≠ .single .immediate

/-- An assignment with its normalized value. -/
structure NormalizedAssignment (A : Architecture) where
  parameter : A.Parameter
  normalized : Normalized (A.Value parameter)

/-- `TransactionState`. Of the record before the transaction, it keeps the revision. -/
structure TransactionState (A : Architecture) where
  parameter : A.Parameter
  normalized : Normalized (A.Value parameter)
  oldValue : A.Value parameter
  before : UInt64
  changed : Bool

structure TransactionUpdate where
  changed : Nat
  adjusted : Nat

namespace Facility

/-- `normalize_transaction`. -/
def normalizeTransaction : List (Assignment A) →
    Except (Error A) (List (NormalizedAssignment A))
  | [] => .ok []
  | assignment :: rest =>
      match (A.declaration assignment.parameter).normalize assignment.value with
      | none => .error {
          status := .invalid, reason := .validationRejected, operation := .transaction
          parameter := some assignment.parameter }
      | some normalized =>
          match normalizeTransaction rest with
          | .error error => .error error
          | .ok more => .ok (⟨assignment.parameter, normalized⟩ :: more)

/-- `capture_transaction`. -/
def captureTransaction (environment : Environment A) (facility : Facility A) :
    List (NormalizedAssignment A) → Except (Error A) (List (TransactionState A))
  | [] => .ok []
  | assignment :: rest =>
      match facility.peek environment assignment.parameter with
      | .error status => .error {
          status, reason := refusalReason status, operation := .transaction
          parameter := some assignment.parameter }
      | .ok old =>
          match captureTransaction environment facility rest with
          | .error error => .error error
          | .ok more =>
              .ok ({
                parameter := assignment.parameter
                normalized := assignment.normalized
                oldValue := old
                before := (facility.slot assignment.parameter).revision
                changed := decide (old ≠ assignment.normalized.value) } :: more)

/-- The first half of `prepare_transaction_persistence`: parameters with a record of their own. -/
def prepareTransactionParameters (environment : Environment A) :
    List (TransactionState A) → Facility A → Facility A × Except (Error A) Unit
  | [], facility => (facility, .ok ())
  | state :: rest, facility =>
      if A.persistence state.parameter = .single .immediate ∧ state.changed then
        match facility.prepareImmediatePersistence environment state.parameter
            state.normalized.value false with
        | (prepared, .error error) => (prepared, .error error)
        | (prepared, .ok _) => prepareTransactionParameters environment rest prepared
      else prepareTransactionParameters environment rest facility

section

variable (environment : Environment A)

section

variable (states : List (TransactionState A))

/-- The values a group image of the transaction is made of. -/
def transactionProvider (facility : Facility A) (parameter : A.Parameter) :
    Except Status (A.Value parameter) :=
  states.foldr (fun state provider => Function.update provider state.parameter
    (.ok state.normalized.value)) (facility.peek environment) parameter

/-- The group is written at once and has an assigned member. -/
def touchesGroup (group : A.Group) : Bool :=
  (A.group group).commit = .immediate &&
    states.any fun state => state.parameter ∈ (A.group group).members

/-- The second half of `prepare_transaction_persistence`: the groups in their order. -/
def prepareTransactionGroups (environment : Environment A) (states : List (TransactionState A)) :
    List A.Group → Facility A → Facility A × Except (Error A) Unit
  | [], facility => (facility, .ok ())
  | group :: rest, facility =>
      if touchesGroup states group then
        match environment.persistenceGate (A.groupKey group) with
        | .error status => (facility, .error {
            status, reason := .persistenceUnavailable, operation := .transaction
            groupId := some (A.group group).stableId })
        | .ok _ =>
            match facility.persistGroupImage environment group
                (facility.transactionProvider environment states) with
            | (prepared, .error status) => (prepared, .error {
                status, reason := .persistenceFailed, operation := .transaction
                groupId := some (A.group group).stableId })
            | (prepared, .ok _) => prepareTransactionGroups environment states rest prepared
      else prepareTransactionGroups environment states rest facility

/-- `prepare_transaction_persistence`. -/
def prepareTransactionPersistence (facility : Facility A) : Facility A × Except (Error A) Unit :=
  match facility.prepareTransactionParameters environment states with
  | (prepared, .error error) => (prepared, .error error)
  | (prepared, .ok _) => prepared.prepareTransactionGroups environment states A.groups

/-- `write_transaction_values`. -/
def writeTransactionValues (environment : Environment A) :
    List (TransactionState A) → Facility A → Facility A × Except (Error A) Unit
  | [], facility => (facility, .ok ())
  | state :: rest, facility =>
      if state.changed then
        match environment.write state.parameter with
        | .error status => (facility, .error {
            status, reason := .internalInvariant, operation := .transaction
            parameter := some state.parameter })
        | .ok _ =>
            writeTransactionValues environment rest (facility.updateSlot state.parameter
                fun slot => { slot with value := state.normalized.value })
      else writeTransactionValues environment rest facility

/-- `restore_transaction_values`. The outcome of the writes is not looked at. -/
def restoreTransactionValues (facility : Facility A) : Facility A :=
  states.foldl (fun facility state =>
    if state.changed ∧ (environment.restore state.parameter).isOk then
      facility.updateSlot state.parameter fun slot => { slot with value := state.oldValue }
    else facility) facility

/-- `update_transaction_records`. -/
def updateTransactionRecords (facility : Facility A) : Facility A :=
  states.foldl (fun facility state =>
    if state.changed then
      facility.updateSlot state.parameter (·.commitValue state.normalized.value (state.before + 1))
    else facility) facility

end

/-- `mark_transaction_persistence`. -/
def markTransactionPersistence (now : Nat) (states : List (TransactionState A))
    (facility : Facility A) : Facility A :=
  states.foldl (fun facility state =>
    if state.changed then
      (facility.markCommittedPersistence now state.parameter (state.before + 1) false).1
    else facility) facility

/-- `set_all_parameters`. -/
def setAllParameters (now : Nat) (transaction : Transaction A) (facility : Facility A) :
    Facility A × Except (Error A) TransactionUpdate :=
  match environment.entry with
  | .error (status, reason) =>
      (facility, .error { status, reason, operation := .transaction })
  | .ok _ =>
    match normalizeTransaction transaction.assignments with
    | .error error => (facility, .error error)
    | .ok normalized =>
      match environment.writeGate with
      | .error status => (facility, .error {
          status, reason := refusalReason status, operation := .transaction })
      | .ok _ =>
        match facility.captureTransaction environment normalized with
        | .error error => (facility, .error error)
        | .ok states =>
          match facility.prepareTransactionPersistence environment states with
          | (prepared, .error error) => (prepared, .error error)
          | (prepared, .ok _) =>
            match prepared.writeTransactionValues environment states with
            | (written, .error error) =>
                (written.restoreTransactionValues environment states, .error error)
            | (written, .ok _) =>
                ((written.updateTransactionRecords states).markTransactionPersistence now states, .ok {
                    changed := states.countP (·.changed)
                    adjusted := states.countP (·.normalized.adjusted) })

end

end Facility

end Solar.Parameters
