/-
This file models deferred persistence: one delayable registration saves all
parameters and groups whose commit policy is deferred, each once its deadline
has passed.

Whoever changes a deferred parameter schedules the registration for the earliest
deadline there is. A run of the registration saves what is due and schedules the
next run. A flush cancels the registration first, waits for a run under way to
end, or gives up, and then saves everything by itself.

The calls of the application are taken one after another. A run of the
registration is another thread, so its saves, its rescheduling and its return
are steps between which calls can come, and a flush that waits does so across
such steps.
-/

import Solar.Execution.Delayable
import Solar.Parameters.Interleaving

namespace Solar.Parameters

open Execution Words

/-- What has a deadline: the slot of a parameter, or a group. -/
inductive Item (A : Architecture)
  | parameter (name : A.Parameter)
  | group (name : A.Group)

namespace Facility

variable {A : Architecture} (facility : Facility A)

/-! ### Deadlines -/

/-- The deadline of an item that is dirty and deferred. -/
def due : Item A → Option Nat
  | .parameter name => if A.effectiveDeferred name then (facility.slot name).nextDue else none
  | .group name =>
      if (A.group name).commit.isDeferred ∧ (facility.group name).dirty then
        (facility.group name).due
      else none

/-- All deadlines, those of the parameters first. -/
def dues : List Nat :=
  (A.parameters.map Item.parameter ++ A.groups.map Item.group).filterMap facility.due

/-! ### Saves -/

section

variable (environment : Environment A) (now : Nat)

/-- `persist_parameter_slot`. -/
def persistParameterSlot (parameter : A.Parameter) (force : Bool) :
    Facility A × Except Status Bool :=
  match A.persistence parameter with
  | .single _ =>
      match environment.writeGate with
      | .error status => (facility, .error status)
      | .ok _ =>
        match facility.peek environment parameter with
        | .error status => (facility, .error status)
        | .ok _ =>
          let work := (facility.slot parameter).persistenceWork
          if work.dirty = false ∨ (force = false ∧ work.due.any (now < ·)) then
            (facility, .ok false)
          else
            match environment.persistenceGate (A.persistenceKey parameter) with
            | .error status => (facility, .error status)
            | .ok _ =>
                let persisted := facility.persistWork environment parameter work
                (persisted.1, persisted.2.map fun _ => true)
  | _ => (facility, .ok false)

/-- `persist_group_slot`. -/
def persistGroupSlot (group : A.Group) (force : Bool) : Facility A × Except Status Bool :=
  let work := facility.group group
  if work.dirty = false ∨ (force = false ∧ work.due.any (now < ·)) then (facility, .ok false)
  else
    match environment.writeGate with
    | .error status => (facility, .error status)
    | .ok _ =>
      match encodeGroupPayload A (facility.peek environment) (A.group group).members with
      | .error status => (facility, .error status)
      | .ok payload =>
        match environment.persistenceGate (A.groupKey group) with
        | .error status => (facility, .error status)
        | .ok _ =>
            let persisted := facility.persistGroupWork environment group work.revision payload
            (persisted.1, persisted.2.map fun _ => true)

/-- The save of one record. -/
def persistItem (force : Bool) : Item A → Facility A × Except Status Bool
  | .parameter name => facility.persistParameterSlot environment now name force
  | .group name => facility.persistGroupSlot environment now name force

end

/-- The saves of several records, one after another, whatever their outcomes. Each has its own
environment. -/
def persistItems (environments : Item A → Environment A) (now : Nat) (force : Bool) :
    List (Item A) → Facility A → Facility A
  | [], facility => facility
  | item :: rest, facility =>
      persistItems environments now force rest
        (facility.persistItem (environments item) now force item).1

end Facility

namespace Architecture

variable (A : Architecture)

/-- What a run and a flush save: the parameters that are deferred by themselves, then the deferred
groups. -/
def deferredItems : List (Item A) :=
  (A.parameters.filter fun name => match A.persistence name with
    | .single commit => commit.isDeferred
    | _ => false).map Item.parameter ++
  (A.groups.filter fun name => (A.group name).commit.isDeferred).map Item.group

/-- What `save_all` saves. -/
def persistentItems : List (Item A) :=
  (A.parameters.filter fun name => match A.persistence name with
    | .single _ => true
    | _ => false).map Item.parameter ++ A.groups.map Item.group

/-- The record a parameter is saved in. -/
def recordOf (parameter : A.Parameter) : Option (Item A) :=
  match A.persistence parameter with
  | .volatile => none
  | .single _ => some (.parameter parameter)
  | .transactional group => some (.group group)

end Architecture

/-! ### The registration -/

/-- How far a run of the registration is: the records it has still to save and whether a save has
failed, or it only has to return. -/
inductive DeferredRun (A : Architecture)
  | idle
  | saving (rest : List (Item A)) (failed : Bool)
  | returning

/-- The facility with the registration, a run of it, and the flushes that wait. -/
structure DeferredSystem (A : Architecture) where
  facility : Facility A
  now : Nat := 0
  active : Bool := false
  registration : DelayableRegistration := {}
  run : DeferredRun A := .idle
  flushes : Nat := 0

inductive DeferredLabel (A : Architecture)
  | elapse (ticks : Nat)
  | activate (granted : Bool)
  | set (environment : Environment A) (parameter : A.Parameter) (candidate : A.Value parameter)
      (noWait granted : Bool)
  | reset (environment : Environment A) (parameter : A.Parameter) (noWait granted : Bool)
  | setAll (environment : Environment A) (transaction : Transaction A) (granted : Bool)
  | save (environment : Environment A) (parameter : A.Parameter)
  | saveAll (environments : Item A → Environment A)
  | flush (entry : Except Status Unit) (noWait : Bool) (environments : Item A → Environment A)
  | flushResumed (environments : Item A → Environment A)
  | flushTimeout
  | expire (granted : Bool)
  | start
  | runSave (environment : Environment A)
  | runReschedule (granted : Bool)
  | runReturn

namespace DeferredSystem

variable {A : Architecture} (system : DeferredSystem A)

/-- `schedule_deferred_persistence` and `schedule_next_deferred`, with whether they succeed. -/
def scheduleDeferredPersistence (granted : Bool) : DeferredSystem A × Bool :=
  if system.active then
    match system.facility.dues.min? with
    | none => (system, true)
    | some earliest =>
        let scheduled := system.registration.schedule granted system.now (earliest - system.now)
        ({ system with registration := scheduled.1 }, scheduled.2)
  else (system, true)

/-- Schedule after a change of these parameters, and tell them when that fails. -/
def scheduleAfter (parameters : List A.Parameter) (granted : Bool) : DeferredSystem A :=
  match system.scheduleDeferredPersistence granted with
  | (scheduled, true) => scheduled
  | (scheduled, false) =>
      { scheduled with
        facility := scheduled.facility.updateSlots (fun _ slot => slot.markScheduleFailure)
          parameters }

section

variable (environment : Environment A)

/-- `set_parameter` with its scheduling. -/
def setParameter (parameter : A.Parameter) (candidate : A.Value parameter)
    (noWait reset granted : Bool) : DeferredSystem A :=
  let outcome := system.facility.setParameter environment system.now parameter candidate noWait
    reset
  let next := { system with facility := outcome.1 }
  match outcome.2 with
  | .error _ => next
  | .ok update =>
      if A.effectiveDeferred parameter ∧ (update.changed ∨ reset) then
        next.scheduleAfter [parameter] granted
      else next

/-- The deferred parameters of a transaction. -/
def deferredParameters (transaction : Transaction A) : List A.Parameter :=
  (transaction.assignments.map (·.parameter)).filter A.effectiveDeferred

/-- `set_all_parameters` with its scheduling. -/
def setAllParameters (transaction : Transaction A) (granted : Bool) : DeferredSystem A :=
  let outcome := system.facility.setAllParameters environment system.now transaction
  let next := { system with facility := outcome.1 }
  match outcome.2 with
  | .error _ => next
  | .ok _ =>
      if deferredParameters transaction = [] then next
      else next.scheduleAfter (deferredParameters transaction) granted

/-- `save_parameter`. -/
def saveParameter (parameter : A.Parameter) : DeferredSystem A :=
  match A.recordOf parameter with
  | none => system
  | some item =>
      { system with
        facility := (system.facility.persistItem environment system.now true item).1 }

end

/-- The saves of a flush. -/
def flushItems (environments : Item A → Environment A) : DeferredSystem A :=
  { system with
    facility := system.facility.persistItems environments system.now true A.deferredItems }

/-- `flush_parameters`, as far as it goes without waiting. -/
def flushParameters (entry : Except Status Unit) (noWait : Bool)
    (environments : Item A → Environment A) : DeferredSystem A :=
  match entry with
  | .error _ => system
  | .ok _ =>
      let cancelled := { system with registration := system.registration.cancel }
      if cancelled.registration.quiescent then cancelled.flushItems environments
      else if noWait then cancelled
      else { cancelled with flushes := cancelled.flushes + 1 }

/-- One step. -/
def step : DeferredLabel A → Option (DeferredSystem A)
  | .elapse ticks => some { system with now := system.now + ticks }
  | .activate granted =>
      some (({ system with
        active := true
        registration := { system.registration with accepting := true } } :
          DeferredSystem A).scheduleDeferredPersistence granted).1
  | .set environment parameter candidate noWait granted =>
      some (system.setParameter environment parameter candidate noWait false granted)
  | .reset environment parameter noWait granted =>
      some (system.setParameter environment parameter (A.declaration parameter).defaultValue noWait
        true granted)
  | .setAll environment transaction granted =>
      some (system.setAllParameters environment transaction granted)
  | .save environment parameter => some (system.saveParameter environment parameter)
  | .saveAll environments =>
      some { system with
        facility := system.facility.persistItems environments system.now true A.persistentItems }
  | .flush entry noWait environments => some (system.flushParameters entry noWait environments)
  | .flushResumed environments =>
      if 0 < system.flushes ∧ system.registration.quiescent then
        some ({ system with flushes := system.flushes - 1 }.flushItems environments)
      else none
  | .flushTimeout =>
      if 0 < system.flushes ∧ system.registration.quiescent = false then
        some { system with flushes := system.flushes - 1 }
      else none
  | .expire granted =>
      if system.registration.work.delayed.any (· ≤ system.now) then
        some { system with registration := { system.registration with
          work := system.registration.work.expire granted } }
      else none
  | .start =>
      if system.registration.work.queued ∧ system.registration.work.running = false then
        some { system with
          registration := { system.registration with
            work := system.registration.work.start
            inFlight := true }
          run := .saving A.deferredItems false }
      else none
  | .runSave environment =>
      match system.run with
      | .saving (item :: rest) failed =>
          let persisted := system.facility.persistItem environment system.now false item
          some { system with
            facility := persisted.1
            run := .saving rest (failed || !persisted.2.isOk) }
      | _ => none
  | .runReschedule granted =>
      match system.run with
      | .saving [] failed =>
          let next := if failed then system else (system.scheduleDeferredPersistence granted).1
          some { next with
            registration := { next.registration with inFlight := false }
            run := .returning }
      | _ => none
  | .runReturn =>
      match system.run with
      | .returning =>
          some { system with
            registration := { system.registration with work := system.registration.work.finish }
            run := .idle }
      | _ => none

end DeferredSystem

/-- The step system of deferred persistence. -/
def deferredMachine (A : Architecture) :
    Transition.Machine (DeferredSystem A) (DeferredLabel A) :=
  ⟨DeferredSystem.step⟩

end Solar.Parameters
