/-
This file models the threads that change and persist parameters as a step
system. A step is what one thread does under one lock: a set, a reset or a
transaction under the write gate, the two halves of `persist_parameter_slot`
(capture under the write gate, save and finish under the persistence gate), and
the three parts of `persist_group_slot`. A save, a save of everything, a flush
and a deferred run are made of these halves and parts. Works that are captured
and not yet finished wait in the state, each with the thread that captured it.
-/

import Solar.Library.Transition
import Solar.Parameters.Update

namespace Solar.Parameters

open Words

variable {A : Architecture}

namespace Facility

/-! ### Persisting a slot -/

section

variable (environment : Environment A)

/-- The second half of `persist_parameter_slot`, once the persistence gate is taken. -/
def persistWork (parameter : A.Parameter) (work : PersistenceWork (A.Value parameter))
    (facility : Facility A) : Facility A × Except Status Unit :=
  let persisted := facility.persistValue environment parameter work.value work.erase
  (persisted.1.updateSlot parameter (·.finishPersistence work.revision persisted.2), persisted.2)

/-- What `persist_group_slot` does to a member after the save. -/
def finishMember (persisted : Except Status Unit) (cleared : Bool) (member : A.Parameter)
    (slot : Slot (A.Value member)) : Slot (A.Value member) :=
  match environment.read member with
  | .error _ => slot
  | .ok _ =>
      if persisted.isOk = false ∨ cleared then
        slot.finishPersistence slot.pendingRevision persisted
      else slot

/-- The last part of `persist_group_slot`, once the persistence gate is taken. -/
def persistGroupWork (group : A.Group) (revision : UInt64) (payload : Bytes)
    (facility : Facility A) : Facility A × Except Status Unit :=
  let persisted := facility.saveGroupPayload environment group payload
  let cleared := ((persisted.1.group group).finish revision persisted.2.isOk).2
  let finished := persisted.1.updateGroup group (·.finish revision persisted.2.isOk |>.1)
  (finished.updateSlots (finishMember environment persisted.2 cleared) (A.group group).members,
    persisted.2)

end

end Facility

/-! ### Threads -/

/-- A work of a thread between the two halves of `persist_parameter_slot`. -/
structure CapturedWork (A : Architecture) where
  parameter : A.Parameter
  work : PersistenceWork (A.Value parameter)

/-- A work of a thread in `persist_group_slot`: it has read the group's revision, and from the
second part on it has the payload. -/
structure GroupWork (A : Architecture) where
  group : A.Group
  revision : UInt64
  payload : Option Bytes := none

/-- The facility, the time, and the works under way. -/
structure System (A : Architecture) where
  facility : Facility A
  now : Nat := 0
  works : List (CapturedWork A) := []
  groupWorks : List (GroupWork A) := []

inductive SystemLabel (A : Architecture)
  | elapse (ticks : Nat)
  | set (environment : Environment A) (parameter : A.Parameter) (candidate : A.Value parameter)
      (noWait : Bool)
  | reset (environment : Environment A) (parameter : A.Parameter) (noWait : Bool)
  | setAll (environment : Environment A) (transaction : Transaction A)
  | scheduleFailed (parameter : A.Parameter)
  | capture (environment : Environment A) (parameter : A.Parameter) (force : Bool)
  | commit (environment : Environment A) (work : Nat)
  | readGroup (group : A.Group) (force : Bool)
  | encodeGroup (environment : Environment A) (work : Nat)
  | commitGroup (environment : Environment A) (work : Nat)

namespace System

variable (system : System A)

/-- A work waits for its time: the source asks whether its deadline is set and has not passed. -/
def isEarly (due : Option Nat) : Bool := due.any fun deadline => system.now < deadline

section

variable (environment : Environment A)

/-- The first half of `persist_parameter_slot`. -/
def capture (parameter : A.Parameter) (force : Bool) : System A :=
  match A.persistence parameter with
  | .single _ =>
      match environment.writeGate with
      | .error _ => system
      | .ok _ =>
        match system.facility.peek environment parameter with
        | .error _ => system
        | .ok _ =>
          let work := (system.facility.slot parameter).persistenceWork
          if work.dirty = false ∨ (force = false ∧ system.isEarly work.due) then system
          else { system with works := system.works ++ [⟨parameter, work⟩] }
  | _ => system

/-- The second half of `persist_parameter_slot`, of one work under way. -/
def commit (index : Nat) : Option (System A) :=
  match system.works[index]? with
  | none => none
  | some captured =>
      match environment.persistenceGate (A.persistenceKey captured.parameter) with
      | .error _ => some { system with works := system.works.eraseIdx index }
      | .ok _ =>
          some { system with
            works := system.works.eraseIdx index
            facility := (system.facility.persistWork environment captured.parameter
              captured.work).1 }

/-- The first part of `persist_group_slot`. -/
def readGroup (group : A.Group) (force : Bool) : System A :=
  let work := system.facility.group group
  if work.dirty = false ∨ (force = false ∧ system.isEarly work.due) then system
  else { system with groupWorks := system.groupWorks ++ [⟨group, work.revision, none⟩] }

/-- The second part of `persist_group_slot`. -/
def encodeGroup (index : Nat) : Option (System A) :=
  match system.groupWorks[index]? with
  | some ⟨group, revision, none⟩ =>
      let dropped := { system with groupWorks := system.groupWorks.eraseIdx index }
      match environment.writeGate with
      | .error _ => some dropped
      | .ok _ =>
        match Facility.encodeGroupPayload A (system.facility.peek environment)
            (A.group group).members with
        | .error _ => some dropped
        | .ok payload =>
            some { system with
              groupWorks := system.groupWorks.set index ⟨group, revision, some payload⟩ }
  | _ => none

/-- The last part of `persist_group_slot`. -/
def commitGroup (index : Nat) : Option (System A) :=
  match system.groupWorks[index]? with
  | some ⟨group, revision, some payload⟩ =>
      match environment.persistenceGate (A.groupKey group) with
      | .error _ => some { system with groupWorks := system.groupWorks.eraseIdx index }
      | .ok _ =>
          some { system with
            groupWorks := system.groupWorks.eraseIdx index
            facility := (system.facility.persistGroupWork environment group revision payload).1 }
  | _ => none

end

/-- One step of the system. The failure to schedule a deferred write is reported to the slot after
the write gate is released, at any later time. -/
def step : SystemLabel A → Option (System A)
  | .elapse ticks => some { system with now := system.now + ticks }
  | .set environment parameter candidate noWait =>
      some { system with facility := (system.facility.setParameter environment system.now parameter
        candidate noWait false).1 }
  | .reset environment parameter noWait =>
      some { system with facility := (system.facility.setParameter environment system.now parameter
        (A.declaration parameter).defaultValue noWait true).1 }
  | .setAll environment transaction =>
      some { system with facility := (system.facility.setAllParameters environment system.now
        transaction).1 }
  | .scheduleFailed parameter =>
      some { system with facility := system.facility.updateSlot parameter (·.markScheduleFailure) }
  | .capture environment parameter force => some (system.capture environment parameter force)
  | .commit environment work => system.commit environment work
  | .readGroup group force => some (system.readGroup group force)
  | .encodeGroup environment work => system.encodeGroup environment work
  | .commitGroup environment work => system.commitGroup environment work

end System

/-- The step system of the threads. -/
def systemMachine (A : Architecture) : Transition.Machine (System A) (SystemLabel A) :=
  ⟨System.step⟩

end Solar.Parameters
