/-
This file models the change hooks. A call of a set, a reset or a transaction
commits under the write gate and dispatches after it: to each registration of a
changed parameter, in the order of the change types, it hands the change over, or
leaves it behind when the system does not run yet. The activation of the changes,
a part of the boot, goes through the registrations once and delivers what was left.

A delivery is the call of `changed()`. Calls that are made in it are calls like
any other: their steps come between the steps of the call or of the activation that
delivers. Calls are under way at any number, each of them at one of its steps.
-/

import Solar.Lifecycle.Engine
import Solar.Library.Transition
import Solar.Parameters.Update

namespace Solar.Parameters

open Lifecycle (SystemState)

/-! ### Changes -/

inductive UpdateOrigin
  | localSet | localTransaction | reset | privilegedProvisioning | external | bootLoad | migration
  deriving DecidableEq

/-- `Change`. -/
structure Change (Value : Type) where
  oldValue : Value
  newValue : Value
  revision : UInt64
  origin : UpdateOrigin
  adjusted : Bool
  transaction : Bool
  reset : Bool

/-- A later change over one that waits. -/
def Change.coalesce {Value : Type} (waiting change : Change Value) : Change Value :=
  { oldValue := waiting.oldValue
    newValue := change.newValue
    revision := change.revision
    origin := change.origin
    adjusted := waiting.adjusted || change.adjusted
    transaction := waiting.transaction || change.transaction
    reset := waiting.reset || change.reset }

/-- The registrations of change handlers, each for one parameter. -/
structure ChangeCatalog (A : Architecture) where
  Registration : Type
  [decidableRegistration : DecidableEq Registration]
  changeTypes : List Registration
  parameterType : Registration → A.Parameter
  mem_changeTypes : ∀ registration, registration ∈ changeTypes
  nodup_changeTypes : changeTypes.Nodup

attribute [instance] ChangeCatalog.decidableRegistration

section

variable {A : Architecture} (C : ChangeCatalog A)

/-- A change on its way to a registration. -/
structure Dispatch where
  registration : C.Registration
  change : Change (A.Value (C.parameterType registration))

/-- What `dispatch_change` has to do, in the order of the change types. -/
def dispatches (parameter : A.Parameter) (change : Change (A.Value parameter)) :
    List (Dispatch C) :=
  C.changeTypes.filterMap fun registration =>
    if same : C.parameterType registration = parameter then
      some ⟨registration, same ▸ change⟩
    else none

/-- The change of an assigned parameter. -/
def TransactionState.change (state : TransactionState A) : Change (A.Value state.parameter) where
  oldValue := state.oldValue
  newValue := state.normalized.value
  revision := state.before + 1
  origin := .localTransaction
  adjusted := state.normalized.adjusted
  transaction := true
  reset := false

/-- What `dispatch_transaction_changes` has to do for one registration. -/
def transactionDispatch (states : List (TransactionState A)) (registration : C.Registration) :
    Option (Dispatch C) :=
  states.findSome? fun state =>
    if same : C.parameterType registration = state.parameter then
      if state.changed then some ⟨registration, same ▸ state.change⟩ else none
    else none

/-- What `dispatch_transaction_changes` has to do. -/
def transactionDispatches (states : List (TransactionState A)) : List (Dispatch C) :=
  C.changeTypes.filterMap (transactionDispatch C states)

/-! ### Calls -/

/-- The calls that change parameters. -/
inductive Request (A : Architecture)
  | set (parameter : A.Parameter) (candidate : A.Value parameter) (noWait : Bool)
      (origin : UpdateOrigin)
  | reset (parameter : A.Parameter) (noWait : Bool)
  | setAll (transaction : Transaction A)

/-- What a set or a reset has to dispatch. -/
def setDispatches (facility : Facility A) (parameter : A.Parameter) (origin : UpdateOrigin)
    (reset : Bool) : Except (Error A) (Update (A.Value parameter)) → List (Dispatch C)
  | .error _ => []
  | .ok update =>
      if update.changed then
        dispatches C parameter {
          oldValue := (facility.slot parameter).value
          newValue := update.effectiveValue
          revision := update.revision
          origin
          adjusted := update.adjusted
          transaction := origin = .localTransaction
          reset }
      else []

/-- The states of a transaction that is not refused. -/
def Facility.transactionStates (environment : Environment A) (transaction : Transaction A)
    (facility : Facility A) : List (TransactionState A) :=
  match normalizeTransaction transaction.assignments with
  | .error _ => []
  | .ok normalized =>
      match facility.captureTransaction environment normalized with
      | .error _ => []
      | .ok states => states

/-- The part of a call under the write gate, and what it has to dispatch. -/
def Request.commit (environment : Environment A) (now : Nat) (facility : Facility A) :
    Request A → Facility A × List (Dispatch C)
  | .set parameter candidate noWait origin =>
      let ended := facility.setParameter environment now parameter candidate noWait false
      (ended.1, setDispatches C facility parameter origin false ended.2)
  | .reset parameter noWait =>
      let ended := facility.setParameter environment now parameter
        (A.declaration parameter).defaultValue noWait true
      (ended.1, setDispatches C facility parameter .reset true ended.2)
  | .setAll transaction =>
      let ended := facility.setAllParameters environment now transaction
      (ended.1, match ended.2 with
        | .error _ => []
        | .ok _ => transactionDispatches C (facility.transactionStates environment transaction))

/-- A call under way: it has seen the state of the system, then it has committed, and then it has
decided whether the changes are left behind. -/
inductive Call
  | entered (observed : SystemState) (request : Request A)
  | committed (observed : SystemState) (todo : List (Dispatch C))
  | dispatching (deferred : Bool) (todo : List (Dispatch C))

/-- What the call still has to dispatch. -/
def Call.todo {C : ChangeCatalog A} : Call C → List (Dispatch C)
  | .entered _ _ => []
  | .committed _ todo => todo
  | .dispatching _ todo => todo

/-! ### The system -/

/-- How far the boot is. Within the activation, it is at some registration. -/
inductive BootStage
  | dormant
  | initializing
  | opened
  | starting
  | activating (remaining : List C.Registration)
  | invoking (dispatch : Dispatch C) (remaining : List C.Registration)
  | activated
  | ended

/-- The facility and the system around it; `accepting` are the flags `ready` and `mutation_open`.
What was delivered to a registration is noted for the theorems. -/
structure ChangeSystem where
  facility : Facility A
  now : Nat := 0
  stage : BootStage C := .dormant
  systemState : SystemState := .dormant
  accepting : Bool := false
  activating : Bool := false
  pending : (registration : C.Registration) →
    Option (Change (A.Value (C.parameterType registration))) := fun _ => none
  delivered : (registration : C.Registration) →
    List (Change (A.Value (C.parameterType registration))) := fun _ => []
  calls : List (Call C) := []

inductive ChangeStep (A : Architecture)
  | elapse (ticks : Nat)
  | initializes
  | openFacility
  | start
  | activate
  | take
  | invoke
  | finish
  | run
  | halt (state : SystemState) (closes : Bool)
  | enter (request : Request A)
  | commit (environment : Environment A) (call : Nat)
  | decideDeferred (call : Nat)
  | dispatch (call : Nat)

end

/-- The states in which a call is refused. -/
def refuses : SystemState → Bool
  | .stopping | .rollingBack | .stopped | .failed => true
  | _ => false

/-- The states that the system has after it has run, or has failed to. -/
def hasHalted : SystemState → Bool
  | .stopping | .deinitializing | .rollingBack | .stopped | .failed => true
  | _ => false

namespace ChangeSystem

variable {A : Architecture} {C : ChangeCatalog A} (system : ChangeSystem C)

/-- `ChangeState::defer`. -/
def defer (dispatch : Dispatch C) : ChangeSystem C :=
  { system with
    pending := Function.update system.pending dispatch.registration (some
      (match system.pending dispatch.registration with
      | some waiting => waiting.coalesce dispatch.change
      | none => dispatch.change)) }

/-- `invoke_change`. -/
def deliver (dispatch : Dispatch C) : ChangeSystem C :=
  { system with
    delivered := Function.update system.delivered dispatch.registration
      (system.delivered dispatch.registration ++ [dispatch.change]) }

/-- The activation takes what was left for the next registration. -/
def take (registration : C.Registration) (remaining : List C.Registration) : ChangeSystem C :=
  let taken := { system with pending := Function.update system.pending registration none }
  match system.pending registration with
  | some change =>
      if change.oldValue = change.newValue then { taken with stage := .activating remaining }
      else { taken with stage := .invoking ⟨registration, change⟩ remaining }
  | none => { taken with stage := .activating remaining }

/-- The next step of a call; a call with nothing left to do returns. -/
def dispatchCall (index : Nat) : Option (ChangeSystem C) :=
  match system.calls[index]? with
  | some (.dispatching deferred (dispatch :: rest)) =>
      let moved := { system with calls := system.calls.set index (.dispatching deferred rest) }
      some (if deferred then moved.defer dispatch else moved.deliver dispatch)
  | some (.dispatching _ []) => some { system with calls := system.calls.eraseIdx index }
  | _ => none

/-- One step of the boot, of the clock, or of a call. -/
def step : ChangeStep A → Option (ChangeSystem C)
  | .elapse ticks => some { system with now := system.now + ticks }
  | .initializes =>
      match system.stage with
      | .dormant => some { system with stage := .initializing, systemState := .initializing }
      | _ => none
  | .openFacility =>
      match system.stage with
      | .initializing => some { system with stage := .opened, accepting := true }
      | _ => none
  | .start =>
      match system.stage with
      | .opened => some { system with stage := .starting, systemState := .starting }
      | _ => none
  | .activate =>
      match system.stage with
      | .starting => some { system with stage := .activating C.changeTypes, activating := true }
      | _ => none
  | .take =>
      match system.stage with
      | .activating (registration :: remaining) => some (system.take registration remaining)
      | _ => none
  | .invoke =>
      match system.stage with
      | .invoking dispatch remaining =>
          some { system.deliver dispatch with stage := .activating remaining }
      | _ => none
  | .finish =>
      match system.stage with
      | .activating [] => some { system with stage := .activated, activating := false }
      | _ => none
  | .run =>
      match system.stage with
      | .activated => some { system with stage := .ended, systemState := .running }
      | _ => none
  | .halt state closes =>
      if hasHalted state then
        some { system with systemState := state, accepting := system.accepting && !closes }
      else none
  | .enter request =>
      if system.accepting && !refuses system.systemState then
        some { system with calls := system.calls ++ [.entered system.systemState request] }
      else some system
  | .commit environment index =>
      match system.calls[index]? with
      | some (.entered observed request) =>
          let committed := request.commit C { environment with entry := .ok () } system.now
            system.facility
          some { system with
            facility := committed.1
            calls := system.calls.set index (.committed observed committed.2) }
      | _ => none
  | .decideDeferred index =>
      match system.calls[index]? with
      | some (.committed observed todo) =>
          some { system with
            calls := system.calls.set index
              (.dispatching (observed ≠ .running && !system.activating) todo) }
      | _ => none
  | .dispatch index => system.dispatchCall index

end ChangeSystem

/-- The step system of the calls and the boot. -/
def changeMachine {A : Architecture} (C : ChangeCatalog A) :
    Transition.Machine (ChangeSystem C) (ChangeStep A) :=
  ⟨ChangeSystem.step⟩

end Solar.Parameters
