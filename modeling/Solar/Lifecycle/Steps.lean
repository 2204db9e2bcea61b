/-
This file writes the boot of the engine as a program of single steps: each mutation
of a record, each copy of one, each call of a hook and each store of the system
state is a command of its own, and other threads may come between.
-/

import Solar.Library.Program
import Solar.Lifecycle.Engine

namespace Solar.Lifecycle

open Remote (Status)

/-! ### Commands -/

/-- What the thread of a boot does to the storage at once. `commit` is the mutation of the loop that
stores `running` in all records. -/
inductive Command (Component : Type)
  | mutate (component : Component) (change : ComponentRecord Component → ComponentRecord Component)
  | commit (component : Component)
  | load
  | store (state : SystemState)
  | call (call : HookCall Component)
  | publish (report : BootReport Component)

variable {Component : Type} [DecidableEq Component]

/-- The steps of a thread. -/
abbrev Steps (Component Result : Type) := Program (Command Component) (Storage Component) Result

def mutateRecord (component : Component)
    (change : ComponentRecord Component → ComponentRecord Component) : Steps Component Unit :=
  Program.ask (.mutate component change) fun _ => ()

def recordCopy (component : Component) : Steps Component (ComponentRecord Component) :=
  Program.ask .load fun storage => storage.records component

def loadState : Steps Component SystemState := Program.ask .load fun storage => storage.systemState

def storeState (state : SystemState) : Steps Component Unit :=
  Program.ask (.store state) fun _ => ()

def callHook (call : HookCall Component) : Steps Component Unit :=
  Program.ask (.call call) fun _ => ()

def publish (report : BootReport Component) : Steps Component Unit :=
  Program.ask (.publish report) fun _ => ()

/-- What a command does to the storage. -/
def Storage.perform (storage : Storage Component) :
    Command Component → Storage Component
  | .mutate component change => storage.mutate component change
  | .commit component => storage.mutate component .run
  | .load => storage
  | .store state => { storage with systemState := state }
  | .call call => storage.called call
  | .publish report => { storage with lastBoot := some report }

/-! ### Forward -/

/-- `record_failure` with the failure that ends the boot. -/
def Progress.failSteps (progress : Progress Component) (component : Component)
    (operation : Operation) (status : Status) : Steps Component (Progress Component) := do
  let failure : Failure Component := ⟨some component, operation, status, true⟩
  mutateRecord component fun record => record.fail failure
  pure { progress with primary := some failure }

/-- One component in the loop of the initialisation. -/
def initSteps (answers : BootAnswers Component) (progress : Progress Component)
    (component : Component) : Steps Component (Progress Component) :=
  if progress.primary.isSome then pure progress
  else do
    let result := answers.init component
    mutateRecord component .beginInit
    callHook (.init component (succeeded result))
    mutateRecord component fun record => record.finishInit result
    match result with
    | .error status => progress.failSteps component .init status
    | .ok _ =>
        pure { progress with
          report := { progress.report with
            initializedComponents := progress.report.initializedComponents + 1 } }

section

variable (architecture : Architecture Component)

section

variable (answers : BootAnswers Component)

/-- `start_component`. -/
def startComponentSteps (component : Component) : Steps Component (Except Status Unit) := do
  let result := answers.start component
  mutateRecord component .beginStart
  callHook (.start component (succeeded result))
  mutateRecord component fun record => record.note result
  match result with
  | .error status => pure (.error status)
  | .ok _ =>
      if architecture.participates component then
        mutateRecord component fun record => record.begin .prepareExecution
        match answers.prepare component with
        | .error status =>
            mutateRecord component fun record => record.note (.error status)
            pure (.error status)
        | .ok _ =>
            mutateRecord component .prepared
            mutateRecord component .started
            pure (.ok ())
      else
        mutateRecord component .started
        pure (.ok ())

/-- One component in the loop of the start. -/
def startSteps (progress : Progress Component) (component : Component) :
    Steps Component (Progress Component) :=
  if progress.primary.isSome then pure progress
  else do
    match ← startComponentSteps architecture answers component with
    | .error status =>
        let operation := (← recordCopy component).lastOperation
        let failed ← progress.failSteps component operation status
        pure { failed with executionFailure := operation = .prepareExecution }
    | .ok _ =>
        pure { progress with
          report := { progress.report with
            startedComponents := progress.report.startedComponents + 1 } }

/-- `validate_execution`. -/
def validateExecutionSteps (component : Component) : Steps Component (Except Status Unit) :=
  if architecture.participates component then do
    if (← recordCopy component).executionPrepared then
      mutateRecord component fun record => record.begin .validateExecution
      match answers.validate component with
      | .error status =>
          mutateRecord component fun record => record.note (.error status)
          pure (.error status)
      | .ok _ => pure (.ok ())
    else pure (.ok ())
  else pure (.ok ())

/-- One component in the loop of the validation. -/
def validateSteps (progress : Progress Component) (component : Component) :
    Steps Component (Progress Component) :=
  if progress.primary.isSome then pure progress
  else do
    match ← validateExecutionSteps architecture answers component with
    | .error status =>
        let failed ← progress.failSteps component .validateExecution status
        pure { failed with executionFailure := true }
    | .ok _ => pure progress

/-- The start of all components, up to the commit of the catalogs. -/
def startAllSteps (progress : Progress Component) : Steps Component (Progress Component) := do
  storeState .starting
  let order := architecture.graph.topologicalOrder
  let started ← order.foldlM (startSteps architecture answers) { progress with
    report := { progress.report with initializationCompleted := true } }
  let prepared := started.system architecture .prepareExecution answers.prepareSystem
  let validated ← order.foldlM (validateSteps architecture answers) prepared
  let allowed := validated.system architecture .validateExecution answers.validateSystem
  pure (allowed.commit answers.commits)

end

end

/-! ### Cleanup -/

/-- A failure that is added to the report, and to the record of its component. -/
def CleanupReport.failSteps (report : CleanupReport Component) (component : Component)
    (operation : Operation) (status : Status) : Steps Component (CleanupReport Component) := do
  let failure : Failure Component := ⟨some component, operation, status, false⟩
  mutateRecord component fun record => record.fail failure
  pure { report with failures := report.failures ++ [failure] }

/-- `mark_dependency_closure`. -/
def markDependencyClosureSteps (graph : Graph Component) :
    Nat → Bool → CleanupReport Component → Component → Steps Component (CleanupReport Component)
  | 0, _, report, _ => pure report
  | depth + 1, counted, report, component => do
      let newlyBlocked ← Program.ask (.mutate component .block) fun storage =>
        !(storage.records component).cleanupBlocked
      (graph.dependencies component).foldlM (markDependencyClosureSteps graph depth true)
        { report with
          preservedDependencies :=
            if newlyBlocked && counted then report.preservedDependencies + 1
            else report.preservedDependencies }

/-- A component is blocked with all it depends on. -/
def preserveSteps (graph : Graph Component) (counted : Bool) (report : CleanupReport Component)
    (component : Component) : Steps Component (CleanupReport Component) :=
  markDependencyClosureSteps graph (graph.rank component + 1) counted report component

section

variable (architecture : Architecture Component)

section

variable (answers : CleanupAnswers Component)

section

variable (report : CleanupReport Component)

/-- `contain_system_execution`. -/
def containSystemExecutionSteps : Steps Component (CleanupReport Component) :=
  if architecture.systemParticipates then do
    let containment := answers.containSystem
    let preserved ←
      if containment.contained then pure report
      else
        answers.systemReach.foldlM (preserveSteps architecture.graph true) { report with
          uncontainedExecution := report.uncontainedExecution +
            (if answers.uncontainedCount = 0 then 1 else answers.uncontainedCount) }
    match containment.problem with
    | some status => pure (preserved.failSystem .containExecution status)
    | none => pure preserved
  else pure report

/-- The component has execution that is not contained. -/
def executesSteps (component : Component) : Steps Component Bool :=
  if architecture.participates component then do
    let record ← recordCopy component
    pure (record.executionPrepared && !record.executionContained)
  else pure false

/-- `request_execution_stop`. -/
def requestExecutionStopSteps (component : Component) :
    Steps Component (CleanupReport Component) := do
  if ← executesSteps architecture component then
    mutateRecord component fun record => record.begin .requestExecutionStop
    match answers.request component with
    | .ok _ => pure report
    | .error status =>
        if status = .already then pure report
        else report.failSteps component .requestExecutionStop status
  else pure report

end

end

end

section

variable (architecture : Architecture Component) (answers : CleanupAnswers Component)

section

variable (report : CleanupReport Component)

section

variable (component : Component)

/-- `contain_execution`. -/
def containExecutionSteps : Steps Component (CleanupReport Component) := do
  if ← executesSteps architecture component then
    let containment := answers.contain component
    mutateRecord component fun record => record.begin .containExecution
    mutateRecord component fun record => record.contain containment
    let recorded := report.count containment
    let preserved ←
      if containment.contained then pure recorded
      else do
        let blocked ← preserveSteps architecture.graph false { recorded with
          uncontainedExecution := recorded.uncontainedExecution + 1 } component
        (answers.reach component).foldlM (preserveSteps architecture.graph true) blocked
    match containment.problem with
    | some status => preserved.failSteps component .containExecution status
    | none => pure preserved
  else pure report

/-- `stop_component`. -/
def stopComponentSteps : Steps Component (CleanupReport Component) := do
  let before ← recordCopy component
  if before.startSucceeded && !before.cleanupBlocked then
    let result := answers.stop component
    mutateRecord component .beginStop
    callHook (.stop component (succeeded result))
    mutateRecord component fun record => record.finishStop result
    let stopped := { report with stoppedComponents := report.stoppedComponents + 1 }
    match result with
    | .ok _ => pure stopped
    | .error status => stopped.failSteps component .stop status
  else pure report

/-- `deinitialize_component`. -/
def deinitializeComponentSteps : Steps Component (CleanupReport Component) := do
  let before ← recordCopy component
  if before.initSucceeded && !before.cleanupBlocked then
    let result := answers.deinit component
    mutateRecord component .beginDeinit
    callHook (.deinit component (succeeded result))
    mutateRecord component fun record => record.finishDeinit result
    let released := { report with
      deinitializedComponents := report.deinitializedComponents + 1 }
    match result with
    | .ok _ => pure released
    | .error status => released.failSteps component .deinit status
  else pure report

end

/-- All execution is asked to stop, and contained. -/
def containAllSteps : Steps Component (CleanupReport Component) := do
  let order := architecture.graph.reverseTopologicalOrder
  let system ← containSystemExecutionSteps architecture answers
    (report.requestSystemExecutionStop architecture answers)
  let requested ← order.foldlM (requestExecutionStopSteps architecture answers) system
  order.foldlM (containExecutionSteps architecture answers) requested

end

/-- `rollback`. -/
def rollbackSteps (startedPhase : Bool) : Steps Component (CleanupReport Component) := do
  storeState .rollingBack
  let order := architecture.graph.reverseTopologicalOrder
  let stopped ←
    if startedPhase then do
      let contained ← containAllSteps architecture answers {}
      order.foldlM (stopComponentSteps answers) contained
    else pure {}
  let released ← order.foldlM (deinitializeComponentSteps answers) stopped
  storeState .failed
  pure released

end

/-! ### The boot -/

section

variable (architecture : Architecture Component)

/-- A boot that failed is rolled back. -/
def failBootSteps (cleanup : CleanupAnswers Component) (progress : Progress Component)
    (failure : Failure Component) (startedPhase : Bool) :
    Steps Component (Except (BootError Component) (BootReport Component)) := do
  let rolled ← rollbackSteps architecture cleanup startedPhase
  publish { progress.report with
    primaryFailure := some failure
    rollbackAttempted := true
    rollbackCompleted := rolled.uncontainedExecution = 0
    cleanupFailures := rolled.failures
    uncontainedExecution := rolled.uncontainedExecution
    preservedDependencies := rolled.preservedDependencies
    finalState := .failed }
  pure (.error {
    reason := if progress.executionFailure then .executionFailure else .componentFailure
    status := failure.status
    failure := some failure })

/-- `activate_execution`. -/
def activateExecutionSteps (component : Component) : Steps Component Unit :=
  if architecture.participates component then do
    if (← recordCopy component).executionPrepared then mutateRecord component .beginActivate
    else pure ()
  else pure ()

/-- A boot that did not fail: the records and the system run, and the execution is activated. -/
def finishBootSteps (progress : Progress Component) :
    Steps Component (Except (BootError Component) (BootReport Component)) := do
  let order := architecture.graph.topologicalOrder
  order.foldlM (fun _ component => Program.ask (.commit component) fun _ => ()) ()
  let report := { progress.report with startCompleted := true, finalState := .running }
  storeState .running
  publish report
  order.foldlM (fun _ component => activateExecutionSteps architecture component) ()
  pure (.ok report)

/-- `Engine::boot`. -/
def bootSteps (answers : BootAnswers Component) (cleanup : CleanupAnswers Component) :
    Steps Component (Except (BootError Component) (BootReport Component)) := do
  match ← loadState with
  | .dormant =>
      storeState .initializing
      let initialized ← architecture.graph.topologicalOrder.foldlM (initSteps answers)
        { report := { initialState := .dormant } }
      match initialized.primary with
      | some failure => failBootSteps architecture cleanup initialized failure false
      | none =>
          let started ← startAllSteps architecture answers initialized
          match started.primary with
          | some failure => failBootSteps architecture cleanup started failure true
          | none => finishBootSteps architecture started
  | .running => pure (.error ⟨.alreadyRunning, .already, none⟩)
  | _ => pure (.error ⟨.rebootUnsupported, .notSupported, none⟩)

end

end Solar.Lifecycle
