/-
This file models the lifecycle engine: the records of the components, the boot
with its rollback, and the stop. Boot goes through the components in topological
order, phase after phase, and the first failure ends it; rollback and stop ask
for the end of all execution, contain it, and stop and deinitialise the
components in the reverse order. A component whose execution is not contained is
blocked together with all it depends on.

What the hooks, the execution protocols and the catalogs answer is the input of
an operation. The calls of the hooks are noted in a trace: the trace is for the
theorems, no function reads it.
-/

import Solar.Lifecycle.Graph
import Solar.Remote.Schema

namespace Solar.Lifecycle

open Remote (Status)

/-! ### Records -/

inductive SystemState
  | dormant | initializing | starting | running | stopping | deinitializing | rollingBack | stopped
  | failed
  deriving DecidableEq

inductive ComponentState
  | registered | initializing | initialized | starting | running | stopping | stopped
  | deinitializing | deinitialized | failed
  deriving DecidableEq

inductive Operation
  | none | init | start | prepareExecution | validateExecution | activateExecution
  | requestExecutionStop | containExecution | stop | deinit
  deriving DecidableEq

/-- `Failure`. The failures of the system's own execution and of the catalogs name no component. -/
structure Failure (Component : Type) where
  component : Option Component
  operation : Operation
  status : Status
  primary : Bool

/-- `ComponentRecord`. -/
structure ComponentRecord (Component : Type) where
  state : ComponentState := .registered
  lastOperation : Operation := .none
  lastStatus : Status := .ok
  firstFailure : Option (Failure Component) := none
  initSucceeded : Bool := false
  startSucceeded : Bool := false
  executionPrepared : Bool := false
  executionContained : Bool := true
  cleanupBlocked : Bool := false

/-- The status of a result. -/
def statusOf : Except Status Unit → Status
  | .ok _ => .ok
  | .error status => status

/-- The result is a success. -/
def succeeded : Except Status Unit → Bool
  | .ok _ => true
  | .error _ => false

namespace ComponentRecord

variable {Component : Type} (record : ComponentRecord Component)

/-- What `record_failure` does to the record. -/
def fail (failure : Failure Component) : ComponentRecord Component :=
  { record with
    state := .failed
    lastOperation := failure.operation
    lastStatus := failure.status
    firstFailure := record.firstFailure <|> some failure }

def beginInit : ComponentRecord Component :=
  { record with state := .initializing, lastOperation := .init }

section

variable (result : Except Status Unit)

def finishInit : ComponentRecord Component :=
  { record with
    lastStatus := statusOf result
    initSucceeded := if succeeded result then true else record.initSucceeded
    state := if succeeded result then .initialized else record.state }

def beginStart : ComponentRecord Component :=
  { record with state := .starting, lastOperation := .start }

/-- The status of the operation that was tried last. -/
def note : ComponentRecord Component :=
  { record with lastStatus := statusOf result }

/-- An operation is tried. -/
def begin (operation : Operation) : ComponentRecord Component :=
  { record with lastOperation := operation }

def prepared : ComponentRecord Component :=
  { record with executionPrepared := true, executionContained := false, lastStatus := .ok }

def started : ComponentRecord Component :=
  { record with startSucceeded := true, lastStatus := .ok }

def run : ComponentRecord Component :=
  { record with state := .running }

def beginActivate : ComponentRecord Component :=
  { record with lastOperation := .activateExecution, lastStatus := .ok }

def beginStop : ComponentRecord Component :=
  { record with state := .stopping, lastOperation := .stop }

def finishStop : ComponentRecord Component :=
  { record with
    startSucceeded := false
    lastStatus := statusOf result
    state := if succeeded result && record.firstFailure.isNone then .stopped else .failed }

def beginDeinit : ComponentRecord Component :=
  { record with state := .deinitializing, lastOperation := .deinit }

def finishDeinit : ComponentRecord Component :=
  { record with
    initSucceeded := false
    lastStatus := statusOf result
    state := if succeeded result && record.firstFailure.isNone then .deinitialized else .failed }

end

def block : ComponentRecord Component :=
  { record with cleanupBlocked := true }

end ComponentRecord

/-- `Containment`. -/
structure Containment where
  status : Status := .ok
  contained : Bool := true
  forced : Bool := false
  timedOut : Bool := false
  abortAttempted : Bool := false
  abortFailed : Bool := false

def ComponentRecord.contain {Component : Type} (record : ComponentRecord Component)
    (containment : Containment) : ComponentRecord Component :=
  { record with
    executionContained := containment.contained
    executionPrepared := if containment.contained then false else record.executionPrepared
    lastStatus := containment.status }

/-! ### Storage -/

/-- A call of a hook, with whether it succeeded. A hook that a component does not have succeeds. -/
inductive HookCall (Component : Type)
  | init (component : Component) (ok : Bool)
  | start (component : Component) (ok : Bool)
  | stop (component : Component) (ok : Bool)
  | deinit (component : Component) (ok : Bool)
  deriving DecidableEq

/-- `BootReport`. The number of retained failures is not bounded here. -/
structure BootReport (Component : Type) where
  initialState : SystemState := .dormant
  finalState : SystemState := .dormant
  initializationCompleted : Bool := false
  startCompleted : Bool := false
  primaryFailure : Option (Failure Component) := none
  initializedComponents : Nat := 0
  startedComponents : Nat := 0
  rollbackAttempted : Bool := false
  rollbackCompleted : Bool := false
  cleanupFailures : List (Failure Component) := []
  uncontainedExecution : Nat := 0
  preservedDependencies : Nat := 0

/-- `StopReport`. -/
structure StopReport (Component : Type) where
  initialState : SystemState := .dormant
  finalState : SystemState := .dormant
  cleanExits : Nat := 0
  forcedExits : Nat := 0
  joinTimeouts : Nat := 0
  abortAttempts : Nat := 0
  abortFailures : Nat := 0
  stoppedComponents : Nat := 0
  deinitializedComponents : Nat := 0
  uncontainedExecution : Nat := 0
  preservedDependencies : Nat := 0
  failures : List (Failure Component) := []

/-- `Storage`, with the trace of the hooks. -/
structure Storage (Component : Type) where
  systemState : SystemState := .dormant
  records : Component → ComponentRecord Component := fun _ => {}
  lastBoot : Option (BootReport Component) := none
  lastStop : Option (StopReport Component) := none
  trace : List (HookCall Component) := []

/-- The system that the engine runs: its graph, and which components and whether the system itself
have execution. -/
structure Architecture (Component : Type) where
  graph : Graph Component
  participates : Component → Bool
  systemParticipates : Bool

/-- What is answered to a boot. -/
structure BootAnswers (Component : Type) where
  init : Component → Except Status Unit := fun _ => .ok ()
  start : Component → Except Status Unit := fun _ => .ok ()
  prepare : Component → Except Status Unit := fun _ => .ok ()
  prepareSystem : Except Status Unit := .ok ()
  validate : Component → Except Status Unit := fun _ => .ok ()
  validateSystem : Except Status Unit := .ok ()
  commits : List (Except Status Unit) := []

/-- What is answered to a rollback or a stop, with the components that uncontained execution of a
component or of the system can reach. -/
structure CleanupAnswers (Component : Type) where
  requestSystem : Except Status Unit := .ok ()
  containSystem : Containment := {}
  uncontainedCount : Nat := 0
  systemReach : List Component := []
  request : Component → Except Status Unit := fun _ => .ok ()
  contain : Component → Containment := fun _ => {}
  reach : Component → List Component := fun _ => []
  stop : Component → Except Status Unit := fun _ => .ok ()
  deinit : Component → Except Status Unit := fun _ => .ok ()

section

variable {Component : Type} [DecidableEq Component]

/-- `mutate_record`. -/
def Storage.mutate (storage : Storage Component) (component : Component)
    (change : ComponentRecord Component → ComponentRecord Component) : Storage Component :=
  { storage with
    records := Function.update storage.records component (change (storage.records component)) }

/-- A hook was called. -/
def Storage.called (storage : Storage Component) (call : HookCall Component) : Storage Component :=
  { storage with trace := storage.trace ++ [call] }

/-- `has_resources`. -/
def hasResources (architecture : Architecture Component) (storage : Storage Component) : Bool :=
  architecture.graph.components.any fun component =>
    let record := storage.records component
    record.initSucceeded || record.startSucceeded ||
      (record.executionPrepared && !record.executionContained)

/-! ### Forward -/

/-- `initialize_component`. -/
def initializeComponent (answers : BootAnswers Component) (storage : Storage Component)
    (component : Component) : Storage Component :=
  let result := answers.init component
  let called := (storage.mutate component .beginInit).called (.init component (succeeded result))
  called.mutate component fun record => record.finishInit result

section

variable (architecture : Architecture Component)

/-- `start_component`: the hook, and then the preparation of the execution. -/
def startComponent (answers : BootAnswers Component) (storage : Storage Component)
    (component : Component) : Storage Component × Except Status Unit :=
  let result := answers.start component
  let begun := (storage.mutate component .beginStart).called (.start component (succeeded result))
  let called := begun.mutate component fun record => record.note result
  match result with
  | .error status => (called, .error status)
  | .ok _ =>
      if architecture.participates component then
        let trying := called.mutate component fun record => record.begin .prepareExecution
        match answers.prepare component with
        | .error status =>
            (trying.mutate component fun record => record.note (.error status), .error status)
        | .ok _ => ((trying.mutate component .prepared).mutate component .started, .ok ())
      else (called.mutate component .started, .ok ())

/-- `validate_execution`. -/
def validateExecution (answers : BootAnswers Component) (storage : Storage Component)
    (component : Component) : Storage Component × Except Status Unit :=
  if architecture.participates component && (storage.records component).executionPrepared then
    let trying := storage.mutate component fun record => record.begin .validateExecution
    match answers.validate component with
    | .error status =>
        (trying.mutate component fun record => record.note (.error status), .error status)
    | .ok _ => (trying, .ok ())
  else (storage, .ok ())

/-- `activate_execution`. -/
def activateExecution (storage : Storage Component) (component : Component) : Storage Component :=
  if architecture.participates component && (storage.records component).executionPrepared then
    storage.mutate component .beginActivate
  else storage

end

/-- What `boot` keeps in its own variables. -/
structure Progress (Component : Type) where
  report : BootReport Component := {}
  primary : Option (Failure Component) := none
  executionFailure : Bool := false

/-- What `boot` keeps while it goes forward. -/
structure Booting (Component : Type) extends Progress Component where
  storage : Storage Component

/-- A component has failed: its record and the boot keep it. -/
def Booting.fail (booting : Booting Component) (storage : Storage Component)
    (component : Component) (operation : Operation) (status : Status) : Booting Component :=
  let failure : Failure Component := ⟨some component, operation, status, true⟩
  { booting with
    storage := storage.mutate component fun record => record.fail failure
    primary := some failure }

/-- One component in the loop of the initialisation. -/
def initStep (answers : BootAnswers Component) (booting : Booting Component)
    (component : Component) : Booting Component :=
  if booting.primary.isSome then booting
  else
    let storage := initializeComponent answers booting.storage component
    match answers.init component with
    | .error status => booting.fail storage component .init status
    | .ok _ =>
        { booting with
          storage
          report := { booting.report with
            initializedComponents := booting.report.initializedComponents + 1 } }

section

variable (architecture : Architecture Component)

/-- One component in the loop of the start. -/
def startStep (answers : BootAnswers Component) (booting : Booting Component)
    (component : Component) : Booting Component :=
  if booting.primary.isSome then booting
  else
    let ended := startComponent architecture answers booting.storage component
    match ended.2 with
    | .error status =>
        let operation := (ended.1.records component).lastOperation
        { booting.fail ended.1 component operation status with
          executionFailure := operation = .prepareExecution }
    | .ok _ =>
        { booting with
          storage := ended.1
          report := { booting.report with
            startedComponents := booting.report.startedComponents + 1 } }

/-- A step of the system's own execution. -/
def Progress.system (operation : Operation) (answer : Except Status Unit)
    (progress : Progress Component) : Progress Component :=
  if progress.primary.isSome || !architecture.systemParticipates then progress
  else
    match answer with
    | .error status =>
        { progress with
          executionFailure := true
          primary := some ⟨none, operation, status, true⟩ }
    | .ok _ => progress

def systemStep (operation : Operation) (answer : Except Status Unit) (booting : Booting Component) :
    Booting Component :=
  { booting with toProgress := booting.toProgress.system architecture operation answer }

/-- One component in the loop of the validation. -/
def validateStep (answers : BootAnswers Component) (booting : Booting Component)
    (component : Component) : Booting Component :=
  if booting.primary.isSome then booting
  else
    let ended := validateExecution architecture answers booting.storage component
    match ended.2 with
    | .error status =>
        { booting.fail ended.1 component .validateExecution status with executionFailure := true }
    | .ok _ => { booting with storage := ended.1 }

end

/-- `commit_catalog_activation`: the first catalog that fails. -/
def commitCatalogActivation (commits : List (Except Status Unit)) : Option (Failure Component) :=
  commits.findSome? fun
    | .error status => some ⟨none, .activateExecution, status, true⟩
    | .ok _ => none

/-- The catalogs are committed if nothing has failed. -/
def Progress.commit (commits : List (Except Status Unit)) (progress : Progress Component) :
    Progress Component :=
  if progress.primary.isSome then progress
  else { progress with primary := commitCatalogActivation commits }

section

variable (architecture : Architecture Component) (answers : BootAnswers Component)

/-- The initialisation of all components. -/
def initializeAll (storage : Storage Component) : Booting Component :=
  architecture.graph.topologicalOrder.foldl (initStep answers)
    { storage := { storage with systemState := .initializing }
      report := { initialState := storage.systemState } }

/-- The start of all components, up to the commit of the catalogs. -/
def startAll (booting : Booting Component) : Booting Component :=
  let begun := { booting with
    storage := { booting.storage with systemState := .starting }
    report := { booting.report with initializationCompleted := true } }
  let order := architecture.graph.topologicalOrder
  let started := order.foldl (startStep architecture answers) begun
  let prepared := systemStep architecture .prepareExecution answers.prepareSystem started
  let validated := order.foldl (validateStep architecture answers) prepared
  let allowed := systemStep architecture .validateExecution answers.validateSystem validated
  { allowed with toProgress := allowed.toProgress.commit answers.commits }

end

/-! ### Cleanup -/

/-- What a rollback or a stop keeps in its own variables. -/
structure CleanupReport (Component : Type) where
  failures : List (Failure Component) := []
  uncontainedExecution : Nat := 0
  preservedDependencies : Nat := 0
  cleanExits : Nat := 0
  forcedExits : Nat := 0
  joinTimeouts : Nat := 0
  abortAttempts : Nat := 0
  abortFailures : Nat := 0
  stoppedComponents : Nat := 0
  deinitializedComponents : Nat := 0

/-- What a rollback or a stop keeps. -/
structure Cleanup (Component : Type) extends CleanupReport Component where
  storage : Storage Component

/-- A failure that is added to the report, and to the record of its component. -/
def Cleanup.fail (cleanup : Cleanup Component) (component : Component) (operation : Operation)
    (status : Status) : Cleanup Component :=
  let failure : Failure Component := ⟨some component, operation, status, false⟩
  { cleanup with
    storage := cleanup.storage.mutate component fun record => record.fail failure
    failures := cleanup.failures ++ [failure] }

/-- A failure of the system's own execution. -/
def CleanupReport.failSystem (report : CleanupReport Component) (operation : Operation)
    (status : Status) : CleanupReport Component :=
  { report with failures := report.failures ++ [⟨none, operation, status, false⟩] }

/-- `mark_dependency_closure`. A dependency has a lower rank, so the rank bounds the recursion. -/
def markDependencyClosure (graph : Graph Component) :
    Nat → Bool → Cleanup Component → Component → Cleanup Component
  | 0, _, cleanup, _ => cleanup
  | depth + 1, counted, cleanup, component =>
      let fresh := !(cleanup.storage.records component).cleanupBlocked
      let marked := { cleanup with
        storage := cleanup.storage.mutate component .block
        preservedDependencies :=
          if fresh && counted then cleanup.preservedDependencies + 1
          else cleanup.preservedDependencies }
      (graph.dependencies component).foldl (markDependencyClosure graph depth true) marked

/-- A component is blocked with all it depends on. -/
def preserve (graph : Graph Component) (counted : Bool) (cleanup : Cleanup Component)
    (component : Component) : Cleanup Component :=
  markDependencyClosure graph (graph.rank component + 1) counted cleanup component

/-- `request_system_execution_stop`. -/
def CleanupReport.requestSystemExecutionStop (architecture : Architecture Component)
    (answers : CleanupAnswers Component) (report : CleanupReport Component) :
    CleanupReport Component :=
  if architecture.systemParticipates then
    match answers.requestSystem with
    | .ok _ => report
    | .error status =>
        if status = .already then report else report.failSystem .requestExecutionStop status
  else report

def requestSystemExecutionStop (architecture : Architecture Component)
    (answers : CleanupAnswers Component) (cleanup : Cleanup Component) : Cleanup Component :=
  { cleanup with
    toCleanupReport := cleanup.toCleanupReport.requestSystemExecutionStop architecture answers }

/-- What is wrong with a containment, if anything. -/
def Containment.problem (containment : Containment) : Option Status :=
  if containment.status ≠ .ok ∨ containment.forced = true ∨ containment.contained = false then
    some (if containment.status = .ok then .unexpectedExit else containment.status)
  else none

section

variable (architecture : Architecture Component)

/-- `contain_system_execution`. -/
def containSystemExecution (answers : CleanupAnswers Component) (cleanup : Cleanup Component) :
    Cleanup Component :=
  if architecture.systemParticipates then
    let containment := answers.containSystem
    let preserved :=
      if containment.contained then cleanup
      else
        answers.systemReach.foldl (preserve architecture.graph true) { cleanup with
          uncontainedExecution := cleanup.uncontainedExecution +
            (if answers.uncontainedCount = 0 then 1 else answers.uncontainedCount) }
    match containment.problem with
    | some status =>
        { preserved with
          toCleanupReport := preserved.toCleanupReport.failSystem .containExecution status }
    | none => preserved
  else cleanup

/-- The component has execution that is not contained. -/
def executes (storage : Storage Component) (component : Component) : Bool :=
  architecture.participates component && (storage.records component).executionPrepared &&
    !(storage.records component).executionContained

/-- `request_execution_stop`. -/
def requestExecutionStop (answers : CleanupAnswers Component) (cleanup : Cleanup Component)
    (component : Component) : Cleanup Component :=
  if executes architecture cleanup.storage component then
    let trying := { cleanup with
      storage := cleanup.storage.mutate component fun record =>
        record.begin .requestExecutionStop }
    match answers.request component with
    | .ok _ => trying
    | .error status =>
        if status = .already then trying
        else trying.fail component .requestExecutionStop status
  else cleanup

end

/-- The containment of a component is counted. -/
def CleanupReport.count (containment : Containment) (report : CleanupReport Component) :
    CleanupReport Component :=
  { report with
    joinTimeouts := if containment.timedOut then report.joinTimeouts + 1 else report.joinTimeouts
    abortAttempts :=
      if containment.abortAttempted then report.abortAttempts + 1 else report.abortAttempts
    abortFailures :=
      if containment.abortFailed then report.abortFailures + 1 else report.abortFailures
    forcedExits := if containment.forced then report.forcedExits + 1 else report.forcedExits
    cleanExits :=
      if containment.forced = false ∧ containment.contained = true ∧ containment.status = .ok then
        report.cleanExits + 1
      else report.cleanExits }

/-- The containment of a component is counted and recorded. -/
def recordContainment (containment : Containment) (cleanup : Cleanup Component)
    (component : Component) : Cleanup Component :=
  let trying := cleanup.storage.mutate component fun record => record.begin .containExecution
  { cleanup with
    storage := trying.mutate component fun record => record.contain containment
    toCleanupReport := cleanup.toCleanupReport.count containment }

/-- `contain_execution`. -/
def containExecution (architecture : Architecture Component) (answers : CleanupAnswers Component)
    (cleanup : Cleanup Component) (component : Component) : Cleanup Component :=
  if executes architecture cleanup.storage component then
    let containment := answers.contain component
    let recorded := recordContainment containment cleanup component
    let preserved :=
      if containment.contained then recorded
      else
        (answers.reach component).foldl (preserve architecture.graph true)
          (preserve architecture.graph false { recorded with
            uncontainedExecution := recorded.uncontainedExecution + 1 } component)
    match containment.problem with
    | some status => preserved.fail component .containExecution status
    | none => preserved
  else cleanup

/-- `stop_component`, counted. -/
def stopComponent (answers : CleanupAnswers Component) (cleanup : Cleanup Component)
    (component : Component) : Cleanup Component :=
  let before := cleanup.storage.records component
  if before.startSucceeded && !before.cleanupBlocked then
    let result := answers.stop component
    let called := (cleanup.storage.mutate component .beginStop).called
      (.stop component (succeeded result))
    let stopped := { cleanup with
      storage := called.mutate component fun record => record.finishStop result
      stoppedComponents := cleanup.stoppedComponents + 1 }
    match result with
    | .ok _ => stopped
    | .error status => stopped.fail component .stop status
  else cleanup

/-- `deinitialize_component`, counted. -/
def deinitializeComponent (answers : CleanupAnswers Component) (cleanup : Cleanup Component)
    (component : Component) : Cleanup Component :=
  let before := cleanup.storage.records component
  if before.initSucceeded && !before.cleanupBlocked then
    let result := answers.deinit component
    let called := (cleanup.storage.mutate component .beginDeinit).called
      (.deinit component (succeeded result))
    let released := { cleanup with
      storage := called.mutate component fun record => record.finishDeinit result
      deinitializedComponents := cleanup.deinitializedComponents + 1 }
    match result with
    | .ok _ => released
    | .error status => released.fail component .deinit status
  else cleanup

section

variable (architecture : Architecture Component)

section

variable (answers : CleanupAnswers Component)

section

variable (cleanup : Cleanup Component)

/-- All execution is asked to stop, and contained. -/
def containAll : Cleanup Component :=
  let order := architecture.graph.reverseTopologicalOrder
  let system := containSystemExecution architecture answers
    (requestSystemExecutionStop architecture answers cleanup)
  order.foldl (containExecution architecture answers)
    (order.foldl (requestExecutionStop architecture answers) system)

/-- All components are stopped. -/
def stopAll : Cleanup Component :=
  architecture.graph.reverseTopologicalOrder.foldl (stopComponent answers) cleanup

/-- All components are deinitialised. -/
def deinitializeAll : Cleanup Component :=
  architecture.graph.reverseTopologicalOrder.foldl (deinitializeComponent answers) cleanup

end

/-- `rollback`. -/
def rollback (storage : Storage Component) (startedPhase : Bool) : Cleanup Component :=
  let begun : Cleanup Component := { storage := { storage with systemState := .rollingBack } }
  let stopped :=
    if startedPhase then stopAll architecture answers (containAll architecture answers begun)
    else begun
  let released := deinitializeAll architecture answers stopped
  { released with storage := { released.storage with systemState := .failed } }

end

end

/-! ### The engine -/

inductive BootErrorReason
  | busy | alreadyRunning | rebootUnsupported | componentFailure | executionFailure

structure BootError (Component : Type) where
  reason : BootErrorReason
  status : Status
  failure : Option (Failure Component) := none

section

variable (architecture : Architecture Component)

/-- A boot that failed is rolled back. -/
def failBoot (cleanup : CleanupAnswers Component) (booting : Booting Component)
    (failure : Failure Component) (startedPhase : Bool) :
    Storage Component × Except (BootError Component) (BootReport Component) :=
  let rolled := rollback architecture cleanup booting.storage startedPhase
  let report := { booting.report with
    primaryFailure := some failure
    rollbackAttempted := true
    rollbackCompleted := rolled.uncontainedExecution = 0
    cleanupFailures := rolled.failures
    uncontainedExecution := rolled.uncontainedExecution
    preservedDependencies := rolled.preservedDependencies
    finalState := .failed }
  ({ rolled.storage with lastBoot := some report }, .error {
    reason := if booting.executionFailure then .executionFailure else .componentFailure
    status := failure.status
    failure := some failure })

/-- A boot that did not fail: the system runs, and its execution is activated. -/
def finishBoot (booting : Booting Component) :
    Storage Component × Except (BootError Component) (BootReport Component) :=
  let order := architecture.graph.topologicalOrder
  let running := order.foldl (fun storage component => storage.mutate component .run)
    booting.storage
  let report := { booting.report with startCompleted := true, finalState := .running }
  let published := { running with systemState := .running, lastBoot := some report }
  (order.foldl (activateExecution architecture) published, .ok report)

/-- `Engine::boot`. -/
def boot (answers : BootAnswers Component) (cleanup : CleanupAnswers Component)
    (storage : Storage Component) :
    Storage Component × Except (BootError Component) (BootReport Component) :=
  match storage.systemState with
  | .dormant =>
      let initialized := initializeAll architecture answers storage
      match initialized.primary with
      | some failure => failBoot architecture cleanup initialized failure false
      | none =>
          let started := startAll architecture answers initialized
          match started.primary with
          | some failure => failBoot architecture cleanup started failure true
          | none => finishBoot architecture started
  | .running => (storage, .error ⟨.alreadyRunning, .already, none⟩)
  | _ => (storage, .error ⟨.rebootUnsupported, .notSupported, none⟩)

end

inductive StopErrorReason
  | busy | invalidState | shutdownFailed

structure StopError (Component : Type) where
  reason : StopErrorReason
  status : Status
  failure : Option (Failure Component) := none

section

variable (architecture : Architecture Component)

/-- `Engine::stop` can begin. -/
def stoppable (storage : Storage Component) : Bool :=
  storage.systemState = .running ||
    (storage.systemState = .failed && hasResources architecture storage)

/-- The cleanup of a stop. -/
def stopCleanup (answers : CleanupAnswers Component) (storage : Storage Component) :
    Cleanup Component :=
  let stopped := stopAll architecture answers
    (containAll architecture answers { storage := { storage with systemState := .stopping } })
  deinitializeAll architecture answers
    { stopped with storage := { stopped.storage with systemState := .deinitializing } }

/-- Nothing has failed. -/
def Cleanup.clean (cleanup : Cleanup Component) : Bool :=
  cleanup.failures.isEmpty && cleanup.uncontainedExecution = 0

/-- `Engine::stop`. -/
def stop (answers : CleanupAnswers Component) (storage : Storage Component) :
    Storage Component × Except (StopError Component) (StopReport Component) :=
  if stoppable architecture storage then
    let cleanup := stopCleanup architecture answers storage
    let report : StopReport Component := {
      initialState := storage.systemState
      finalState := if cleanup.clean then .stopped else .failed
      cleanExits := cleanup.cleanExits
      forcedExits := cleanup.forcedExits
      joinTimeouts := cleanup.joinTimeouts
      abortAttempts := cleanup.abortAttempts
      abortFailures := cleanup.abortFailures
      stoppedComponents := cleanup.stoppedComponents
      deinitializedComponents := cleanup.deinitializedComponents
      uncontainedExecution := cleanup.uncontainedExecution
      preservedDependencies := cleanup.preservedDependencies
      failures := cleanup.failures }
    ({ cleanup.storage with systemState := report.finalState, lastStop := some report },
      if cleanup.clean then .ok report
      else .error ⟨.shutdownFailed, .error, cleanup.failures.head?⟩)
  else (storage, .error ⟨.invalidState, .notReady, none⟩)

end

end

end Solar.Lifecycle
