/-
This file interleaves the steps of a boot with the reports of execution that fails.
A report mutates the record of its component twice and then swaps the state of the
system, and it swaps it only from `starting` or `running`; the boot stores `running`
in every record and in the system state without looking at either.

So a failure is kept when the boot comes first: it commits a component before a
report stamps its record, and it publishes the system and returns before a report
has finished. A boot that fails commits and publishes nothing.
-/

import Solar.Lifecycle.Preservation
import Solar.Lifecycle.Steps

namespace Solar.Lifecycle

open List Option Function

open Remote (Status)
open Transition (Machine)

/-! ### Reports -/

/-- What a report of `report_execution_failure` does next. -/
inductive ReportPhase
  | recording
  | stamping
  | loading
  | swapping (current : SystemState)
  | finished
  deriving DecidableEq

/-- The loop of the swap goes on only from these two states. -/
def ReportPhase.seen (current : SystemState) : ReportPhase :=
  if current = .running ∨ current = .starting then .swapping current else .finished

/-- A call of `report_execution_failure` that is under way or has finished. -/
structure ExecutionFailure (Component : Type) where
  component : Component
  status : Status
  phase : ReportPhase := .recording
  deriving DecidableEq

/-- The report has mutated the record for the last time. -/
def ExecutionFailure.stamped {Component : Type} (report : ExecutionFailure Component) : Bool :=
  match report.phase with
  | .recording | .stamping => false
  | .loading | .swapping _ | .finished => true

/-- The second mutation of a report. -/
def ComponentRecord.stamp {Component : Type} (record : ComponentRecord Component)
    (status : Status) : ComponentRecord Component :=
  { record with state := .failed, lastOperation := .activateExecution, lastStatus := status }

section

variable {Component : Type} [DecidableEq Component]

/-- The next step of a report. A weak exchange may fail for no reason. -/
def ExecutionFailure.advance (report : ExecutionFailure Component) (spurious : Bool)
    (storage : Storage Component) : Option (Storage Component × ExecutionFailure Component) :=
  match report.phase with
  | .recording =>
      let failure : Failure Component :=
        ⟨some report.component, .activateExecution, report.status, false⟩
      some (storage.mutate report.component fun record => record.fail failure,
        { report with phase := .stamping })
  | .stamping =>
      some (storage.mutate report.component fun record => record.stamp report.status,
        { report with phase := .loading })
  | .loading => some (storage, { report with phase := .seen storage.systemState })
  | .swapping current =>
      if storage.systemState = current ∧ spurious = false then
        some ({ storage with systemState := .failed }, { report with phase := .finished })
      else some (storage, { report with phase := .seen storage.systemState })
  | .finished => none

/-! ### The machine -/

/-- The storage, the steps that are left of the boot, what it has returned with the state of the
system at that time, and the reports. -/
structure Activation (Component : Type) where
  storage : Storage Component
  boot : Steps Component (Except (BootError Component) (BootReport Component))
  returned : Option (Except (BootError Component) (BootReport Component) × SystemState) := none
  reports : List (ExecutionFailure Component) := []

/-- A step of one of the threads. -/
inductive ActivationStep (Component : Type)
  | boot
  | returns
  | fails (component : Component) (status : Status)
  | report (index : Nat) (spurious : Bool)

/-- Threads run, and their execution can fail, once the system is starting. -/
def SystemState.hasStarted : SystemState → Bool
  | .dormant | .initializing => false
  | _ => true

def activationMachine : Machine (Activation Component) (ActivationStep Component) where
  step
    | activation, .boot =>
        match activation.boot with
        | .step command next =>
            some { activation with
              storage := activation.storage.perform command
              boot := next activation.storage }
        | .done _ => none
    | activation, .returns =>
        match activation.boot, activation.returned with
        | .done result, none =>
            some { activation with returned := some (result, activation.storage.systemState) }
        | _, _ => none
    | activation, .fails component status =>
        if activation.storage.systemState.hasStarted then
          some { activation with
            reports := activation.reports ++ [{ component, status }] }
        else none
    | activation, .report index spurious => do
        let report ← activation.reports[index]?
        let (storage, advanced) ← report.advance spurious activation.storage
        some { activation with storage, reports := activation.reports.set index advanced }

/-- A boot that begins. -/
def Activation.begin (architecture : Architecture Component) (answers : BootAnswers Component)
    (cleanup : CleanupAnswers Component) (storage : Storage Component) : Activation Component where
  storage
  boot := bootSteps architecture answers cleanup

/-- No report of the component has stamped its record. -/
def Unstamped (activation : Activation Component) (component : Component) : Prop :=
  ∀ report ∈ activation.reports, report.component = component → report.stamped = false

/-- No report has finished. -/
def Unfinished (activation : Activation Component) : Prop :=
  ∀ report ∈ activation.reports, report.phase ≠ .finished

instance decidableUnstamped (activation : Activation Component) (component : Component) :
    Decidable (Unstamped activation component) :=
  inferInstanceAs (Decidable (∀ report ∈ activation.reports,
    report.component = component → report.stamped = false))

instance decidableUnfinished (activation : Activation Component) :
    Decidable (Unfinished activation) :=
  inferInstanceAs (Decidable (∀ report ∈ activation.reports, report.phase ≠ .finished))

/-- A commit finds no stamped record of its component, and the store of `running` no report that has
finished. -/
def Command.Timely (activation : Activation Component) : Command Component → Prop
  | .commit component => Unstamped activation component
  | .store state => state = .running → Unfinished activation
  | _ => True

instance decidableCommandTimely (activation : Activation Component) :
    ∀ command : Command Component, Decidable (command.Timely activation)
  | .commit component => inferInstanceAs (Decidable (Unstamped activation component))
  | .store state => inferInstanceAs (Decidable (state = .running → Unfinished activation))
  | .mutate _ _ | .load | .call _ | .publish _ => isTrue trivial

/-- The boot is not late: no report has stamped the record of a component that the boot commits, and
none has finished when the boot publishes the system or returns its success. -/
def Timely (activation : Activation Component) : ActivationStep Component → Prop
  | .boot =>
      match activation.boot with
      | .step command _ => command.Timely activation
      | .done _ => True
  | .returns =>
      match activation.boot with
      | .done (.ok _) => Unfinished activation
      | _ => True
  | _ => True

instance decidableTimely : ∀ (activation : Activation Component)
    (event : ActivationStep Component), Decidable (Timely activation event)
  | ⟨storage, .step command next, returned, reports⟩, .boot =>
      inferInstanceAs (Decidable (command.Timely ⟨storage, .step command next, returned, reports⟩))
  | ⟨storage, .done (.ok report), returned, reports⟩, .returns =>
      inferInstanceAs (Decidable (Unfinished ⟨storage, .done (.ok report), returned, reports⟩))
  | ⟨_, .done _, _, _⟩, .boot => isTrue trivial
  | ⟨_, .done (.error _), _, _⟩, .returns => isTrue trivial
  | ⟨_, .step _ _, _, _⟩, .returns => isTrue trivial
  | _, .fails _ _ => isTrue trivial
  | _, .report _ _ => isTrue trivial

/-! ### What a boot does whatever the reports do -/

/-- No mutation but a commit makes a record run. -/
def Command.Modest : Command Component → Prop
  | .mutate _ change => ∀ record, (change record).state = .running → record.state = .running
  | _ => True

/-- The state that the boot has stored last. -/
def Command.stored (state : SystemState) : Command Component → SystemState
  | .store state => state
  | _ => state

/-- All commands are modest. -/
def Calm {Result : Type} (program : Steps Component Result) : Prop :=
  ∀ stored, Program.Along Command.Modest Command.stored (fun _ _ => True) stored program

namespace Calm

variable {Result Other Item : Type}

omit [DecidableEq Component]

theorem done (result : Result) : Calm (.done result : Steps Component Result) :=
  fun _ => trivial

theorem ask {command : Command Component} {answer : Storage Component → Result}
    (modest : command.Modest) : Calm (Program.ask command answer) :=
  fun _ => .ask modest fun _ => trivial

theorem bind {program : Steps Component Result} {rest : Result → Steps Component Other}
    (first : Calm program) (later : ∀ result, Calm (rest result)) : Calm (program >>= rest) :=
  fun stored => (first stored).bind fun stored result _ => later result stored

theorem foldlM {body : Result → Item → Steps Component Result}
    (round : ∀ result item, Calm (body result item)) (items : List Item) (result : Result) :
    Calm (items.foldlM body result) :=
  fun _ => .foldlM items (fun stored result item _ => round result item stored) trivial

theorem ite {condition : Prop} [Decidable condition] {first second : Steps Component Result}
    (whenTrue : Calm first) (whenFalse : Calm second) :
    Calm (if condition then first else second) := by
  by_cases holds : condition
  · rw [if_pos holds]
    exact whenTrue
  · rw [if_neg holds]
    exact whenFalse

variable (component : Component) {change : ComponentRecord Component → ComponentRecord Component}

theorem mutateRecord
    (modest : ∀ record, (change record).state = .running → record.state = .running) :
    Calm (mutateRecord component change) :=
  ask modest

theorem assigns (state : ComponentState) (sets : ∀ record, (change record).state = state)
    (other : state ≠ .running) : Calm (Lifecycle.mutateRecord component change) :=
  ask fun record runs => absurd ((sets record).symm.trans runs) other

theorem recordCopy : Calm (recordCopy component) := ask trivial

theorem loadState : Calm (loadState : Steps Component SystemState) := ask trivial

theorem storeState (state : SystemState) : Calm (storeState state : Steps Component Unit) :=
  ask trivial

theorem callHook (call : HookCall Component) : Calm (callHook call) := ask trivial

end Calm

variable (architecture : Architecture Component)

section

omit [DecidableEq Component]

section

variable {answers : BootAnswers Component} (progress : Progress Component) (component : Component)

theorem calm_failSteps {operation : Operation} {status : Status} :
    Calm (progress.failSteps component operation status) :=
  .bind (.assigns component .failed (fun _ => rfl) nofun) fun _ => .done _

theorem calm_initSteps : Calm (initSteps answers progress component) := by
  refine .ite (.done _) ?_
  refine .bind (.assigns component .initializing (fun _ => rfl) nofun) fun _ =>
    .bind (.callHook _) fun _ => ?_
  have finishes : ∀ record : ComponentRecord Component,
      (record.finishInit (answers.init component)).state = .running → record.state = .running := by
    intro record runs
    cases result : answers.init component with rw [result] at runs
    | error status => exact runs
    | ok _ => exact absurd runs nofun
  refine .bind (.mutateRecord component finishes) fun _ => ?_
  cases answers.init component with
  | error status => exact calm_failSteps _ _
  | ok _ => exact .done _

theorem calm_startComponentSteps : Calm (startComponentSteps architecture answers component) := by
  refine .bind (.assigns component .starting (fun _ => rfl) nofun) fun _ =>
    .bind (.callHook _) fun _ => ?_
  refine .bind (.mutateRecord component fun _ => id) fun _ => ?_
  cases answers.start component with
  | error status => exact .done _
  | ok _ =>
    refine .ite (.bind (.mutateRecord component fun _ => id) fun _ => ?_) ?_
    · cases answers.prepare component with
      | error status => exact .bind (.mutateRecord component fun _ => id) fun _ => .done _
      | ok _ =>
        refine .bind (.mutateRecord component fun _ => id) fun _ => ?_
        exact .bind (.mutateRecord component fun _ => id) fun _ => .done _
    · exact .bind (.mutateRecord component fun _ => id) fun _ => .done _

theorem calm_startSteps : Calm (startSteps architecture answers progress component) := by
  refine .ite (.done _) (.bind (calm_startComponentSteps architecture component) ?_)
  intro result
  cases result with
  | error status =>
    refine .bind (.recordCopy component) fun record => ?_
    exact .bind (calm_failSteps _ _) fun _ => .done _
  | ok _ => exact .done _

theorem calm_validateExecutionSteps :
    Calm (validateExecutionSteps architecture answers component) := by
  refine .ite (.bind (.recordCopy component) fun record => ?_) (.done _)
  refine .ite (.bind (.mutateRecord component fun _ => id) fun _ => ?_) (.done _)
  cases answers.validate component with
  | error status => exact .bind (.mutateRecord component fun _ => id) fun _ => .done _
  | ok _ => exact .done _

theorem calm_validateSteps : Calm (validateSteps architecture answers progress component) := by
  refine .ite (.done _) (.bind (calm_validateExecutionSteps architecture component) ?_)
  intro result
  cases result with
  | error status => exact .bind (calm_failSteps _ _) fun _ => .done _
  | ok _ => exact .done _

end

section

variable {answers : CleanupAnswers Component} (report : CleanupReport Component)
  (component : Component)

theorem calm_cleanup_failSteps {operation : Operation} {status : Status} :
    Calm (report.failSteps component operation status) :=
  .bind (.assigns component .failed (fun _ => rfl) nofun) fun _ => .done _

theorem calm_markDependencyClosureSteps (graph : Graph Component) (depth : Nat) (counted : Bool)
    (report : CleanupReport Component) (component : Component) :
    Calm (markDependencyClosureSteps graph depth counted report component) := by
  induction depth generalizing counted report component with
  | zero => exact .done _
  | succ depth ih =>
    refine .bind (.ask fun _ => id) fun newlyBlocked => ?_
    exact .foldlM (ih true) _ _

theorem calm_preserveSteps {graph : Graph Component} {counted : Bool} :
    Calm (preserveSteps graph counted report component) :=
  calm_markDependencyClosureSteps graph _ counted report component

theorem calm_containSystemExecutionSteps :
    Calm (containSystemExecutionSteps architecture answers report) := by
  refine .ite ?_ (.done _)
  refine .ite (.bind (.done _) fun _ => ?_)
    (.bind (.foldlM (fun _ _ => calm_preserveSteps _ _) _ _) fun _ => ?_)
  all_goals cases answers.containSystem.problem with
    | some | none => exact .done _

theorem calm_executesSteps : Calm (executesSteps architecture component) :=
  .ite (.bind (.recordCopy component) fun _ => .done _) (.done _)

theorem calm_requestExecutionStopSteps :
    Calm (requestExecutionStopSteps architecture answers report component) := by
  refine .bind (calm_executesSteps architecture component) fun executes => ?_
  refine .ite (.bind (.mutateRecord component fun _ => id) fun _ => ?_) (.done _)
  cases answers.request component with
  | ok _ => exact .done _
  | error status => exact .ite (.done _) (calm_cleanup_failSteps _ _)

theorem calm_containExecutionSteps :
    Calm (containExecutionSteps architecture answers report component) := by
  refine .bind (calm_executesSteps architecture component) fun executes => ?_
  refine .ite (.bind (.mutateRecord component fun _ => id) fun _ => ?_) (.done _)
  refine .bind (.mutateRecord component fun _ => id) fun _ => ?_
  refine .ite (.bind (.done _) fun _ => ?_) (.bind (calm_preserveSteps _ _) fun blocked =>
    .bind (.foldlM (fun _ _ => calm_preserveSteps _ _) _ _) fun _ => ?_)
  all_goals cases (answers.contain component).problem with
    | some status => exact calm_cleanup_failSteps _ _
    | none => exact .done _

theorem calm_stopComponentSteps :
    Calm (stopComponentSteps answers report component) := by
  refine .bind (.recordCopy component) fun before => .ite ?_ (.done _)
  refine .bind (.assigns component .stopping (fun _ => rfl) nofun) fun _ =>
    .bind (.callHook _) fun _ => ?_
  have finishes : ∀ record : ComponentRecord Component,
      (record.finishStop (answers.stop component)).state = .running → record.state = .running := by
    intro record runs
    simp only [ComponentRecord.finishStop] at runs
    split_ifs at runs
  refine .bind (.mutateRecord component finishes) fun _ => ?_
  cases answers.stop component with
  | ok _ => exact .done _
  | error status => exact calm_cleanup_failSteps _ _

theorem calm_deinitializeComponentSteps :
    Calm (deinitializeComponentSteps answers report component) := by
  refine .bind (.recordCopy component) fun before => .ite ?_ (.done _)
  refine .bind (.assigns component .deinitializing (fun _ => rfl) nofun) fun _ =>
    .bind (.callHook _) fun _ => ?_
  have finishes : ∀ record : ComponentRecord Component,
      (record.finishDeinit (answers.deinit component)).state = .running →
        record.state = .running := by
    intro record runs
    simp only [ComponentRecord.finishDeinit] at runs
    split_ifs at runs
  refine .bind (.mutateRecord component finishes) fun _ => ?_
  cases answers.deinit component with
  | ok _ => exact .done _
  | error status => exact calm_cleanup_failSteps _ _

end

end

variable {activation : Activation Component} (storage : Storage Component) {component : Component}
  (answers : BootAnswers Component)

variable {progress : Progress Component}

theorem calm_startAllSteps :
    Calm (startAllSteps architecture answers progress) := by
  refine .bind (.storeState .starting) fun _ => ?_
  refine .bind (.foldlM (calm_startSteps architecture) _ _) fun started => ?_
  exact .bind (.foldlM (calm_validateSteps architecture) _ _) fun validated => .done _

theorem calm_containAllSteps {answers : CleanupAnswers Component}
    (report : CleanupReport Component) : Calm (containAllSteps architecture answers report) := by
  refine .bind (calm_containSystemExecutionSteps architecture _) fun system => ?_
  refine .bind (.foldlM (calm_requestExecutionStopSteps architecture) _ _) fun asked => ?_
  exact .foldlM (calm_containExecutionSteps architecture) _ _

theorem calm_rollbackSteps {answers : CleanupAnswers Component} {startedPhase : Bool} :
    Calm (rollbackSteps architecture answers startedPhase) := by
  have ended (stopped : CleanupReport Component) : Calm (do
        let released ← architecture.graph.reverseTopologicalOrder.foldlM
          (deinitializeComponentSteps answers) stopped
        storeState .failed
        pure released) := by
    refine .bind (.foldlM calm_deinitializeComponentSteps _ _) fun released => ?_
    exact .bind (.storeState .failed) fun _ => .done _
  refine .bind (.storeState .rollingBack) fun _ => .ite ?_ (.bind (.done _) ended)
  refine .bind (calm_containAllSteps architecture _) fun contained => ?_
  exact .bind (.foldlM calm_stopComponentSteps _ _) ended

/-- The commands of a boot are modest, and it succeeds only after it has stored `running`. -/
def Sincere (program : Steps Component (Except (BootError Component) (BootReport Component)))
    (stored : SystemState) : Prop :=
  Program.Along Command.Modest Command.stored
    (fun stored result => ∀ report, result = .ok report → stored = .running) stored program

variable (cleanup : CleanupAnswers Component) {stored : SystemState}

theorem sincere_failBootSteps {failure : Failure Component}
    {startedPhase : Bool} :
    Sincere (failBootSteps architecture cleanup progress failure startedPhase) stored := by
  refine (calm_rollbackSteps architecture stored).bind fun stored rolled _ => ?_
  refine ⟨trivial, fun found report succeeds => ?_⟩
  cases succeeds

omit [DecidableEq Component] in
theorem along_activateExecutionSteps (running : stored = .running) :
    Program.Along Command.Modest Command.stored (fun stored _ => stored = .running) stored
      (activateExecutionSteps architecture component) := by
  unfold activateExecutionSteps
  split_ifs
  · refine ⟨trivial, fun found => ?_⟩
    show Program.Along _ _ _ _ (if (found.records component).executionPrepared then _ else _)
    split_ifs
    · exact ⟨fun _ => id, fun _ => running⟩
    · exact running
  · exact running

theorem sincere_finishBootSteps : Sincere (finishBootSteps architecture progress) stored := by
  have commits : Calm (architecture.graph.topologicalOrder.foldlM
      (fun _ component => Program.ask (.commit component) fun _ => ()) () :
        Steps Component Unit) := by
    refine .foldlM (fun _ component => ?_) _ _
    exact fun _ => .ask trivial fun _ => trivial
  have activates : Program.Along Command.Modest Command.stored (fun stored _ => stored = .running)
      .running (architecture.graph.topologicalOrder.foldlM
        (fun _ component => activateExecutionSteps architecture component) () :
          Steps Component Unit) := by
    refine .foldlM _ (fun stored _ component running => ?_) rfl
    exact along_activateExecutionSteps architecture running
  refine (commits stored).bind fun _ _ _ => ?_
  refine ⟨trivial, fun _ => ⟨trivial, fun _ => ?_⟩⟩
  exact activates.bind fun _ _ running _ _ => running

omit [DecidableEq Component] in
theorem sincere_error (error : BootError Component) :
    Sincere (.done (.error error) : Steps Component _) stored := by
  intro report succeeds
  cases succeeds

theorem sincere_bootSteps : Sincere (bootSteps architecture answers cleanup) stored := by
  refine (Calm.loadState stored).bind fun stored state _ => ?_
  cases state with
  | dormant =>
    refine (Calm.storeState .initializing stored).bind fun stored _ _ => ?_
    refine (Calm.foldlM calm_initSteps _ _ stored).bind fun stored initialized _ => ?_
    cases initialized.primary with
    | some failure => exact sincere_failBootSteps architecture cleanup
    | none =>
      refine (calm_startAllSteps architecture answers stored).bind
        fun stored started _ => ?_
      cases started.primary with
      | some failure => exact sincere_failBootSteps architecture cleanup
      | none => exact sincere_finishBootSteps architecture
  | _ => exact sincere_error _

/-! ### The invariant -/

/-- A stamped record does not run, and once a report has finished the system does not; until then
the state of the system is what the boot has stored. -/
structure Kept (activation : Activation Component) : Prop where
  sincere : ∃ stored, Sincere activation.boot stored ∧
    (Unfinished activation → activation.storage.systemState = stored)
  records : ∀ report ∈ activation.reports, report.stamped = true →
    (activation.storage.records report.component).state ≠ .running
  system : ∀ report ∈ activation.reports, report.phase = .finished →
    activation.storage.systemState ≠ .running
  returned : ∀ report seen, activation.returned = some (.ok report, seen) → seen ≠ .failed

theorem records_mutate_self (component : Component)
    (change : ComponentRecord Component → ComponentRecord Component) :
    (storage.mutate component change).records component = change (storage.records component) :=
  update_self ..

theorem records_mutate_of_ne {other : Component}
    (change : ComponentRecord Component → ComponentRecord Component)
    (different : other ≠ component) :
    (storage.mutate component change).records other = storage.records other :=
  update_of_ne different ..

theorem state_mutate {storage : Storage Component} {other : Component}
    {change : ComponentRecord Component → ComponentRecord Component}
    (modest : ∀ record, (change record).state = .running → record.state = .running)
    (runs : ((storage.mutate component change).records other).state = .running) :
    (storage.records other).state = .running := by
  by_cases here : other = component
  · subst here
    rw [records_mutate_self] at runs
    exact modest _ runs
  · rwa [records_mutate_of_ne storage change here] at runs

theorem state_perform {storage : Storage Component} {command : Command Component}
    (modest : command.Modest) (uncommitted : ∀ other, command = .commit other → other ≠ component)
    (runs : ((storage.perform command).records component).state = .running) :
    (storage.records component).state = .running := by
  cases command with
  | mutate changed change => exact state_mutate modest runs
  | commit changed =>
    rwa [Storage.perform, records_mutate_of_ne _ _ (uncommitted changed rfl).symm] at runs
  | _ => exact runs

theorem systemState_perform (command : Command Component) :
    (storage.perform command).systemState = command.stored storage.systemState := by
  cases command <;> rfl

theorem Kept.boot (kept : Kept activation) {command : Command Component}
    {next : Storage Component → Steps Component (Except (BootError Component) (BootReport Component))}
    (program : activation.boot = .step command next) (timely : Timely activation .boot) :
    Kept { activation with
      storage := activation.storage.perform command
      boot := next activation.storage } := by
  obtain ⟨stored, sincere, published⟩ := kept.sincere
  rw [program] at sincere
  simp only [Timely, program] at timely
  refine ⟨⟨command.stored stored, sincere.2 activation.storage, fun unfinished => ?_⟩,
    fun report listed stamped runs => ?_, fun report listed finished runs => ?_, kept.returned⟩
  · rw [systemState_perform]
    rw [published unfinished]
  · refine kept.records report listed stamped (state_perform sincere.1 ?_ runs)
    rintro other rfl rfl
    exact absurd stamped (Bool.eq_false_iff.mp (timely report listed rfl))
  · cases command with
    | store state =>
      obtain rfl : state = .running := runs
      exact timely rfl report listed finished
    | _ => exact kept.system report listed finished runs

omit [DecidableEq Component] in
theorem Kept.returns (kept : Kept activation)
    {result : Except (BootError Component) (BootReport Component)}
    (program : activation.boot = .done result) (timely : Timely activation .returns) :
    Kept { activation with returned := some (result, activation.storage.systemState) } := by
  refine ⟨kept.sincere, kept.records, kept.system, fun report seen same failed => ?_⟩
  obtain ⟨⟩ := same
  obtain ⟨stored, sincere, published⟩ := kept.sincere
  rw [program] at sincere
  simp only [Timely, program] at timely
  have running := (published timely).trans (sincere report rfl)
  exact absurd (running.symm.trans failed) nofun

omit [DecidableEq Component] in
theorem Kept.fails (kept : Kept activation) (component : Component) (status : Status) :
    Kept { activation with
      reports := activation.reports ++ [{ component, status }] } := by
  have listed {report : ExecutionFailure Component}
      (member : report ∈ activation.reports ++ [{ component := component, status := status }])
      (stamped : report.stamped = true) : report ∈ activation.reports := by
    obtain earlier | last := mem_append.mp member
    · exact earlier
    · obtain rfl := mem_singleton.mp last
      exact nomatch stamped
  obtain ⟨stored, sincere, published⟩ := kept.sincere
  refine ⟨⟨stored, sincere, fun unfinished => published fun report member =>
    unfinished report (mem_append_left _ member)⟩, fun report member stamped =>
      kept.records report (listed member stamped) stamped, fun report member finished => ?_,
    kept.returned⟩
  refine kept.system report (listed member ?_) finished
  rw [ExecutionFailure.stamped, finished]

/-- What a step of a report does. -/
structure Advances (report advanced : ExecutionFailure Component)
    (before after : Storage Component) : Prop where
  component : advanced.component = report.component
  records : ∀ component, (after.records component).state = .running →
    (before.records component).state = .running
  stamps : advanced.stamped = true → report.stamped = true ∨
    (after.records report.component).state ≠ .running
  system : after.systemState = .running → before.systemState = .running
  finishes : advanced.phase = .finished → after.systemState ≠ .running
  continues : advanced.phase ≠ .finished → after.systemState = before.systemState
  unfinished : report.phase ≠ .finished

theorem seen_finished {current : SystemState}
    (finished : ReportPhase.seen current = .finished) : current ≠ .running := by
  rintro rfl
  exact absurd finished nofun

/-- One case for each stage of a report. -/
theorem advances_of_advance {report advanced : ExecutionFailure Component} {spurious : Bool}
    {before after : Storage Component}
    (stepped : report.advance spurious before = some (after, advanced)) :
    Advances report advanced before after := by
  have unfinished : report.phase ≠ .finished := by
    intro finished
    rw [ExecutionFailure.advance, finished] at stepped
    cases stepped
  unfold ExecutionFailure.advance at stepped
  cases phase : report.phase with
  | recording =>
    rw [phase] at stepped
    obtain ⟨⟩ := stepped
    have fails : ∀ record : ComponentRecord Component,
        (record.fail ⟨some report.component, .activateExecution, report.status, false⟩).state ≠
          .running := fun _ => nofun
    exact ⟨rfl, fun component => state_mutate fun record runs => absurd runs (fails record), nofun,
      id, nofun, fun _ => rfl, unfinished⟩
  | stamping =>
    rw [phase] at stepped
    obtain ⟨⟩ := stepped
    have stamps : ∀ record : ComponentRecord Component,
        (record.stamp report.status).state ≠ .running := fun _ => nofun
    refine ⟨rfl, fun component => state_mutate fun record runs => absurd runs (stamps record),
      fun _ => .inr ?_, id, nofun, fun _ => rfl, unfinished⟩
    rw [records_mutate_self]
    exact stamps _
  | loading =>
    rw [phase] at stepped
    obtain ⟨⟩ := stepped
    have stamped : report.stamped = true := by rw [ExecutionFailure.stamped, phase]
    exact ⟨rfl, fun _ => id, fun _ => .inl stamped, id, seen_finished, fun _ => rfl, unfinished⟩
  | swapping current =>
    rw [phase] at stepped
    have stamped : report.stamped = true := by rw [ExecutionFailure.stamped, phase]
    by_cases swaps : before.systemState = current ∧ spurious = false
    · simp only [if_pos swaps] at stepped
      obtain ⟨⟩ := stepped
      exact ⟨rfl, fun _ => id, fun _ => .inl stamped, nofun, fun _ => nofun,
        fun continues => absurd rfl continues, unfinished⟩
    · simp only [if_neg swaps] at stepped
      obtain ⟨⟩ := stepped
      exact ⟨rfl, fun _ => id, fun _ => .inl stamped, id, seen_finished, fun _ => rfl, unfinished⟩
  | finished => exact absurd phase unfinished

theorem Kept.report (kept : Kept activation) {index : Nat} {spurious : Bool}
    {report advanced : ExecutionFailure Component} {after : Storage Component}
    (listed : activation.reports[index]? = some report)
    (stepped : report.advance spurious activation.storage = some (after, advanced)) :
    Kept { activation with storage := after, reports := activation.reports.set index advanced } := by
  have advances := advances_of_advance stepped
  have inList : report ∈ activation.reports := mem_of_getElem? listed
  have inRange : index < activation.reports.length := (List.getElem?_eq_some_iff.mp listed).1
  obtain ⟨stored, sincere, published⟩ := kept.sincere
  refine ⟨⟨stored, sincere, fun unfinished => ?_⟩, fun other member stamped runs => ?_,
    fun other member finished runs => ?_, kept.returned⟩
  · rw [advances.continues (unfinished advanced (mem_set inRange advanced))]
    refine published fun other member finished => ?_
    obtain ⟨place, there⟩ := mem_iff_getElem?.mp member
    by_cases here : place = index
    · obtain ⟨⟩ := (here ▸ there).symm.trans listed
      exact advances.unfinished finished
    · have remains : (activation.reports.set index advanced)[place]? = some other := by
        rw [getElem?_set_ne (Ne.symm here), there]
      exact unfinished other (mem_of_getElem? remains) finished
  · obtain earlier | rfl := mem_or_eq_of_mem_set member
    · exact kept.records other earlier stamped (advances.records _ runs)
    · rw [advances.component] at runs
      obtain before | settled := advances.stamps stamped
      · exact kept.records report inList before (advances.records _ runs)
      · exact settled runs
  · obtain earlier | rfl := mem_or_eq_of_mem_set member
    · exact kept.system other earlier finished (advances.system runs)
    · exact advances.finishes finished runs

theorem kept_begin {storage : Storage Component} :
    Kept (.begin architecture answers cleanup storage) where
  sincere := ⟨_, sincere_bootSteps architecture answers cleanup, fun _ => rfl⟩
  records _ listed := absurd listed not_mem_nil
  system _ listed := absurd listed not_mem_nil
  returned _ _ same := absurd same.symm (some_ne_none _)

/-- A step that comes in time keeps the invariant. -/
theorem Kept.step {before after : Activation Component} {event : ActivationStep Component}
    (kept : Kept before) (timely : Timely before event)
    (stepped : activationMachine.step before event = some after) : Kept after := by
  cases event with
  | boot =>
    cases program : before.boot with simp only [activationMachine, program] at stepped
    | done result => cases stepped
    | step command next =>
      cases stepped
      exact kept.boot program timely
  | returns =>
    cases program : before.boot with
    | step command next =>
      simp only [activationMachine, program] at stepped
      cases stepped
    | done result =>
      cases returned : before.returned with
      | some earlier =>
        simp only [activationMachine, program, returned] at stepped
        cases stepped
      | none =>
        simp only [activationMachine, program, returned] at stepped
        cases stepped
        have returns := kept.returns program timely
        rw [program] at returns
        exact returns
  | fails component status =>
    simp only [activationMachine] at stepped
    split_ifs at stepped
    cases stepped
    exact kept.fails component status
  | report index spurious =>
    obtain ⟨report, listed, moves⟩ := bind_eq_some_iff.mp stepped
    obtain ⟨⟨storage, later⟩, advanced, same⟩ := bind_eq_some_iff.mp moves
    obtain ⟨⟩ := same
    exact kept.report listed advanced

/-- An execution failure is not overwritten: in every run in which the boot is not late, once a
report has finished neither the record of its component nor the system runs, and the boot does not
return a running system that has failed. -/
theorem execution_failures_are_kept (architecture : Architecture Component)
    (answers : BootAnswers Component) (cleanup : CleanupAnswers Component)
    (storage : Storage Component) {activation : Activation Component}
    (reached : activationMachine.ReachableWhere Timely
      (.begin architecture answers cleanup storage) activation) :
    (∀ report ∈ activation.reports, report.phase = .finished →
      (activation.storage.records report.component).state ≠ .running ∧
        activation.storage.systemState ≠ .running) ∧
    ∀ report seen, activation.returned = some (.ok report, seen) →
      report.finalState = .running → seen ≠ .failed := by
  have kept : Kept activation :=
    reached.invariant Kept (kept_begin architecture answers cleanup)
      fun _ _ _ kept timely stepped => kept.step timely stepped
  refine ⟨fun report listed finished => ⟨kept.records report listed ?_,
    kept.system report listed finished⟩, fun report seen returned _ =>
      kept.returned report seen returned⟩
  rw [ExecutionFailure.stamped, finished]

end

/-! ### The driver and the service -/

/-- The boot of the driver and the service. -/
abbrev booting : Activation (Fin 2) := .begin driverAndService {} {} {}

/-- The service fails, and its report is done without interruption. -/
abbrev serviceFails (index : Nat) : List (ActivationStep (Fin 2)) :=
  .fails (Fin.last 1) .unexpectedExit :: replicate 4 (.report index false)

/-- The service fails after the boot has returned. -/
theorem driverAndService_keeps_a_failure :
    ∃ activation, activationMachine.ReachableWhere Timely booting activation ∧
      activation.reports = [⟨1, .unexpectedExit, .finished⟩] ∧
      (activation.storage.records 1).state ≠ .running ∧
      activation.storage.systemState ≠ .running := by
  have reached := activationMachine.reachableWhere_get Timely booting
    (replicate 27 .boot ++ .returns :: serviceFails 0) (by decide) (by rfl)
  have kept := (execution_failures_are_kept driverAndService {} {} {} reached).1
    ⟨1, .unexpectedExit, .finished⟩ (by decide) rfl
  exact ⟨_, reached, by decide, kept⟩

/-- A report that finishes while the system is starting is overwritten: the record and the system
run. And a service that fails as soon as it is activated: the boot returns a running system, and the
system has failed. -/
theorem driverAndService_loses_a_failure :
    (∃ activation, activationMachine.Reachable booting activation ∧
      activation.reports = [⟨1, .unexpectedExit, .finished⟩] ∧
      (activation.storage.records 1).state = .running ∧
      activation.storage.systemState = .running) ∧
    ∃ activation, activationMachine.Reachable booting activation ∧
      ∃ report, activation.returned = some (.ok report, .failed) ∧ report.finalState = .running :=
  ⟨⟨_, ⟨replicate 19 .boot ++ serviceFails 0 ++ replicate 8 .boot, rfl⟩, by decide⟩,
    ⟨_, ⟨replicate 27 .boot ++ serviceFails 0 ++ [.returns], rfl⟩, _, rfl, rfl⟩⟩

end Solar.Lifecycle
