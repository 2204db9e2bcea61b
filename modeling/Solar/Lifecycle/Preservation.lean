/-
This file proves what a rollback and a stop leave behind. The containment of all
execution comes first and blocks what uncontained execution can reach; then two
sweeps go through the components, one that stops them and one that deinitialises
them, and both pass over what is blocked.

A component stays blocked for ever. So a later stop passes over components that
were blocked by an earlier operation, also when all execution is contained by
then: it leaves them as they are, and it may even end in success.
-/

import Solar.Library.Transition
import Solar.Lifecycle.Forward

namespace Solar.Lifecycle

open List

variable {Component : Type} [DecidableEq Component] {architecture : Architecture Component}

/-! ### Sweeps -/

/-- What a sweep has done when it has gone through some components. -/
structure Swept (sweep : Sweep Component) (before : Cleanup Component) (done : List Component)
    (after : Cleanup Component) : Prop where
  calls : ∃ new, after.storage.trace = before.storage.trace ++ new ∧
    (∀ call ∈ new, ∃ component ok, call = sweep.hook component ok ∧ component ∈ done ∧
      sweep.Takes before.storage component) ∧
    ∀ component ∈ done, sweep.Takes before.storage component → ∃ ok, sweep.hook component ok ∈ new
  flags : ∀ component, after.storage.flags component =
    if component ∈ done ∧ sweep.Takes before.storage component then
      sweep.clear (before.storage.flags component)
    else before.storage.flags component
  uncontained : after.uncontainedExecution = before.uncontainedExecution

theorem Swept.nil (sweep : Sweep Component) (cleanup : Cleanup Component) :
    Swept sweep cleanup [] cleanup where
  calls := ⟨[], (append_nil _).symm, nofun, nofun⟩
  flags component := by simp
  uncontained := rfl

variable {after before : Cleanup Component} {sweep : Sweep Component} {order : List Component}
  {component : Component}

theorem Swept.skip {done : List Component} (swept : Swept sweep before done after)
    (fresh : component ∉ done) (skips : ¬ sweep.Takes after.storage component) :
    Swept sweep before (done ++ [component]) after := by
  have idle : ¬ sweep.Takes before.storage component := by
    unfold Sweep.Takes at skips ⊢
    rwa [swept.flags, if_neg fun both => fresh both.1] at skips
  obtain ⟨new, trace, called, all⟩ := swept.calls
  refine ⟨⟨new, trace, fun call listed => ?_, fun other listed takes => ?_⟩, fun other => ?_,
    swept.uncontained⟩
  · obtain ⟨other, ok, same, among, takes⟩ := called call listed
    exact ⟨other, ok, same, mem_append_left _ among, takes⟩
  · obtain before | now := mem_append.mp listed
    · exact all other before takes
    · exact absurd (mem_singleton.mp now ▸ takes) idle
  · rw [swept.flags]
    by_cases here : other = component
    · subst here
      simp [fresh, idle]
    · simp [here]

theorem Swept.take {middle : Cleanup Component} {done : List Component}
    (swept : Swept sweep before done middle) (fresh : component ∉ done)
    (takes : sweep.Takes middle.storage component) (called : sweep.Called component middle after) :
    Swept sweep before (done ++ [component]) after := by
  have untouched : middle.storage.flags component = before.storage.flags component := by
    rw [swept.flags, if_neg fun both => fresh both.1]
  have took : sweep.Takes before.storage component := by
    unfold Sweep.Takes at takes ⊢
    rwa [untouched] at takes
  obtain ⟨new, trace, among, all⟩ := swept.calls
  obtain ⟨ok, ran⟩ := called.ran
  refine ⟨⟨new ++ [sweep.hook component ok], ?_, fun call listed => ?_,
    fun other listed takes => ?_⟩, fun other => ?_, called.uncontained.trans swept.uncontained⟩
  · rw [ran.trace, trace, append_assoc]
  · obtain earlier | now := mem_append.mp listed
    · obtain ⟨other, ok, same, among, takes⟩ := among call earlier
      exact ⟨other, ok, same, mem_append_left _ among, takes⟩
    · exact ⟨component, ok, mem_singleton.mp now, mem_append_right _ (mem_singleton_self _), took⟩
  · obtain earlier | now := mem_append.mp listed
    · obtain ⟨ok, called⟩ := all other earlier takes
      exact ⟨ok, mem_append_left _ called⟩
    · rw [mem_singleton.mp now]
      exact ⟨ok, mem_append_right _ (mem_singleton_self _)⟩
  · by_cases here : other = component
    · subst here
      simp [ran.own, untouched, took]
    · rw [ran.others other here, swept.flags]
      simp [here]

theorem swept_foldl {step : Cleanup Component → Component → Cleanup Component}
    (steps : sweep.Steps step) (distinct : order.Nodup) (cleanup : Cleanup Component) :
    Swept sweep cleanup order (order.foldl step cleanup) := by
  refine Prefixes.foldl_rule step order cleanup
    (motive := fun done after => Swept sweep cleanup done after) (.nil sweep cleanup) ?_
  intro done component rest split swept
  have fresh := Prefixes.notMem_of_nodup distinct split
  by_cases here : sweep.Takes (done.foldl step cleanup).storage component
  · exact swept.take fresh here (steps.takes _ component here)
  · rw [steps.skips _ component here]
    exact swept.skip fresh here

section

variable (architecture) (answers : CleanupAnswers Component) (cleanup : Cleanup Component)

theorem swept_stopAll :
    Swept stopping cleanup architecture.graph.reverseTopologicalOrder
      (stopAll architecture answers cleanup) :=
  swept_foldl (steps_stopComponent answers) architecture.graph.reverseTopologicalOrder_nodup cleanup

theorem swept_deinitializeAll :
    Swept deinitializing cleanup architecture.graph.reverseTopologicalOrder
      (deinitializeAll architecture answers cleanup) :=
  swept_foldl (steps_deinitializeComponent answers)
    architecture.graph.reverseTopologicalOrder_nodup cleanup

end

theorem Swept.flags_stopping (swept : Swept stopping before order after)
    (listed : ∀ component, component ∈ order) :
    after.storage.flags component = { before.storage.flags component with
      startSucceeded := (before.storage.flags component).startSucceeded &&
        (before.storage.flags component).cleanupBlocked } := by
  rw [swept.flags]
  cases flags : before.storage.flags component with
  | mk init start prepared contained blocked =>
    cases start <;> cases blocked <;> simp [listed, Sweep.Takes, stopping, flags]

theorem Swept.flags_deinitializing (swept : Swept deinitializing before order after)
    (listed : ∀ component, component ∈ order) (component : Component) :
    after.storage.flags component = { before.storage.flags component with
      initSucceeded := (before.storage.flags component).initSucceeded &&
        (before.storage.flags component).cleanupBlocked } := by
  rw [swept.flags]
  cases flags : before.storage.flags component with
  | mk init start prepared contained blocked =>
    cases init <;> cases blocked <;> simp [listed, Sweep.Takes, deinitializing, flags]

theorem Swept.hook_mem (swept : Swept sweep before order after)
    (listed : ∀ component, component ∈ order) :
    ∃ new, after.storage.trace = before.storage.trace ++ new ∧
      (∀ call ∈ new, ∃ component ok, call = sweep.hook component ok) ∧
      ∀ component, (∃ ok, sweep.hook component ok ∈ new) ↔
        sweep.Takes before.storage component := by
  obtain ⟨new, trace, called, all⟩ := swept.calls
  refine ⟨new, trace, fun call among => ?_, fun component => ⟨?_, all component (listed component)⟩⟩
  · obtain ⟨component, ok, same, -⟩ := called call among
    exact ⟨component, ok, same⟩
  · rintro ⟨ok, among⟩
    obtain ⟨other, given, same, -, takes⟩ := called _ among
    have here := congrArg HookCall.component same
    rw [sweep.component_hook, sweep.component_hook] at here
    exact here ▸ takes

/-! ### Whole operations -/

/-- What a rollback or a stop has done: the components that were not blocked, and are not reached by
uncontained execution, were stopped and deinitialised, and no others. -/
structure CleanedUp (architecture : Architecture Component) (answers : CleanupAnswers Component)
    (before : Storage Component) (after : Cleanup Component) : Prop where
  calls : ∃ new, after.storage.trace = before.trace ++ new ∧
    (∀ component, (∃ ok, .stop component ok ∈ new) ↔
      (before.flags component).startSucceeded = true ∧
        ¬ ((before.flags component).cleanupBlocked = true ∨
          Preserved architecture answers before component)) ∧
    ∀ component, (∃ ok, .deinit component ok ∈ new) ↔
      (before.flags component).initSucceeded = true ∧
        ¬ ((before.flags component).cleanupBlocked = true ∨
          Preserved architecture answers before component)
  starts : ∀ component, (after.storage.flags component).startSucceeded = true ↔
    (before.flags component).startSucceeded = true ∧
      ((before.flags component).cleanupBlocked = true ∨
        Preserved architecture answers before component)
  inits : ∀ component, (after.storage.flags component).initSucceeded = true ↔
    (before.flags component).initSucceeded = true ∧
      ((before.flags component).cleanupBlocked = true ∨
        Preserved architecture answers before component)
  prepared : ∀ component, (after.storage.flags component).executionPrepared = true →
    (before.flags component).executionPrepared = true
  executes : ∀ component, executes architecture after.storage component =
    escapes architecture answers before component
  uncontained : after.uncontainedExecution = 0 ↔ systemEscapes architecture answers = false ∧
    ∀ component, escapes architecture answers before component = false

/-- The passes of a cleanup together: what is not contained keeps its resources. -/
theorem cleanedUp_deinitializeAll (architecture : Architecture Component)
    (answers : CleanupAnswers Component)
    (start middle : Cleanup Component) (fresh : start.uncontainedExecution = 0)
    (trace : middle.storage.trace =
      (stopAll architecture answers (containAll architecture answers start)).storage.trace)
    (flags : middle.storage.flags =
      (stopAll architecture answers (containAll architecture answers start)).storage.flags)
    (count : middle.uncontainedExecution =
      (stopAll architecture answers (containAll architecture answers start)).uncontainedExecution) :
    CleanedUp architecture answers start.storage (deinitializeAll architecture answers middle) := by
  have contained := containedAll architecture answers start
  have stopped := swept_stopAll architecture answers (containAll architecture answers start)
  have released := swept_deinitializeAll architecture answers middle
  have listed := architecture.graph.mem_reverseTopologicalOrder
  generalize containAll architecture answers start = held at contained stopped trace flags count
  generalize stopAll architecture answers held = swept at stopped trace flags count
  have middleFlags : ∀ component, middle.storage.flags component =
      { held.storage.flags component with
        startSucceeded := (held.storage.flags component).startSucceeded &&
          (held.storage.flags component).cleanupBlocked } := by
    intro component
    rw [flags]
    exact stopped.flags_stopping listed
  have afterFlags := released.flags_deinitializing listed
  refine ⟨?_, fun component => ?_, fun component => ?_, fun component prepared => ?_,
    fun component => ?_, ?_⟩
  · obtain ⟨stops, stopTrace, stopCalls, stopHooks⟩ := stopped.hook_mem listed
    obtain ⟨deinits, deinitTrace, deinitCalls, deinitHooks⟩ := released.hook_mem listed
    refine ⟨stops ++ deinits, ?_, fun component => ?_, fun component => ?_⟩
    · rw [deinitTrace, trace, stopTrace, contained.trace, append_assoc]
    · have apart : ∀ ok, HookCall.stop component ok ∉ deinits := by
        intro ok among
        obtain ⟨_, _, same⟩ := deinitCalls _ among
        exact absurd same nofun
      simp only [mem_append, apart, or_false]
      refine (stopHooks component).trans ?_
      rw [← contained.blocked, Bool.not_eq_true, ← contained.starts]
      rfl
    · have apart : ∀ ok, HookCall.deinit component ok ∉ stops := by
        intro ok among
        obtain ⟨_, _, same⟩ := stopCalls _ among
        exact absurd same nofun
      simp only [mem_append, apart, false_or]
      refine (deinitHooks component).trans ?_
      rw [Sweep.Takes, ← contained.blocked, Bool.not_eq_true, ← contained.inits, middleFlags]
      rfl
  · rw [afterFlags, middleFlags]
    simp [contained.starts, contained.blocked]
  · rw [afterFlags]
    simp [middleFlags, contained.inits, contained.blocked]
  · refine contained.prepared component ?_
    rw [afterFlags, middleFlags] at prepared
    exact prepared
  · rw [← contained.executes]
    refine executes_eq_of_flags ?_ ?_
    · rw [afterFlags, middleFlags]
    · rw [afterFlags, middleFlags]
  · rw [released.uncontained, count, stopped.uncontained, contained.uncontained]
    simp [fresh]

variable {answers : CleanupAnswers Component}

omit [DecidableEq Component] in
/-- Only the records, the trace and the count matter. -/
theorem CleanedUp.congr {first before : Storage Component} {last : Cleanup Component}
    (cleaned : CleanedUp architecture answers first last) (records : before.records = first.records)
    (trace : before.trace = first.trace)
    (finalRecords : after.storage.records = last.storage.records)
    (finalTrace : after.storage.trace = last.storage.trace)
    (count : after.uncontainedExecution = last.uncontainedExecution) :
    CleanedUp architecture answers before after := by
  have flags : before.flags = first.flags := by
    funext component
    rw [Storage.flags, records, Storage.flags]
  have finalFlags : after.storage.flags = last.storage.flags := by
    funext component
    rw [Storage.flags, finalRecords, Storage.flags]
  have running : ∀ component, escapes architecture answers before component =
      escapes architecture answers first component := by
    intro component
    rw [escapes, Lifecycle.executes, records, escapes, Lifecycle.executes]
  have preserved : ∀ component, Preserved architecture answers before component ↔
      Preserved architecture answers first component := by
    intro component
    simp only [Preserved, running]
  refine ⟨?_, fun component => ?_, fun component => ?_, fun component => ?_, fun component => ?_, ?_⟩
  · simp only [finalTrace, trace, flags, preserved]
    exact cleaned.calls
  · simp only [finalFlags, flags, preserved]
    exact cleaned.starts component
  · simp only [finalFlags, flags, preserved]
    exact cleaned.inits component
  · rw [finalFlags, flags]
    exact cleaned.prepared component
  · rw [running, ← cleaned.executes, Lifecycle.executes, finalRecords, Lifecycle.executes]
  · simp only [count, running]
    exact cleaned.uncontained

section

variable (architecture) (answers : CleanupAnswers Component) (storage : Storage Component)

theorem cleanedUp_stopCleanup :
    CleanedUp architecture answers storage (stopCleanup architecture answers storage) := by
  let start : Cleanup Component := { storage := { storage with systemState := .stopping } }
  let stopped := stopAll architecture answers (containAll architecture answers start)
  have cleaned := cleanedUp_deinitializeAll architecture answers start
    { stopped with storage := { stopped.storage with systemState := .deinitializing } }
    rfl rfl rfl rfl
  exact cleaned.congr rfl rfl rfl rfl rfl

theorem cleanedUp_rollback :
    CleanedUp architecture answers storage (rollback architecture answers storage true) := by
  let start : Cleanup Component := { storage := { storage with systemState := .rollingBack } }
  have cleaned := cleanedUp_deinitializeAll architecture answers start
    (stopAll architecture answers (containAll architecture answers start)) rfl rfl rfl rfl
  exact cleaned.congr rfl rfl rfl rfl rfl

end

/-! ### What stays alive -/

/-- The init hook of the component has succeeded, and its deinit hook was not called. -/
def Initialized (trace : List (HookCall Component)) (component : Component) : Prop :=
  .init component true ∈ trace ∧ ∀ ok, .deinit component ok ∉ trace

/-- The start hook of the component has succeeded, its execution was prepared, and its stop hook was
not called. Which components are ready is decided by the boot. -/
def Started (ready : Component → Prop) (trace : List (HookCall Component)) (component : Component) :
    Prop :=
  (.start component true ∈ trace ∧ ready component) ∧ ∀ ok, .stop component ok ∉ trace

/-- Some execution is not contained. -/
def Escaping (architecture : Architecture Component) (answers : CleanupAnswers Component)
    (storage : Storage Component) : Prop :=
  systemEscapes architecture answers = true ∨
    ∃ component, escapes architecture answers storage component = true

/-- What is preserved stays alive: no hook of it is called, all others are cleaned up, and execution
that escapes is reported and leaves the system failed. -/
structure StaysAlive (ready : Component → Prop) (escaping : Prop) (preserved : Component → Prop)
    (before after : Storage Component) (uncontained : Nat) : Prop where
  calls : ∃ new, after.trace = before.trace ++ new ∧ (∀ component, preserved component →
      ∀ ok, .stop component ok ∉ new ∧ .deinit component ok ∉ new) ∧
    ∀ component, ¬ preserved component →
      (Started ready before.trace component → ∃ ok, .stop component ok ∈ new) ∧
      (Initialized before.trace component → ∃ ok, .deinit component ok ∈ new)
  reported : escaping → uncontained ≠ 0 ∧ after.systemState = .failed

/-- What is asked of the records: a component that is not preserved is recorded as what it is, and not
blocked. -/
def Cleanable (ready preserved : Component → Prop) (storage : Storage Component) : Prop :=
  ∀ component, ¬ preserved component →
    (Started ready storage.trace component → (storage.flags component).startSucceeded = true ∧
      (storage.flags component).cleanupBlocked = false) ∧
    (Initialized storage.trace component → (storage.flags component).initSucceeded = true ∧
      (storage.flags component).cleanupBlocked = false)

omit [DecidableEq Component] in
/-- The hooks that are called decide what stays alive. -/
theorem staysAlive_iff {ready : Component → Prop} {escaping : Prop} {preserved : Component → Prop}
    {before after : Storage Component} {uncontained : Nat}
    (calls : ∃ new, after.trace = before.trace ++ new ∧
      (∀ component, (∃ ok, .stop component ok ∈ new) ↔
        (before.flags component).startSucceeded = true ∧
          ¬ ((before.flags component).cleanupBlocked = true ∨ preserved component)) ∧
      ∀ component, (∃ ok, .deinit component ok ∈ new) ↔
        (before.flags component).initSucceeded = true ∧
          ¬ ((before.flags component).cleanupBlocked = true ∨ preserved component))
    (reported : escaping → uncontained ≠ 0 ∧ after.systemState = .failed) :
    StaysAlive ready escaping preserved before after uncontained ↔
      Cleanable ready preserved before := by
  obtain ⟨new, trace, stops, deinits⟩ := calls
  constructor
  · intro alive component free
    obtain ⟨found, same, -, others⟩ := alive.calls
    obtain rfl : found = new := append_cancel_left (same.symm.trans trace)
    refine ⟨fun started => ?_, fun initialized => ?_⟩
    · obtain ⟨recorded, unblocked⟩ := (stops component).mp ((others component free).1 started)
      exact ⟨recorded, Bool.eq_false_iff.mpr fun blocked => unblocked (.inl blocked)⟩
    · obtain ⟨recorded, unblocked⟩ :=
        (deinits component).mp ((others component free).2 initialized)
      exact ⟨recorded, Bool.eq_false_iff.mpr fun blocked => unblocked (.inl blocked)⟩
  · intro cleanable
    refine ⟨⟨new, trace, fun component kept ok => ⟨fun among => ?_, fun among => ?_⟩,
      fun component free => ⟨fun started => ?_, fun initialized => ?_⟩⟩, reported⟩
    · exact ((stops component).mp ⟨ok, among⟩).2 (.inr kept)
    · exact ((deinits component).mp ⟨ok, among⟩).2 (.inr kept)
    · obtain ⟨recorded, unblocked⟩ := (cleanable component free).1 started
      exact (stops component).mpr ⟨recorded, not_or.mpr ⟨Bool.eq_false_iff.mp unblocked, free⟩⟩
    · obtain ⟨recorded, unblocked⟩ := (cleanable component free).2 initialized
      exact (deinits component).mpr ⟨recorded, not_or.mpr ⟨Bool.eq_false_iff.mp unblocked, free⟩⟩

omit [DecidableEq Component] in
theorem CleanedUp.uncontained_ne_zero {before : Storage Component}
    (cleaned : CleanedUp architecture answers before after)
    (escaping : Escaping architecture answers before) : after.uncontainedExecution ≠ 0 := by
  intro none
  obtain ⟨system, components⟩ := cleaned.uncontained.mp none
  obtain escapes | ⟨component, escapes⟩ := escaping
  · exact Bool.eq_false_iff.mp system escapes
  · exact Bool.eq_false_iff.mp (components component) escapes

/-- A rollback of the initialisation only deinitialises. -/
theorem calls_rollback_false {storage : Storage Component}
    (unstarted : ∀ component, (storage.flags component).startSucceeded = false) :
    ∃ new, (rollback architecture answers storage false).storage.trace = storage.trace ++ new ∧
      (∀ component, (∃ ok, .stop component ok ∈ new) ↔
        (storage.flags component).startSucceeded = true ∧
          ¬ ((storage.flags component).cleanupBlocked = true ∨ (false = true ∧
            Preserved architecture answers storage component))) ∧
      ∀ component, (∃ ok, .deinit component ok ∈ new) ↔
        (storage.flags component).initSucceeded = true ∧
          ¬ ((storage.flags component).cleanupBlocked = true ∨ (false = true ∧
            Preserved architecture answers storage component)) := by
  let start : Cleanup Component := { storage := { storage with systemState := .rollingBack } }
  have released := swept_deinitializeAll architecture answers start
  obtain ⟨new, trace, called, hooks⟩ := released.hook_mem
    architecture.graph.mem_reverseTopologicalOrder
  refine ⟨new, trace, fun component => ?_, fun component => ?_⟩
  · constructor
    · rintro ⟨ok, among⟩
      obtain ⟨_, _, same⟩ := called _ among
      exact absurd same nofun
    · rintro ⟨started, -⟩
      exact absurd started (Bool.eq_false_iff.mp (unstarted component))
  · refine (hooks component).trans ?_
    simp only [Bool.false_eq_true, false_and, or_false, Bool.not_eq_true]
    rfl

/-- Uncontained execution keeps what it reaches: in every rollback and every stop, exactly when the
records of all other components say what they are and do not block them. This holds whichever
components are counted as ready. -/
theorem uncontained_execution_keeps_what_it_reaches (architecture : Architecture Component)
    (answers : CleanupAnswers Component) (ready : Component → Prop) :
    (∀ booting failure startedPhase, (startedPhase = false →
        ∀ component, (booting.storage.flags component).startSucceeded = false) →
      ∃ report,
        (failBoot architecture answers booting failure startedPhase).1.lastBoot = some report ∧
        (StaysAlive ready (startedPhase = true ∧ Escaping architecture answers booting.storage)
            (fun component => startedPhase = true ∧
              Preserved architecture answers booting.storage component)
            booting.storage (failBoot architecture answers booting failure startedPhase).1
            report.uncontainedExecution ↔
          Cleanable ready (fun component => startedPhase = true ∧
            Preserved architecture answers booting.storage component) booting.storage)) ∧
    ∀ storage, stoppable architecture storage = true →
      ∃ report, (stop architecture answers storage).1.lastStop = some report ∧
        (StaysAlive ready (Escaping architecture answers storage)
            (Preserved architecture answers storage) storage
            (stop architecture answers storage).1 report.uncontainedExecution ↔
          Cleanable ready (Preserved architecture answers storage) storage) := by
  constructor
  · intro booting failure startedPhase phase
    refine ⟨_, rfl, ?_⟩
    cases startedPhase with
    | false =>
      exact staysAlive_iff (calls_rollback_false (phase rfl))
        fun escaping => nomatch escaping.1
    | true =>
      have cleaned := cleanedUp_rollback architecture answers booting.storage
      refine staysAlive_iff ?_ fun escaping => ⟨cleaned.uncontained_ne_zero escaping.2, rfl⟩
      simp only [true_and]
      exact cleaned.calls
  · intro storage stoppable
    have cleaned := cleanedUp_stopCleanup architecture answers storage
    simp only [stop, if_pos stoppable]
    refine ⟨_, rfl, staysAlive_iff cleaned.calls fun escaping => ?_⟩
    have counted := cleaned.uncontained_ne_zero escaping
    refine ⟨counted, if_neg ?_⟩
    simp only [Cleanup.clean, Bool.and_eq_true, decide_eq_true_eq, not_and]
    exact fun _ => counted

/-- A driver, and a service that depends on it and has execution. -/
abbrev driverAndService : Architecture (Fin 2) where
  graph := {
    components := [0, 1]
    dependencies := fun component => if component = 1 then [0] else []
    rank := fun component => component.val
    distinct := by decide
    complete := by decide
    acyclic := by decide }
  participates component := component = 1
  systemParticipates := false

/-- The service does not end within its time. -/
abbrev serviceHangs : CleanupAnswers (Fin 2) where
  contain := fun _ => { status := .timeout, contained := false, timedOut := true }

/-- The system after a boot. -/
abbrev afterBoot : Storage (Fin 2) := (boot driverAndService {} {} {}).1

/-- The system after a stop in which the service hung. -/
abbrev afterHang : Storage (Fin 2) := (stop driverAndService serviceHangs afterBoot).1

/-- The components that are ready after the boot: both. -/
abbrev bothReady (component : Fin 2) : Prop := prepares driverAndService {} component = true

theorem hung_service_keeps_its_driver :
    ∃ report, afterHang.lastStop = some report ∧
      StaysAlive bothReady (Escaping driverAndService serviceHangs afterBoot)
        (Preserved driverAndService serviceHangs afterBoot) afterBoot afterHang
        report.uncontainedExecution := by
  obtain ⟨report, published, alive⟩ :=
    (uncontained_execution_keeps_what_it_reaches driverAndService serviceHangs bothReady).2 afterBoot
      (by decide)
  refine ⟨report, published, alive.mpr fun component _ => ⟨fun _ => ?_, fun _ => ?_⟩⟩
  · exact (by decide : ∀ component, (afterBoot.flags component).startSucceeded = true ∧
      (afterBoot.flags component).cleanupBlocked = false) component
  · exact (by decide : ∀ component, (afterBoot.flags component).initSucceeded = true ∧
      (afterBoot.flags component).cleanupBlocked = false) component

/-- The service has ended by the time of the second stop, and nothing is uncontained: the driver is
still not stopped, as it stays blocked. -/
theorem second_stop_passes_the_driver_over :
    stoppable driverAndService afterHang = true ∧
    ∀ report, (stop driverAndService {} afterHang).1.lastStop = some report →
      ¬ StaysAlive bothReady (Escaping driverAndService {} afterHang)
        (Preserved driverAndService {} afterHang) afterHang
        (stop driverAndService {} afterHang).1 report.uncontainedExecution := by
  refine ⟨by decide, fun report _ alive => ?_⟩
  obtain ⟨new, trace, -, others⟩ := alive.calls
  have nothing : new = [] := by
    have unchanged : (stop driverAndService {} afterHang).1.trace = afterHang.trace := by decide
    exact append_right_eq_self.mp (trace.symm.trans unchanged)
  have free : ¬ Preserved driverAndService {} afterHang 0 := by
    rintro (⟨system, -⟩ | ⟨component, escapes, -⟩)
    · exact absurd system (by decide)
    · revert component
      decide
  obtain ⟨ok, called⟩ := (others 0 free).1 ⟨⟨by decide, by decide⟩, by decide⟩
  rw [nothing] at called
  exact absurd called not_mem_nil

end Solar.Lifecycle
