/-
This file proves when a stopped system has released everything. A stop that ends
in success, or that contains all execution, leaves no component initialised,
started or executing, as long as no component that still holds something was
blocked before it: what an earlier operation has blocked is never unblocked, and
the end of a stop is judged by the failures of that stop alone.
-/

import Solar.Lifecycle.Forward
import Solar.Lifecycle.Preservation

namespace Solar.Lifecycle

variable {Component : Type} [DecidableEq Component] {architecture : Architecture Component}
  {storage : Storage Component}

/-! ### The calls -/

/-- A call of the engine, with what is answered to it. -/
inductive Call (Component : Type)
  | boot (answers : BootAnswers Component) (cleanup : CleanupAnswers Component)
  | stop (answers : CleanupAnswers Component)

section

variable (architecture : Architecture Component)

/-- The calls of the engine, one after another. -/
def engineMachine : Transition.Machine (Storage Component) (Call Component) where
  step storage
    | .boot answers cleanup => some (boot architecture answers cleanup storage).1
    | .stop answers => some (stop architecture answers storage).1

/-! ### Execution -/

/-- Only components that have execution are prepared. -/
def Executing (storage : Storage Component) : Prop :=
  ∀ component, (storage.flags component).executionPrepared = true →
    architecture.participates component = true

end

variable {before after : Storage Component} {answers : CleanupAnswers Component}

theorem Executing.of_ran {call : HookCall Component} {component : Component} {flags : Flags}
    (executing : Executing architecture before) (ran : Ran call component flags before after)
    (own : flags.executionPrepared = true → (before.flags component).executionPrepared = true ∨
      architecture.participates component = true) : Executing architecture after := by
  intro other prepared
  by_cases here : other = component
  · subst here
    rw [ran.own] at prepared
    exact (own prepared).elim (executing other) id
  · rw [ran.others other here] at prepared
    exact executing other prepared

omit [DecidableEq Component] in
theorem Executing.of_flags (executing : Executing architecture before)
    (flags : after.flags = before.flags) : Executing architecture after := by
  intro component prepared
  rw [flags] at prepared
  exact executing component prepared

section

variable (executing : Executing architecture storage)

include executing

theorem executing_initializeAll (answers : BootAnswers Component) :
    Executing architecture (initializeAll architecture answers storage).storage := by
  refine Prefixes.foldl_invariant _ _ _
    (motive := fun booting : Booting Component => Executing architecture booting.storage)
    executing ?_
  intro booting component _ earlier
  cases calm : booting.primary with
  | some failure =>
    rw [initStep_of_failed (by rw [calm]; rfl)]
    exact earlier
  | none => exact earlier.of_ran (initStep_spec answers calm component).1 .inl

omit executing in
theorem executing_startAll {booting : Booting Component}
    (executing : Executing architecture booting.storage) (answers : BootAnswers Component) :
    Executing architecture (startAll architecture answers booting).storage := by
  refine Executing.of_flags ?_ (follows_startAll architecture answers booting).flags
  refine Prefixes.foldl_invariant _ _ _
    (motive := fun booting : Booting Component => Executing architecture booting.storage)
    executing ?_
  intro booting component _ earlier
  cases calm : booting.primary with
  | some failure =>
    rw [startStep_of_failed (by rw [calm]; rfl)]
    exact earlier
  | none =>
    exact earlier.of_ran (startStep_spec architecture answers calm component).1
      Flags.prepared_of_started

theorem executing_rollback {startedPhase : Bool} :
    Executing architecture (rollback architecture answers storage startedPhase).storage := by
  cases startedPhase with
  | true =>
    intro component prepared
    exact executing component
      ((cleanedUp_rollback architecture answers storage).prepared component prepared)
  | false =>
    intro component prepared
    have released := swept_deinitializeAll architecture answers
      { storage := { storage with systemState := .rollingBack } }
    have flags := released.flags_deinitializing architecture.graph.mem_reverseTopologicalOrder
      component
    refine executing component ?_
    have same := congrArg Flags.executionPrepared flags
    exact same.symm.trans prepared

theorem executing_boot (answers : BootAnswers Component) (cleanup : CleanupAnswers Component) :
    Executing architecture (boot architecture answers cleanup storage).1 := by
  have initialized := executing_initializeAll executing answers
  have started := executing_startAll initialized answers
  have ended := booted architecture answers cleanup storage
  generalize (boot architecture answers cleanup storage).1 = after at ended ⊢
  cases ended with
  | refused => exact executing
  | uninitialized => exact executing_rollback initialized
  | unstarted => exact executing_rollback started
  | running => exact started.of_flags (finishBoot_spec architecture).2.1

/-! ### Resources -/

omit [DecidableEq Component] in
theorem hasResources_eq_false
    (uninitialized : ∀ component, (storage.flags component).initSucceeded ≠ true)
    (unstarted : ∀ component, (storage.flags component).startSucceeded ≠ true)
    (ended : ∀ component, executes architecture storage component = false) :
    hasResources architecture storage = false := by
  rw [hasResources, List.any_eq_false]
  intro component _
  simp only [Bool.or_eq_true, Bool.and_eq_true, Bool.not_eq_true', not_or, not_and]
  refine ⟨⟨uninitialized component, unstarted component⟩, fun prepared => ?_⟩
  have participates := executing component prepared
  have calm := ended component
  rw [executes, participates, prepared] at calm
  simpa using calm

omit executing in
/-- What is asked of a stop that can begin: no component that is blocked is initialised or started. -/
def Unblocked (architecture : Architecture Component) (storage : Storage Component) :
    Call Component → Prop
  | .boot _ _ => True
  | .stop _ => stoppable architecture storage = true → ∀ component,
      (storage.flags component).cleanupBlocked = true →
        (storage.flags component).initSucceeded = false ∧
          (storage.flags component).startSucceeded = false

theorem executing_stop (answers : CleanupAnswers Component) :
    Executing architecture (stop architecture answers storage).1 := by
  by_cases begins : stoppable architecture storage = true
  · simp only [stop, if_pos begins]
    intro component prepared
    exact executing component
      ((cleanedUp_stopCleanup architecture answers storage).prepared component prepared)
  · simp only [stop, if_neg begins]
    exact executing

/-- A stop that contains all execution releases everything. -/
theorem released_of_stop (stoppable : stoppable architecture storage = true)
    (unblocked : Unblocked architecture storage (.stop answers))
    (contained : ¬ Escaping architecture answers storage) :
    hasResources architecture (stop architecture answers storage).1 = false := by
  have cleaned := cleanedUp_stopCleanup architecture answers storage
  have calm : ∀ component, escapes architecture answers storage component = false := fun component =>
    Bool.eq_false_iff.mpr fun escapes => contained (.inr ⟨component, escapes⟩)
  have nothing : ∀ component, ¬ Preserved architecture answers storage component := by
    rintro component (⟨system, -⟩ | ⟨other, escapes, -⟩)
    · exact contained (.inl system)
    · exact contained (.inr ⟨other, escapes⟩)
  have executingAfter := executing_stop executing answers
  simp only [stop, if_pos stoppable] at executingAfter ⊢
  refine hasResources_eq_false executingAfter (fun component holds => ?_)
    (fun component holds => ?_) (fun component => ?_)
  · obtain ⟨initialized, blocked⟩ := (cleaned.inits component).mp holds
    exact Bool.eq_false_iff.mp
      (unblocked stoppable component (blocked.resolve_right (nothing component))).1 initialized
  · obtain ⟨started, blocked⟩ := (cleaned.starts component).mp holds
    exact Bool.eq_false_iff.mp
      (unblocked stoppable component (blocked.resolve_right (nothing component))).2 started
  · exact (cleaned.executes component).trans (calm component)

end

theorem contained_of_stopped (stoppable : stoppable architecture storage = true)
    (stopped : (stop architecture answers storage).1.systemState = .stopped) :
    ¬ Escaping architecture answers storage := by
  intro escaping
  have counted := (cleanedUp_stopCleanup architecture answers storage).uncontained_ne_zero escaping
  simp only [stop, if_pos stoppable] at stopped
  split_ifs at stopped with clean
  simp only [Cleanup.clean, Bool.and_eq_true, decide_eq_true_eq] at clean
  exact counted clean.2

/-- Stopped means released: in every run in which no stop begins with a blocked component that is
initialised or started, a stopped system holds no resources; and a stop that succeeds, or that
contains all execution, releases also what an earlier one has left. -/
theorem stopped_means_released
    (reached : (engineMachine architecture).ReachableWhere (Unblocked architecture) {} storage) :
    (storage.systemState = .stopped → hasResources architecture storage = false) ∧
    ∀ answers, stoppable architecture storage = true →
      Unblocked architecture storage (.stop answers) →
      ((∃ report, (stop architecture answers storage).2 = .ok report) ∨
        ¬ Escaping architecture answers storage) →
      hasResources architecture (stop architecture answers storage).1 = false := by
  have holds : Executing architecture storage ∧
      (storage.systemState = .stopped → hasResources architecture storage = false) := by
    refine reached.invariant (fun storage => Executing architecture storage ∧
        (storage.systemState = .stopped → hasResources architecture storage = false))
      ⟨fun _ prepared => absurd prepared Bool.noConfusion, nofun⟩ ?_
    intro before call after holds unblocked stepped
    obtain ⟨executing, released⟩ := holds
    cases call with
    | boot answers cleanup =>
      cases stepped
      refine ⟨executing_boot executing answers cleanup, ?_⟩
      have ended := booted architecture answers cleanup before
      generalize (boot architecture answers cleanup before).1 = after at ended ⊢
      cases ended with
      | refused => exact released
      | running =>
        rw [(finishBoot_spec architecture).2.2]
        exact nofun
      | _ => exact nofun
    | stop answers =>
      cases stepped
      refine ⟨executing_stop executing answers, fun stopped => ?_⟩
      by_cases begins : stoppable architecture before = true
      · exact released_of_stop executing begins unblocked (contained_of_stopped begins stopped)
      · have unchanged : (stop architecture answers before).1 = before := by
          simp only [stop, if_neg begins]
        simp only [unchanged] at stopped ⊢
        exact released stopped
  refine ⟨holds.2, fun answers begins unblocked ended => ?_⟩
  refine released_of_stop holds.1 begins unblocked ?_
  obtain ⟨report, returned⟩ | contained := ended
  · refine contained_of_stopped begins ?_
    simp only [stop, if_pos begins] at returned ⊢
    split_ifs at returned ⊢ with clean
    rfl
  · exact contained

/-- The boot and the stop of a system whose execution ends. -/
theorem driverAndService_is_released :
    hasResources driverAndService (stop driverAndService {} afterBoot).1 = false ∧
      stoppable driverAndService afterBoot = true := by
  have reached : (engineMachine driverAndService).ReachableWhere (Unblocked driverAndService) {}
      afterBoot := ⟨[.boot {} {}], ⟨trivial, fun _ _ => trivial⟩, rfl⟩
  have begins : stoppable driverAndService afterBoot = true := by decide
  refine ⟨(stopped_means_released reached).2 {} begins (fun _ => by decide) (.inr ?_), begins⟩
  rintro (system | ⟨component, escapes⟩)
  · exact absurd system (by decide)
  · revert component
    decide

/-- The service hung in the first stop and has ended by the second: the second stop succeeds, the
system is stopped, and the driver and the service are still initialised and started. -/
theorem driverAndService_is_stopped_and_not_released :
    ∃ storage, (engineMachine driverAndService).Reachable {} storage ∧
      storage.systemState = .stopped ∧ hasResources driverAndService storage = true ∧
      (∃ report, (stop driverAndService {} afterHang).2 = .ok report) ∧
      storage = (stop driverAndService {} afterHang).1 :=
  ⟨_, ⟨[.boot {} {}, .stop serviceHangs, .stop {}], rfl⟩, by decide, by decide, ⟨_, rfl⟩, rfl⟩

end Solar.Lifecycle
