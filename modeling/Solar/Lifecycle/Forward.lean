/-
This file says what the way forward of a boot does to the flags of the records and
to the trace of the hooks. A component that is initialised or started calls one
hook and may get flags of its own; the steps that prepare the system, validate the
execution and let it run call none and leave the flags alone.
-/

import Solar.Lifecycle.Effects

namespace Solar.Lifecycle

open Function

variable {Component : Type} [DecidableEq Component] {architecture : Architecture Component}
  {answers : BootAnswers Component}

/-! ### One component -/

variable {before after : Storage Component} {flags : Flags}

/-- The flags of a component after its initialisation. -/
def Flags.initialized (flags : Flags) (answer : Except Remote.Status Unit) : Flags :=
  { flags with initSucceeded := if succeeded answer then true else flags.initSucceeded }

theorem ran_initializeComponent (answers : BootAnswers Component) (storage : Storage Component)
    (component : Component) :
    Ran (.init component (succeeded (answers.init component))) component
      ((storage.flags component).initialized (answers.init component)) storage
      (initializeComponent answers storage component) :=
  ran_finished storage component (.init component (succeeded (answers.init component))) .beginInit
    (fun record => record.finishInit (answers.init component))
    (fun flags => flags.initialized (answers.init component)) (fun _ => rfl) fun _ => rfl

/-- The flags of a component after its start: the hook and the preparation have to succeed. -/
def Flags.started (flags : Flags) (participates : Bool)
    (answer prepared : Except Remote.Status Unit) : Flags :=
  if succeeded answer then
    if participates then
      if succeeded prepared then
        { flags with
          executionPrepared := true, executionContained := false, startSucceeded := true }
      else flags
    else { flags with startSucceeded := true }
  else flags

theorem Flags.started_spec (flags : Flags) (participates : Bool)
    (answer prepared : Except Remote.Status Unit) :
    (flags.started participates answer prepared).initSucceeded = flags.initSucceeded ∧
      (flags.started participates answer prepared).cleanupBlocked = flags.cleanupBlocked ∧
      (flags.started participates answer prepared).startSucceeded = (flags.startSucceeded ||
        succeeded answer && (!participates || succeeded prepared)) := by
  unfold Flags.started
  split_ifs with ran runs ready
  · simp [ran, ready]
  · simp [runs, ready]
  · simp [ran, runs]
  · simp [ran]

theorem Flags.prepared_of_started {participates : Bool}
    {answer prepared : Except Remote.Status Unit}
    (holds : (flags.started participates answer prepared).executionPrepared = true) :
    flags.executionPrepared = true ∨ participates = true := by
  cases participates with
  | true => exact .inr rfl
  | false =>
    simp only [Flags.started, Bool.false_eq_true, if_false] at holds
    split_ifs at holds
    · exact .inl holds
    · exact .inl holds

/-- The execution of a component is prepared, if it has some. -/
def prepares (architecture : Architecture Component) (answers : BootAnswers Component)
    (component : Component) : Bool :=
  !architecture.participates component || succeeded (answers.prepare component)

/-- The start of a component succeeds: its hook does, and its execution is prepared. -/
def starts (architecture : Architecture Component) (answers : BootAnswers Component)
    (component : Component) : Bool :=
  succeeded (answers.start component) && prepares architecture answers component

section

variable (architecture)

/-- What the start of one component does, and whether it succeeds. -/
theorem ran_startComponent {storage : Storage Component} {component : Component} :
    Ran (.start component (succeeded (answers.start component))) component
      ((storage.flags component).started (architecture.participates component)
        (answers.start component) (answers.prepare component)) storage
      (startComponent architecture answers storage component).1 ∧
    succeeded (startComponent architecture answers storage component).2 =
      starts architecture answers component := by
  have called := (ran_called storage component
    (.start component (succeeded (answers.start component))) .beginStart fun _ => rfl).quiet
      (fun record => record.note (answers.start component)) fun _ => rfl
  have trying := called.quiet (fun record => record.begin .prepareExecution) fun _ => rfl
  unfold startComponent starts prepares
  cases hook : answers.start component with
  | error status =>
    rw [hook] at called
    exact ⟨called, rfl⟩
  | ok _ =>
    rw [hook] at called trying
    cases participates : architecture.participates component with
    | false =>
      have finished := called.mutate .started
      refine ⟨⟨finished.trace, finished.own.trans ?_, finished.others⟩, rfl⟩
      simp only [Storage.called, Storage.mutate, update_self]
      rfl
    | true =>
      cases prepared : answers.prepare component with
      | error status =>
        exact ⟨trying.quiet (fun record => record.note (.error status)) fun _ => rfl, rfl⟩
      | ok _ =>
        have finished := (trying.mutate .prepared).mutate .started
        refine ⟨⟨finished.trace, finished.own.trans ?_, finished.others⟩, rfl⟩
        simp only [Storage.called, Storage.mutate, update_self]
        rfl

theorem validateExecution_spec {storage : Storage Component} {component : Component} :
    (validateExecution architecture answers storage component).1.trace = storage.trace ∧
      (validateExecution architecture answers storage component).1.flags = storage.flags := by
  have trying : (storage.mutate component fun record => record.begin .validateExecution).flags =
      storage.flags := flags_mutate_of_eq rfl
  unfold validateExecution
  split_ifs
  · cases answers.validate component with
    | error status =>
      refine ⟨rfl, Eq.trans ?_ trying⟩
      show ((storage.mutate component _).mutate component fun record =>
        record.note (.error status)).flags = _
      exact flags_mutate_of_eq rfl
    | ok _ => exact ⟨rfl, trying⟩
  · exact ⟨rfl, rfl⟩

end

/-! ### The phases -/

/-- A boot has the trace and the flags of another, and its failure or a later one. -/
structure Follows (before after : Booting Component) : Prop where
  trace : after.storage.trace = before.storage.trace
  flags : after.storage.flags = before.storage.flags
  primary : before.primary.isSome = true → after.primary.isSome = true

omit [DecidableEq Component] in
theorem Follows.refl (booting : Booting Component) : Follows booting booting :=
  ⟨rfl, rfl, id⟩

omit [DecidableEq Component] in
theorem Follows.trans {first second third : Booting Component} (earlier : Follows first second)
    (later : Follows second third) : Follows first third :=
  ⟨later.trace.trans earlier.trace, later.flags.trans earlier.flags,
    later.primary ∘ earlier.primary⟩

section

variable (architecture)

omit [DecidableEq Component] in
theorem follows_systemStep (operation : Operation) (answer : Except Remote.Status Unit)
    (booting : Booting Component) :
    Follows booting (systemStep architecture operation answer booting) := by
  unfold systemStep Progress.system
  dsimp only
  split_ifs
  · exact .refl booting
  · cases answer with
    | error status => exact ⟨rfl, rfl, fun _ => rfl⟩
    | ok _ => exact .refl booting

theorem follows_validateStep (answers : BootAnswers Component) (booting : Booting Component)
    (component : Component) :
    Follows booting (validateStep architecture answers booting component) := by
  obtain ⟨trace, flags⟩ := validateExecution_spec architecture
  unfold validateStep
  split_ifs with failed
  · exact .refl booting
  · dsimp only
    cases (validateExecution architecture answers booting.storage component).2 with
    | error status =>
      refine ⟨trace, Eq.trans ?_ flags, fun _ => rfl⟩
      simp only [Booting.fail]
      exact flags_mutate_of_eq rfl
    | ok _ => exact ⟨trace, flags, fun some => absurd some failed⟩

end

variable {booting : Booting Component}

theorem initStep_of_failed (failed : booting.primary.isSome = true) (component : Component) :
    initStep answers booting component = booting :=
  if_pos failed

theorem startStep_of_failed (failed : booting.primary.isSome = true) (component : Component) :
    startStep architecture answers booting component = booting :=
  if_pos failed

theorem initStep_spec (answers : BootAnswers Component) (calm : booting.primary = none)
    (component : Component) :
    Ran (.init component (succeeded (answers.init component))) component
      ((booting.storage.flags component).initialized (answers.init component)) booting.storage
      (initStep answers booting component).storage ∧
    ((initStep answers booting component).primary = none ↔
      succeeded (answers.init component) = true) := by
  have ran := ran_initializeComponent answers booting.storage component
  unfold initStep
  rw [calm]
  cases result : answers.init component with rw [result] at ran
  | error status =>
    exact ⟨ran.quiet (fun record => record.fail ⟨some component, .init, status, true⟩)
      fun _ => rfl, ⟨nofun, nofun⟩⟩
  | ok _ => exact ⟨ran, ⟨fun _ => rfl, fun _ => rfl⟩⟩

section

variable (architecture)

theorem startStep_spec (answers : BootAnswers Component) (calm : booting.primary = none)
    (component : Component) :
    Ran (.start component (succeeded (answers.start component))) component
      ((booting.storage.flags component).started (architecture.participates component)
        (answers.start component) (answers.prepare component)) booting.storage
      (startStep architecture answers booting component).storage ∧
    ((startStep architecture answers booting component).primary = none ↔
      starts architecture answers component = true) := by
  obtain ⟨ran, result⟩ := ran_startComponent architecture
  rw [← result]
  unfold startStep
  rw [calm]
  dsimp only
  cases (startComponent architecture answers booting.storage component).2 with
  | error status => refine ⟨ran.quiet (fun record => record.fail _) fun _ => rfl, ⟨nofun, nofun⟩⟩
  | ok _ => exact ⟨ran, ⟨fun _ => rfl, fun _ => rfl⟩⟩

/-- After the loop of the start, no hook is called and no flag changes. -/
theorem follows_startAll (answers : BootAnswers Component) (booting : Booting Component) :
    Follows (architecture.graph.topologicalOrder.foldl (startStep architecture answers)
        { booting with
          storage := { booting.storage with systemState := .starting }
          report := { booting.report with initializationCompleted := true } })
      (startAll architecture answers booting) := by
  simp only [startAll]
  generalize architecture.graph.topologicalOrder.foldl (startStep architecture answers)
    { booting with
      storage := { booting.storage with systemState := .starting }
      report := { booting.report with initializationCompleted := true } } = started
  have prepared := follows_systemStep architecture .prepareExecution answers.prepareSystem started
  have validated : Follows started (architecture.graph.topologicalOrder.foldl
      (validateStep architecture answers)
      (systemStep architecture .prepareExecution answers.prepareSystem started)) :=
    Prefixes.foldl_invariant _ _ _ (motive := fun booting => Follows started booting) prepared
      fun state component _ earlier =>
        earlier.trans (follows_validateStep architecture answers state component)
  have allowed := validated.trans
    (follows_systemStep architecture .validateExecution answers.validateSystem _)
  refine ⟨allowed.trace, allowed.flags, fun earlier => ?_⟩
  dsimp only [Progress.commit]
  rw [if_pos (allowed.primary earlier)]
  exact allowed.primary earlier

/-- A boot that ends well calls no further hook. -/
theorem finishBoot_spec :
    (finishBoot architecture booting).1.trace = booting.storage.trace ∧
      (finishBoot architecture booting).1.flags = booting.storage.flags ∧
      (finishBoot architecture booting).1.systemState = .running := by
  have running : ∀ storage : Storage Component, ∀ order : List Component,
      (order.foldl (fun storage component => storage.mutate component .run) storage).trace =
        storage.trace ∧
      (order.foldl (fun storage component => storage.mutate component .run) storage).flags =
        storage.flags := by
    intro storage order
    refine Prefixes.foldl_invariant _ order storage
      (motive := fun after => after.trace = storage.trace ∧ after.flags = storage.flags)
      ⟨rfl, rfl⟩ ?_
    intro state component _ earlier
    exact ⟨earlier.1, Eq.trans (flags_mutate_of_eq rfl) earlier.2⟩
  have activated : ∀ storage : Storage Component, ∀ order : List Component,
      (order.foldl (activateExecution architecture) storage).trace = storage.trace ∧
      (order.foldl (activateExecution architecture) storage).flags = storage.flags ∧
      (order.foldl (activateExecution architecture) storage).systemState =
        storage.systemState := by
    intro storage order
    refine Prefixes.foldl_invariant _ order storage
      (motive := fun after => after.trace = storage.trace ∧ after.flags = storage.flags ∧
        after.systemState = storage.systemState) ⟨rfl, rfl, rfl⟩ ?_
    intro state component _ earlier
    unfold activateExecution
    split_ifs
    · exact ⟨earlier.1, Eq.trans (flags_mutate_of_eq rfl) earlier.2.1, earlier.2.2⟩
    · exact earlier
  obtain ⟨trace, flags, state⟩ := activated { architecture.graph.topologicalOrder.foldl
        (fun storage component => storage.mutate component .run) booting.storage with
      systemState := .running
      lastBoot := some { booting.report with startCompleted := true, finalState := .running } }
    architecture.graph.topologicalOrder
  obtain ⟨runTrace, runFlags⟩ := running booting.storage architecture.graph.topologicalOrder
  exact ⟨trace.trans runTrace, flags.trans runFlags, state⟩

/-- How a boot can end: it is refused, it fails in the initialisation or in the start and is rolled
back, or the system runs. -/
inductive Booted (architecture : Architecture Component) (answers : BootAnswers Component)
    (cleanup : CleanupAnswers Component) (storage : Storage Component) : Storage Component → Prop
  | refused (state : storage.systemState ≠ .dormant) :
      Booted architecture answers cleanup storage storage
  | uninitialized (state : storage.systemState = .dormant) (failure : Failure Component)
      (failed : (initializeAll architecture answers storage).primary = some failure) :
      Booted architecture answers cleanup storage
        (failBoot architecture cleanup (initializeAll architecture answers storage) failure false).1
  | unstarted (state : storage.systemState = .dormant) (failure : Failure Component)
      (initialized : (initializeAll architecture answers storage).primary = none)
      (failed : (startAll architecture answers
        (initializeAll architecture answers storage)).primary = some failure) :
      Booted architecture answers cleanup storage (failBoot architecture cleanup
          (startAll architecture answers (initializeAll architecture answers storage)) failure
          true).1
  | running (state : storage.systemState = .dormant)
      (initialized : (initializeAll architecture answers storage).primary = none)
      (started : (startAll architecture answers
        (initializeAll architecture answers storage)).primary = none) :
      Booted architecture answers cleanup storage (finishBoot architecture
          (startAll architecture answers (initializeAll architecture answers storage))).1

theorem booted (answers : BootAnswers Component) (cleanup : CleanupAnswers Component)
    (storage : Storage Component) :
    Booted architecture answers cleanup storage (boot architecture answers cleanup storage).1 := by
  unfold boot
  cases state : storage.systemState with
  | dormant =>
    dsimp only
    cases initialized : (initializeAll architecture answers storage).primary with
    | some failure => exact .uninitialized state failure initialized
    | none =>
      cases started : (startAll architecture answers
          (initializeAll architecture answers storage)).primary with
      | some failure => exact .unstarted state failure initialized started
      | none => exact .running state initialized started
  | _ => exact .refused (by rw [state]; exact nofun)

end

end Solar.Lifecycle
