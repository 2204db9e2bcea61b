/-
This file says what each operation of the engine does to the flags of the records
and to the trace of the hooks, and nothing else is used of them later. Most steps
leave both alone. A component whose execution is not contained is blocked with
all it depends on; a stop and a deinitialisation clear one flag and call one hook.
-/

import Solar.Lifecycle.Engine

namespace Solar.Lifecycle

open List Function

/-! ### Flags -/

/-- The flags of a record. -/
structure Flags where
  initSucceeded : Bool
  startSucceeded : Bool
  executionPrepared : Bool
  executionContained : Bool
  cleanupBlocked : Bool

/-- The flags but for the blocking. -/
def Flags.unblocked (flags : Flags) : Flags := { flags with cleanupBlocked := false }

variable {Component : Type}

def ComponentRecord.flags (record : ComponentRecord Component) : Flags :=
  ⟨record.initSucceeded, record.startSucceeded, record.executionPrepared,
    record.executionContained, record.cleanupBlocked⟩

def Storage.flags (storage : Storage Component) (component : Component) : Flags :=
  (storage.records component).flags

/-- The component whose hook is called. -/
def HookCall.component : HookCall Component → Component
  | .init component _ | .start component _ | .stop component _ | .deinit component _ => component

/-! ### Steps that call no hook -/

/-- What is left of the storages but for the blocking is the same; blocked is what was, and more. -/
structure Blocks (more : Component → Prop) (before after : Storage Component) : Prop where
  trace : after.trace = before.trace
  others : ∀ component, (after.flags component).unblocked = (before.flags component).unblocked
  blocked : ∀ component, (after.flags component).cleanupBlocked = true ↔
    (before.flags component).cleanupBlocked = true ∨ more component

namespace Blocks

variable {before middle after : Storage Component} {more first second : Component → Prop}

theorem of_eq (trace : after.trace = before.trace) (flags : after.flags = before.flags) :
    Blocks (fun _ => False) before after where
  trace
  others component := by rw [flags]
  blocked component := by rw [flags, or_false]

theorem trans (earlier : Blocks first before middle) (later : Blocks second middle after) :
    Blocks (fun component => first component ∨ second component) before after where
  trace := later.trace.trans earlier.trace
  others component := (later.others component).trans (earlier.others component)
  blocked component := by rw [later.blocked, earlier.blocked, or_assoc]

theorem congr (blocks : Blocks first before after)
    (same : ∀ component, first component ↔ second component) : Blocks second before after where
  trace := blocks.trace
  others := blocks.others
  blocked component := by rw [blocks.blocked, same]

section

variable (blocks : Blocks more before after) (component : Component)

include blocks

theorem inits : (after.flags component).initSucceeded = (before.flags component).initSucceeded :=
  (Flags.mk.inj (blocks.others component)).1

theorem starts : (after.flags component).startSucceeded = (before.flags component).startSucceeded :=
  (Flags.mk.inj (blocks.others component)).2.1

theorem prepared :
    (after.flags component).executionPrepared = (before.flags component).executionPrepared :=
  (Flags.mk.inj (blocks.others component)).2.2.1

theorem contained :
    (after.flags component).executionContained = (before.flags component).executionContained :=
  (Flags.mk.inj (blocks.others component)).2.2.2.1

end

end Blocks

/-! ### Blocking -/

/-- Some components are blocked, and nothing is reported. -/
structure Preserves (more : Component → Prop) (before after : Cleanup Component) : Prop where
  blocks : Blocks more before.storage after.storage
  failures : after.failures = before.failures
  uncontained : after.uncontainedExecution = before.uncontainedExecution

namespace Preserves

variable {before middle after : Cleanup Component} {first second : Component → Prop}

theorem refl (cleanup : Cleanup Component) : Preserves (fun _ => False) cleanup cleanup :=
  ⟨.of_eq rfl rfl, rfl, rfl⟩

theorem trans (earlier : Preserves first before middle) (later : Preserves second middle after) :
    Preserves (fun component => first component ∨ second component) before after :=
  ⟨earlier.blocks.trans later.blocks, later.failures.trans earlier.failures,
    later.uncontained.trans earlier.uncontained⟩

theorem congr (preserves : Preserves first before after)
    (same : ∀ component, first component ↔ second component) : Preserves second before after :=
  ⟨preserves.blocks.congr same, preserves.failures, preserves.uncontained⟩

theorem foldl (reach : Component → Component → Prop) (items : List Component)
    {step : Cleanup Component → Component → Cleanup Component}
    (steps : ∀ cleanup, ∀ item ∈ items, Preserves (reach item) cleanup (step cleanup item))
    (cleanup : Cleanup Component) :
    Preserves (fun component => ∃ item ∈ items, reach item component) cleanup
      (items.foldl step cleanup) := by
  refine Prefixes.foldl_rule step items cleanup (motive := fun done state =>
      Preserves (fun component => ∃ item ∈ done, reach item component) cleanup state) ?_ ?_
  · exact (refl cleanup).congr fun component => by simp
  · intro done item rest split earlier
    have listed : item ∈ items := by
      rw [split]
      exact mem_append_right _ mem_cons_self
    refine (earlier.trans (steps _ item listed)).congr fun component => ?_
    simp [or_and_right, exists_or]

end Preserves

variable [DecidableEq Component] {graph : Graph Component}
  {architecture : Architecture Component}

variable {component : Component} {answers : CleanupAnswers Component}
  {cleanup before after : Cleanup Component} (storage : Storage Component)

theorem flags_mutate_self (component : Component)
    (change : ComponentRecord Component → ComponentRecord Component) :
    (storage.mutate component change).flags component =
      (change (storage.records component)).flags :=
  congrArg ComponentRecord.flags (update_self ..)

theorem flags_mutate_of_ne {other : Component}
    (change : ComponentRecord Component → ComponentRecord Component)
    (different : other ≠ component) :
    (storage.mutate component change).flags other = storage.flags other :=
  congrArg ComponentRecord.flags (update_of_ne different ..)

theorem flags_mutate_of_eq {storage : Storage Component}
    {change : ComponentRecord Component → ComponentRecord Component}
    (same : (change (storage.records component)).flags = (storage.records component).flags) :
    (storage.mutate component change).flags = storage.flags := by
  funext other
  by_cases here : other = component
  · subst here
    rw [flags_mutate_self, same]
    rfl
  · exact flags_mutate_of_ne storage change here

theorem flags_block {other : Component} :
    ((storage.mutate component .block).flags other).unblocked = (storage.flags other).unblocked ∧
      (((storage.mutate component .block).flags other).cleanupBlocked = true ↔
        (storage.flags other).cleanupBlocked = true ∨ other = component) := by
  by_cases here : other = component
  · subst here
    rw [flags_mutate_self]
    exact ⟨rfl, by simp [ComponentRecord.block, ComponentRecord.flags]⟩
  · rw [flags_mutate_of_ne storage _ here]
    exact ⟨rfl, by simp [here]⟩

theorem preserves_markDependencyClosure {depth : Nat} {counted : Bool}
    (deep : graph.rank component < depth) :
    Preserves (graph.Reaches component) cleanup
      (markDependencyClosure graph depth counted cleanup component) := by
  induction depth generalizing counted cleanup component with
  | zero => exact absurd deep (Nat.not_lt_zero _)
  | succ depth ih =>
    have marks : ∀ preserved, Preserves (fun other => other = component) cleanup { cleanup with
          storage := cleanup.storage.mutate component .block
          preservedDependencies := preserved } := by
      intro preserved
      exact ⟨⟨rfl, fun other => (flags_block cleanup.storage).1,
        fun other => (flags_block cleanup.storage).2⟩, rfl, rfl⟩
    refine ((marks _).trans (Preserves.foldl graph.Reaches _ ?_ _)).congr fun other => ?_
    · intro state needed listed
      exact ih
        ((graph.acyclic component needed listed).trans_le (Nat.le_of_lt_succ deep))
    · rw [Graph.Reaches, Relation.ReflTransGen.cases_head_iff, eq_comm (a := component)]

theorem preserves_preserve (graph : Graph Component) (counted : Bool)
    (cleanup : Cleanup Component) (component : Component) :
    Preserves (graph.Reaches component) cleanup (preserve graph counted cleanup component) :=
  preserves_markDependencyClosure (Nat.lt_succ_self _)

/-! ### Containment -/

/-- The system's own execution is not contained. -/
def systemEscapes (architecture : Architecture Component) (answers : CleanupAnswers Component) :
    Bool :=
  architecture.systemParticipates && !answers.containSystem.contained

/-- The execution of the component is not contained. -/
def escapes (architecture : Architecture Component) (answers : CleanupAnswers Component)
    (storage : Storage Component) (component : Component) : Bool :=
  executes architecture storage component && !(answers.contain component).contained

/-- What uncontained execution of a component can reach. -/
def ReachedBy (graph : Graph Component) (answers : CleanupAnswers Component)
    (component other : Component) : Prop :=
  graph.Reaches component other ∨ ∃ root ∈ answers.reach component, graph.Reaches root other

/-- What uncontained execution can reach. -/
def Preserved (architecture : Architecture Component) (answers : CleanupAnswers Component)
    (storage : Storage Component) (other : Component) : Prop :=
  (systemEscapes architecture answers = true ∧
    ∃ root ∈ answers.systemReach, architecture.graph.Reaches root other) ∨
  ∃ component, escapes architecture answers storage component = true ∧
    ReachedBy architecture.graph answers component other

theorem flags_fail (cleanup : Cleanup Component) (component : Component) (operation : Operation)
    (status : Remote.Status) :
    (cleanup.fail component operation status).storage.flags = cleanup.storage.flags := by
  simp only [Cleanup.fail]
  exact flags_mutate_of_eq rfl

omit [DecidableEq Component] in
theorem executes_eq_of_flags {before after : Storage Component}
    (prepared : (after.flags component).executionPrepared =
      (before.flags component).executionPrepared)
    (contained : (after.flags component).executionContained =
      (before.flags component).executionContained) :
    executes architecture after component = executes architecture before component := by
  unfold executes
  exact congrArg₂ (fun left right => architecture.participates component && left && !right)
    prepared contained

omit [DecidableEq Component] in
theorem requestSystemExecutionStop_storage (architecture : Architecture Component)
    (answers : CleanupAnswers Component) (cleanup : Cleanup Component) :
    (requestSystemExecutionStop architecture answers cleanup).storage = cleanup.storage ∧
      (requestSystemExecutionStop architecture answers cleanup).uncontainedExecution =
        cleanup.uncontainedExecution := by
  unfold requestSystemExecutionStop CleanupReport.requestSystemExecutionStop
  dsimp only
  split_ifs
  · cases answers.requestSystem with
    | ok _ => exact ⟨rfl, rfl⟩
    | error status =>
      dsimp only
      split_ifs
      · exact ⟨rfl, rfl⟩
      · exact ⟨rfl, rfl⟩
  · exact ⟨rfl, rfl⟩

theorem requestExecutionStop_spec (answers : CleanupAnswers Component)
    (cleanup : Cleanup Component) (component : Component) :
    let after := requestExecutionStop architecture answers cleanup component
    after.storage.trace = cleanup.storage.trace ∧ after.storage.flags = cleanup.storage.flags ∧
      after.uncontainedExecution = cleanup.uncontainedExecution := by
  have trying : (cleanup.storage.mutate component fun record =>
      record.begin .requestExecutionStop).flags = cleanup.storage.flags := flags_mutate_of_eq rfl
  intro after
  unfold after requestExecutionStop
  split_ifs
  · cases answers.request component with
    | ok _ => exact ⟨rfl, trying, rfl⟩
    | error status =>
      simp only
      split_ifs
      · exact ⟨rfl, trying, rfl⟩
      · exact ⟨rfl, (flags_fail _ component _ status).trans trying, rfl⟩
  · exact ⟨rfl, rfl, rfl⟩

/-- The containment of the system's execution blocks what it can reach if it escapes. -/
theorem containSystemExecution_spec (architecture : Architecture Component)
    (answers : CleanupAnswers Component) (cleanup : Cleanup Component) :
    let after := containSystemExecution architecture answers cleanup
    Blocks (fun other => systemEscapes architecture answers = true ∧
        ∃ root ∈ answers.systemReach, architecture.graph.Reaches root other)
      cleanup.storage after.storage ∧
    (after.uncontainedExecution = 0 ↔
      cleanup.uncontainedExecution = 0 ∧ systemEscapes architecture answers = false) := by
  intro after
  unfold after containSystemExecution systemEscapes
  cases architecture.systemParticipates with
  | false =>
    simp only [Bool.false_and, Bool.false_eq_true, if_false, false_and, and_true]
    exact .of_eq rfl rfl
  | true =>
    simp only [if_true, Bool.true_and]
    cases contained : answers.containSystem.contained with
    | true =>
      simp only [Bool.not_true, Bool.false_eq_true, false_and, if_true, and_true]
      cases answers.containSystem.problem <;> exact ⟨.of_eq rfl rfl, Iff.rfl⟩
    | false =>
      have reached := Preserves.foldl architecture.graph.Reaches answers.systemReach
        (fun state root _ => preserves_preserve architecture.graph true state root)
        { cleanup with uncontainedExecution := cleanup.uncontainedExecution +
            (if answers.uncontainedCount = 0 then 1 else answers.uncontainedCount) }
      have positive : 0 < if answers.uncontainedCount = 0 then 1 else answers.uncontainedCount := by
        split_ifs with none
        · exact Nat.one_pos
        · exact Nat.pos_of_ne_zero none
      simp only [Bool.not_false, true_and, Bool.false_eq_true, if_false, and_false, iff_false,
        Bool.true_eq_false]
      cases answers.containSystem.problem with
      | none =>
        refine ⟨reached.blocks, ?_⟩
        rw [reached.uncontained]
        exact Nat.ne_of_gt (Nat.add_pos_right _ positive)
      | some status =>
        refine ⟨reached.blocks, ?_⟩
        show (answers.systemReach.foldl (preserve architecture.graph true) _).uncontainedExecution ≠ 0
        rw [reached.uncontained]
        exact Nat.ne_of_gt (Nat.add_pos_right _ positive)

theorem preserves_reachedBy (graph : Graph Component) (answers : CleanupAnswers Component)
    (cleanup : Cleanup Component) (component : Component) :
    Preserves (ReachedBy graph answers component) cleanup
      ((answers.reach component).foldl (preserve graph true)
        (preserve graph false cleanup component)) :=
  (preserves_preserve graph false cleanup component).trans
    (Preserves.foldl graph.Reaches (answers.reach component)
      (fun state root _ => preserves_preserve graph true state root) _)

/-- The flags of a component whose containment was recorded. -/
def Flags.contain (flags : Flags) (containment : Containment) : Flags :=
  { flags with
    executionContained := containment.contained
    executionPrepared := if containment.contained then false else flags.executionPrepared }

theorem flags_recordContainment (containment : Containment) (cleanup : Cleanup Component)
    (component other : Component) :
    (recordContainment containment cleanup component).storage.flags other =
      if other = component then (cleanup.storage.flags component).contain containment
      else cleanup.storage.flags other := by
  simp only [recordContainment]
  split_ifs with here
  · subst here
    rw [flags_mutate_self]
    simp only [Storage.mutate, update_self]
    rfl
  · rw [flags_mutate_of_ne _ _ here, flags_mutate_of_ne _ _ here]

/-- No hook is called, and only execution ends. -/
structure Ends (before after : Cleanup Component) : Prop where
  trace : after.storage.trace = before.storage.trace
  inits : ∀ other, (after.storage.flags other).initSucceeded =
    (before.storage.flags other).initSucceeded
  starts : ∀ other, (after.storage.flags other).startSucceeded =
    (before.storage.flags other).startSucceeded
  prepared : ∀ other, (after.storage.flags other).executionPrepared = true →
    (before.storage.flags other).executionPrepared = true

omit [DecidableEq Component] in
theorem Ends.trans {middle : Cleanup Component} (earlier : Ends before middle)
    (later : Ends middle after) : Ends before after :=
  ⟨later.trace.trans earlier.trace,
    fun other => (later.inits other).trans (earlier.inits other),
    fun other => (later.starts other).trans (earlier.starts other),
    fun other => earlier.prepared other ∘ later.prepared other⟩

/-- What a component's containment does: the flags of its execution say whether it is contained, and
if it is not, what it can reach is blocked. -/
structure Contained (architecture : Architecture Component) (answers : CleanupAnswers Component)
    (component : Component) (before after : Cleanup Component) : Prop extends
    Ends before after where
  executes : ∀ other, executes architecture after.storage other =
    if other = component then escapes architecture answers before.storage component
    else executes architecture before.storage other
  blocked : ∀ other, (after.storage.flags other).cleanupBlocked = true ↔
    (before.storage.flags other).cleanupBlocked = true ∨
      (escapes architecture answers before.storage component = true ∧
        ReachedBy architecture.graph answers component other)
  uncontained : after.uncontainedExecution = before.uncontainedExecution +
    if escapes architecture answers before.storage component then 1 else 0

/-- What is left of a containment that was recorded: what it can reach is blocked, and a failure is
reported. -/
theorem Contained.of_recorded
    (running : Lifecycle.executes architecture before.storage component = true)
    (blocks : Blocks (fun other => escapes architecture answers before.storage component = true ∧
        ReachedBy architecture.graph answers component other)
      (recordContainment (answers.contain component) before component).storage after.storage)
    (uncontained : after.uncontainedExecution = before.uncontainedExecution +
      if escapes architecture answers before.storage component then 1 else 0) :
    Contained architecture answers component before after where
  trace := blocks.trace
  inits other := by
    rw [blocks.inits, flags_recordContainment]
    split_ifs with here
    · rw [here]
      rfl
    · rfl
  starts other := by
    rw [blocks.starts, flags_recordContainment]
    split_ifs with here
    · rw [here]
      rfl
    · rfl
  prepared other := by
    rw [blocks.prepared, flags_recordContainment]
    split_ifs with here
    · subst here
      simp only [Flags.contain]
      split_ifs
      · exact False.elim
      · exact id
    · exact id
  executes other := by
    rw [executes_eq_of_flags (blocks.prepared other) (blocks.contained other)]
    have recorded := flags_recordContainment (answers.contain component) before component other
    split_ifs at recorded ⊢ with here
    · subst here
      have participates : architecture.participates other = true := by
        unfold Lifecycle.executes at running
        simp only [Bool.and_eq_true] at running
        exact running.1.1
      unfold escapes
      rw [running, Lifecycle.executes, participates]
      show (true && ((recordContainment _ _ _).storage.flags other).executionPrepared &&
        !((recordContainment _ _ _).storage.flags other).executionContained) = _
      rw [recorded]
      unfold Lifecycle.executes at running
      simp only [Bool.and_eq_true] at running
      cases contained : (answers.contain other).contained with
      | true => simp [Flags.contain, contained]
      | false =>
        simp only [Flags.contain, contained]
        exact congrArg (fun prepared => true && prepared && true) running.1.2
    · exact executes_eq_of_flags (congrArg Flags.executionPrepared recorded)
        (congrArg Flags.executionContained recorded)
  blocked other := by
    rw [blocks.blocked, flags_recordContainment]
    split_ifs with here
    · rw [here]
      rfl
    · rfl
  uncontained

theorem Contained.report {preserved : Cleanup Component}
    (contained : Contained architecture answers component before preserved)
    (problem : Option Remote.Status) :
    Contained architecture answers component before (match problem with
        | some status => preserved.fail component .containExecution status
        | none => preserved) := by
  cases problem with
  | none => exact contained
  | some status =>
    have flags := flags_fail preserved component .containExecution status
    refine ⟨⟨contained.trace, fun other => ?_, fun other => ?_, fun other => ?_⟩, fun other => ?_,
      fun other => ?_, contained.uncontained⟩
    · rw [flags, contained.inits]
    · rw [flags, contained.starts]
    · rw [flags]
      exact contained.prepared other
    · rw [← contained.executes]
      exact executes_eq_of_flags (by rw [flags]) (by rw [flags])
    · rw [flags, contained.blocked]

/-- What the containment of one component does. -/
theorem contained_containExecution (cleanup : Cleanup Component) :
    Contained architecture answers component cleanup
      (containExecution architecture answers cleanup component) := by
  unfold containExecution
  cases running : executes architecture cleanup.storage component with
  | false =>
    have calm : escapes architecture answers cleanup.storage component = false := by
      rw [escapes, running, Bool.false_and]
    rw [if_neg nofun]
    refine ⟨⟨rfl, fun _ => rfl, fun _ => rfl, fun _ => id⟩, fun other => ?_, fun other => ?_, ?_⟩
    · split_ifs with here
      · rw [here, running, calm]
      · rfl
    · simp [calm]
    · simp [calm]
  | true =>
    refine Contained.report (.of_recorded running ?_ ?_) _
    · cases contained : (answers.contain component).contained with
      | true =>
        rw [if_pos rfl]
        exact (Blocks.of_eq rfl rfl).congr fun other => by simp [escapes, contained]
      | false =>
        rw [if_neg nofun]
        have reached := preserves_reachedBy architecture.graph answers
          { recordContainment (answers.contain component) cleanup component with
            uncontainedExecution := cleanup.uncontainedExecution + 1 } component
        exact reached.blocks.congr fun other => by simp [escapes, running, contained]
    · cases contained : (answers.contain component).contained with
      | true => simp [escapes, contained, recordContainment, CleanupReport.count]
      | false =>
        rw [escapes, running, contained]
        exact (preserves_reachedBy architecture.graph answers _ component).uncontained

/-- What the containment of all execution does. -/
structure ContainedAll (architecture : Architecture Component) (answers : CleanupAnswers Component)
    (before after : Cleanup Component) : Prop extends
    Ends before after where
  executes : ∀ other, executes architecture after.storage other =
    escapes architecture answers before.storage other
  blocked : ∀ other, (after.storage.flags other).cleanupBlocked = true ↔
    (before.storage.flags other).cleanupBlocked = true ∨
      Preserved architecture answers before.storage other
  uncontained : after.uncontainedExecution = 0 ↔ before.uncontainedExecution = 0 ∧
    systemEscapes architecture answers = false ∧
    ∀ component, escapes architecture answers before.storage component = false

/-- The loop of the containments has contained the components it has gone through. -/
structure Containing (architecture : Architecture Component) (answers : CleanupAnswers Component)
    (before : Cleanup Component) (done : List Component) (after : Cleanup Component) : Prop extends
    Ends before after where
  executes : ∀ other, executes architecture after.storage other =
    if other ∈ done then escapes architecture answers before.storage other
    else executes architecture before.storage other
  blocked : ∀ other, (after.storage.flags other).cleanupBlocked = true ↔
    (before.storage.flags other).cleanupBlocked = true ∨
      ∃ component ∈ done, escapes architecture answers before.storage component = true ∧
        ReachedBy architecture.graph answers component other
  uncontained : after.uncontainedExecution = 0 ↔ before.uncontainedExecution = 0 ∧
    ∀ component ∈ done, escapes architecture answers before.storage component = false

theorem Containing.step {middle : Cleanup Component} {done : List Component}
    (containing : Containing architecture answers before done middle) (fresh : component ∉ done)
    (contained : Contained architecture answers component middle after) :
    Containing architecture answers before (done ++ [component]) after := by
  have same : escapes architecture answers middle.storage component =
      escapes architecture answers before.storage component := by
    rw [escapes, containing.executes, if_neg fresh, escapes]
  refine ⟨containing.toEnds.trans contained.toEnds, fun other => ?_, fun other => ?_, ?_⟩
  · rw [contained.executes, same, containing.executes]
    by_cases here : other = component
    · subst here
      simp
    · simp [here]
  · rw [contained.blocked, containing.blocked, same, or_assoc]
    simp [or_and_right, exists_or]
  · rw [contained.uncontained, same, Nat.add_eq_zero_iff, containing.uncontained]
    cases escaping : escapes architecture answers before.storage component with
    | false => simp [or_imp, forall_and, escaping]
    | true =>
      simp only [if_true, Nat.one_ne_zero, and_false, false_iff, not_and, not_forall]
      intro _
      exact ⟨component, mem_append_right _ (mem_singleton_self _),
        Bool.eq_false_iff.not_left.mpr escaping⟩

section

variable (architecture) (answers)

theorem containing_foldl (cleanup : Cleanup Component) {order : List Component}
    (distinct : order.Nodup) :
    Containing architecture answers cleanup order
      (order.foldl (containExecution architecture answers) cleanup) := by
  refine Prefixes.foldl_rule _ order cleanup
    (motive := fun done after => Containing architecture answers cleanup done after) ?_ ?_
  · refine ⟨⟨rfl, fun _ => rfl, fun _ => rfl, fun _ => id⟩, fun other => ?_, fun other => ?_, ?_⟩
    · simp
    · simp
    · simp
  · intro done component rest split earlier
    exact earlier.step (Prefixes.notMem_of_nodup distinct split)
      (contained_containExecution _)

theorem requestExecutionStop_foldl (architecture : Architecture Component)
    (answers : CleanupAnswers Component) (cleanup : Cleanup Component) (order : List Component) :
    let after := order.foldl (requestExecutionStop architecture answers) cleanup
    after.storage.trace = cleanup.storage.trace ∧ after.storage.flags = cleanup.storage.flags ∧
      after.uncontainedExecution = cleanup.uncontainedExecution := by
  refine Prefixes.foldl_invariant _ order cleanup
    (motive := fun after => after.storage.trace = cleanup.storage.trace ∧
      after.storage.flags = cleanup.storage.flags ∧
      after.uncontainedExecution = cleanup.uncontainedExecution) ⟨rfl, rfl, rfl⟩ ?_
  intro state component _ earlier
  obtain ⟨trace, flags, uncontained⟩ := requestExecutionStop_spec answers state component
  exact ⟨trace.trans earlier.1, flags.trans earlier.2.1, uncontained.trans earlier.2.2⟩

/-- Before the first component is contained, only what the system's execution can reach was
blocked. -/
theorem requested_spec (architecture : Architecture Component) (answers : CleanupAnswers Component)
    (cleanup : Cleanup Component) :
    let asked := architecture.graph.reverseTopologicalOrder.foldl
      (requestExecutionStop architecture answers)
      (containSystemExecution architecture answers
        (requestSystemExecutionStop architecture answers cleanup))
    Blocks (fun other => systemEscapes architecture answers = true ∧
        ∃ root ∈ answers.systemReach, architecture.graph.Reaches root other)
      cleanup.storage asked.storage ∧
    (asked.uncontainedExecution = 0 ↔
      cleanup.uncontainedExecution = 0 ∧ systemEscapes architecture answers = false) := by
  intro asked
  obtain ⟨requested, uncounted⟩ :=
    requestSystemExecutionStop_storage architecture answers cleanup
  obtain ⟨blocks, system⟩ := containSystemExecution_spec architecture answers
    (requestSystemExecutionStop architecture answers cleanup)
  obtain ⟨trace, flags, count⟩ := requestExecutionStop_foldl architecture answers
    (containSystemExecution architecture answers
      (requestSystemExecutionStop architecture answers cleanup))
    architecture.graph.reverseTopologicalOrder
  rw [requested] at blocks
  rw [uncounted] at system
  refine ⟨(blocks.trans (Blocks.of_eq trace flags)).congr fun other => by rw [or_false], ?_⟩
  rw [← system, ← count]

theorem containedAll (cleanup : Cleanup Component) :
    ContainedAll architecture answers cleanup (containAll architecture answers cleanup) := by
  obtain ⟨blocks, system⟩ := requested_spec architecture answers cleanup
  simp only [containAll]
  generalize architecture.graph.reverseTopologicalOrder.foldl
    (requestExecutionStop architecture answers)
    (containSystemExecution architecture answers
      (requestSystemExecutionStop architecture answers cleanup)) = asked at blocks system ⊢
  have containing := containing_foldl architecture answers asked
    architecture.graph.reverseTopologicalOrder_nodup
  have listed := architecture.graph.mem_reverseTopologicalOrder
  have running : ∀ other, executes architecture asked.storage other =
      executes architecture cleanup.storage other :=
    fun other => executes_eq_of_flags (blocks.prepared other) (blocks.contained other)
  have escaping : ∀ other, escapes architecture answers asked.storage other =
      escapes architecture answers cleanup.storage other := by
    intro other
    rw [escapes, running, escapes]
  have asks : Ends cleanup asked :=
    ⟨blocks.trace, blocks.inits, blocks.starts, fun other => (blocks.prepared other).symm.trans⟩
  refine ⟨asks.trans containing.toEnds, fun other => ?_, fun other => ?_, ?_⟩
  · rw [containing.executes, if_pos (listed other), escaping]
  · rw [containing.blocked, blocks.blocked, or_assoc]
    simp [escaping, Preserved, listed]
  · rw [containing.uncontained, system, and_assoc]
    simp [escaping, listed]

end

/-! ### Calls of hooks -/

/-- A hook of a component was called, and its flags are these now. -/
structure Ran (call : HookCall Component) (component : Component) (flags : Flags)
    (before after : Storage Component) : Prop where
  trace : after.trace = before.trace ++ [call]
  own : after.flags component = flags
  others : ∀ other, other ≠ component → after.flags other = before.flags other

namespace Ran

variable {call : HookCall Component} {flags : Flags} {before after : Storage Component}

theorem mutate (ran : Ran call component flags before after)
    (change : ComponentRecord Component → ComponentRecord Component) :
    Ran call component (change (after.records component)).flags before
      (after.mutate component change) where
  trace := ran.trace
  own := flags_mutate_self after component change
  others other different := by
    rw [flags_mutate_of_ne after change different, ran.others other different]

theorem quiet (ran : Ran call component flags before after)
    (change : ComponentRecord Component → ComponentRecord Component)
    (same : ∀ record, (change record).flags = record.flags) :
    Ran call component flags before (after.mutate component change) := by
  have mutated := ran.mutate change
  rw [same] at mutated
  exact ⟨mutated.trace, mutated.own.trans ran.own, mutated.others⟩

end Ran

theorem ran_called (component : Component) (call : HookCall Component)
    (change : ComponentRecord Component → ComponentRecord Component)
    (same : ∀ record, (change record).flags = record.flags) :
    Ran call component (storage.flags component) storage
      ((storage.mutate component change).called call) where
  trace := rfl
  own := (flags_mutate_self storage component change).trans (same _)
  others _ different := flags_mutate_of_ne storage change different

/-- A hook is called between what is noted before it and what is noted of its result. -/
theorem ran_finished (component : Component) (call : HookCall Component)
    (begun finished : ComponentRecord Component → ComponentRecord Component) (clear : Flags → Flags)
    (same : ∀ record, (begun record).flags = record.flags)
    (cleared : ∀ record, (finished record).flags = clear record.flags) :
    Ran call component (clear (storage.flags component)) storage
      (((storage.mutate component begun).called call).mutate component finished) := by
  have called := ran_called storage component call begun same
  have ran := called.mutate finished
  rw [cleared] at ran
  exact ⟨ran.trace, ran.own.trans (congrArg clear called.own), ran.others⟩

/-! ### Sweeps -/

/-- A sweep calls a hook of each component that holds something, and clears the flag of it. -/
structure Sweep (Component : Type) where
  hook : Component → Bool → HookCall Component
  held : Flags → Bool
  clear : Flags → Flags
  cleared : ∀ flags, held (clear flags) = false
  blocked : ∀ flags, (clear flags).cleanupBlocked = flags.cleanupBlocked
  component_hook : ∀ component ok, (hook component ok).component = component

def stopping : Sweep Component where
  hook := .stop
  held flags := flags.startSucceeded
  clear flags := { flags with startSucceeded := false }
  cleared _ := rfl
  blocked _ := rfl
  component_hook _ _ := rfl

def deinitializing : Sweep Component where
  hook := .deinit
  held flags := flags.initSucceeded
  clear flags := { flags with initSucceeded := false }
  cleared _ := rfl
  blocked _ := rfl
  component_hook _ _ := rfl

namespace Sweep

variable (sweep : Sweep Component)

/-- The sweep clears the component. -/
def Takes (storage : Storage Component) (component : Component) : Prop :=
  sweep.held (storage.flags component) = true ∧ (storage.flags component).cleanupBlocked = false

instance (storage : Storage Component) (component : Component) :
    Decidable (sweep.Takes storage component) :=
  inferInstanceAs (Decidable (_ ∧ _))

omit [DecidableEq Component] in
theorem takes_iff {storage : Storage Component} :
    (sweep.held (storage.flags component) && !(storage.flags component).cleanupBlocked) = true ↔
      sweep.Takes storage component := by
  rw [Bool.and_eq_true, Bool.not_eq_true']
  exact Iff.rfl

omit [DecidableEq Component] in
theorem not_takes {storage : Storage Component}
    (skips : ¬ sweep.Takes storage component) : sweep.held (storage.flags component) = false ∨
      (storage.flags component).cleanupBlocked = true := by
  by_cases held : sweep.held (storage.flags component) = true
  · exact .inr (Bool.not_eq_false _ ▸ fun free => skips ⟨held, free⟩)
  · exact .inl (Bool.eq_false_iff.mpr held)

/-- The hook of a component was called, and its flag is cleared. -/
structure Called (component : Component) (before after : Cleanup Component) : Prop where
  ran : ∃ ok, Ran (sweep.hook component ok) component
    (sweep.clear (before.storage.flags component)) before.storage after.storage
  uncontained : after.uncontainedExecution = before.uncontainedExecution

/-- The step of the sweep takes a component, or passes over it. -/
structure Steps (step : Cleanup Component → Component → Cleanup Component) : Prop where
  skips : ∀ cleanup component, ¬ sweep.Takes cleanup.storage component →
    step cleanup component = cleanup
  takes : ∀ cleanup component, sweep.Takes cleanup.storage component →
    sweep.Called component cleanup (step cleanup component)

end Sweep

theorem steps_stopComponent (answers : CleanupAnswers Component) :
    stopping.Steps (stopComponent answers) where
  skips cleanup component idle := if_neg fun both => idle (stopping.takes_iff.mp both)
  takes cleanup component takes := by
    have ran := ran_finished cleanup.storage component
      (.stop component (succeeded (answers.stop component))) .beginStop
      (fun record => record.finishStop (answers.stop component))
      (fun flags => { flags with startSucceeded := false }) (fun _ => rfl) fun _ => rfl
    rw [show stopComponent answers cleanup component = _ from
      if_pos (stopping.takes_iff.mpr takes)]
    cases result : answers.stop component with rw [result] at ran
    | ok _ => exact ⟨⟨_, ran⟩, rfl⟩
    | error status =>
      exact ⟨⟨_, ran.quiet (fun record => record.fail ⟨some component, .stop, status, false⟩)
        fun _ => rfl⟩, rfl⟩

theorem steps_deinitializeComponent (answers : CleanupAnswers Component) :
    deinitializing.Steps (deinitializeComponent answers) where
  skips cleanup component idle := if_neg fun both => idle (deinitializing.takes_iff.mp both)
  takes cleanup component takes := by
    have ran := ran_finished cleanup.storage component
      (.deinit component (succeeded (answers.deinit component))) .beginDeinit
      (fun record => record.finishDeinit (answers.deinit component))
      (fun flags => { flags with initSucceeded := false }) (fun _ => rfl) fun _ => rfl
    rw [show deinitializeComponent answers cleanup component = _ from
      if_pos (deinitializing.takes_iff.mpr takes)]
    cases result : answers.deinit component with rw [result] at ran
    | ok _ => exact ⟨⟨_, ran⟩, rfl⟩
    | error status =>
      exact ⟨⟨_, ran.quiet (fun record => record.fail ⟨some component, .deinit, status, false⟩)
        fun _ => rfl⟩, rfl⟩

end Solar.Lifecycle
