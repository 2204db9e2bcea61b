/-
This file proves when the hooks of the components are paired and ordered. Each
call of a hook is judged by the calls before it: `Permitted` says what they must
be. The forward hooks run in topological order and the backward hooks in the
reverse one; what a component still has to undo is told by two flags of its
record, and the flags say the same as the trace.

The start of a component is its start hook and the preparation of its execution.
A component whose execution could not be prepared is not started, though its hook
has succeeded, and its stop hook is never called.
-/

import Solar.Lifecycle.Release

namespace Solar.Lifecycle

open List

variable {Component : Type} {graph : Graph Component} {trace : List (HookCall Component)}
  {ready : Component → Prop}

/-! ### Traces -/

/-- The calls that must or must not have been made before a call. A component is started by its start
hook when it is ready. -/
def Permitted (graph : Graph Component) (ready : Component → Prop)
    (trace : List (HookCall Component)) : HookCall Component → Prop
  | .init component _ =>
      (∀ ok, .init component ok ∉ trace) ∧
        ∀ needed ∈ graph.dependencies component, .init needed true ∈ trace
  | .start component _ =>
      (∀ ok, .start component ok ∉ trace) ∧ .init component true ∈ trace ∧
        ∀ needed ∈ graph.dependencies component, .start needed true ∈ trace ∧ ready needed
  | .stop component _ =>
      (.start component true ∈ trace ∧ ready component) ∧ (∀ ok, .stop component ok ∉ trace) ∧
        (∀ ok, .deinit component ok ∉ trace) ∧
        ∀ dependent, component ∈ graph.dependencies dependent →
          .start dependent true ∈ trace → ready dependent → ∃ ok, .stop dependent ok ∈ trace
  | .deinit component _ =>
      .init component true ∈ trace ∧ (∀ ok, .deinit component ok ∉ trace) ∧
        (.start component true ∈ trace → ready component → ∃ ok, .stop component ok ∈ trace) ∧
        ∀ dependent, component ∈ graph.dependencies dependent → .init dependent true ∈ trace →
          ∃ ok, .deinit dependent ok ∈ trace

/-- A component that was never to be stopped is stopped or still started. -/
theorem stopped_of_not_started {component : Component}
    (unstarted : ¬ Started ready trace component) (started : .start component true ∈ trace)
    (prepared : ready component) : ∃ ok, .stop component ok ∈ trace := by
  by_contra unstopped
  exact unstarted ⟨⟨started, prepared⟩, fun ok among => unstopped ⟨ok, among⟩⟩

theorem deinitialized_of_not_initialized {component : Component}
    (released : ¬ Initialized trace component) (initialized : .init component true ∈ trace) :
    ∃ ok, .deinit component ok ∈ trace := by
  by_contra unreleased
  exact released ⟨initialized, fun ok among => unreleased ⟨ok, among⟩⟩

section

variable {call : HookCall Component} {other : Component} (apart : other ≠ call.component)

include apart

/-- A call of a hook concerns only its component. -/
theorem mem_concat_of_ne {ok : Bool} {hook : Component → Bool → HookCall Component}
    (own : (hook other ok).component = other) :
    hook other ok ∈ trace ++ [call] ↔ hook other ok ∈ trace := by
  rw [mem_append, mem_singleton, or_iff_left]
  rintro rfl
  exact apart own.symm

theorem initialized_concat_of_ne : Initialized (trace ++ [call]) other ↔ Initialized trace other := by
  simp only [Initialized]
  rw [mem_concat_of_ne apart rfl]
  exact and_congr_right fun _ => forall_congr' fun _ => not_congr (mem_concat_of_ne apart rfl)

theorem started_concat_of_ne :
    Started ready (trace ++ [call]) other ↔ Started ready trace other := by
  simp only [Started]
  rw [mem_concat_of_ne apart rfl]
  exact and_congr_right fun _ => forall_congr' fun _ => not_congr (mem_concat_of_ne apart rfl)

end

/-! ### The flags say what the trace says -/

/-- The trace is in order, the flags of the records say what is still to be undone, and what a blocked
component depends on is blocked. -/
structure Paired (graph : Graph Component) (ready : Component → Prop)
    (storage : Storage Component) : Prop where
  ordered : Prefixes.Each (Permitted graph ready) storage.trace
  inits : ∀ component, (storage.flags component).initSucceeded = true ↔
    Initialized storage.trace component
  starts : ∀ component, (storage.flags component).startSucceeded = true ↔
    Started ready storage.trace component
  alive : ∀ component, Started ready storage.trace component →
    ∀ ok, .deinit component ok ∉ storage.trace
  closed : ∀ component, ∀ needed ∈ graph.dependencies component,
    (storage.flags component).cleanupBlocked = true → (storage.flags needed).cleanupBlocked = true

variable {component : Component} {before after : Storage Component}

/-- A call that is permitted keeps the pairing, if it does so for its own component. -/
theorem Paired.concat {call : HookCall Component} {flags : Flags} (paired : Paired graph ready before)
    (ran : Ran call call.component flags before after)
    (blocked : flags.cleanupBlocked = (before.flags call.component).cleanupBlocked)
    (permitted : Permitted graph ready before.trace call)
    (inits : flags.initSucceeded = true ↔ Initialized (before.trace ++ [call]) call.component)
    (starts : flags.startSucceeded = true ↔ Started ready (before.trace ++ [call]) call.component)
    (alive : Started ready (before.trace ++ [call]) call.component →
      ∀ ok, .deinit call.component ok ∉ before.trace ++ [call]) :
    Paired graph ready after := by
  have blocked : ∀ other, (after.flags other).cleanupBlocked =
      (before.flags other).cleanupBlocked := by
    intro other
    by_cases here : other = call.component
    · rw [here, ran.own, blocked]
    · rw [ran.others other here]
  refine ⟨?_, fun other => ?_, fun other => ?_, fun other => ?_, fun other needed listed => ?_⟩
  · rw [ran.trace]
    exact paired.ordered.concat permitted
  · rw [ran.trace]
    by_cases here : other = call.component
    · rw [here, ran.own, inits]
    · rw [ran.others other here, initialized_concat_of_ne here, paired.inits]
  · rw [ran.trace]
    by_cases here : other = call.component
    · rw [here, ran.own, starts]
    · rw [ran.others other here, started_concat_of_ne here, paired.starts]
  · rw [ran.trace]
    by_cases here : other = call.component
    · rw [here]
      exact alive
    · rw [started_concat_of_ne here]
      exact fun running ok among => paired.alive other running ok
        ((mem_concat_of_ne here rfl).mp among)
  · rw [blocked, blocked]
    exact paired.closed other needed listed

/-- A component is stopped after all that depend on it. -/
theorem Paired.stop {ok : Bool} (paired : Paired graph ready before)
    (ran : Ran (.stop component ok) component
      { before.flags component with startSucceeded := false } before after)
    (started : (before.flags component).startSucceeded = true)
    (dependents : ∀ dependent, component ∈ graph.dependencies dependent →
      (before.flags dependent).startSucceeded = false) : Paired graph ready after := by
  have running := (paired.starts component).mp started
  refine paired.concat ran rfl ⟨running.1, running.2, paired.alive component running, ?_⟩ ?_ ?_ ?_
  · intro dependent needs
    refine stopped_of_not_started fun running => ?_
    exact Bool.eq_false_iff.mp (dependents dependent needs) ((paired.starts dependent).mpr running)
  · simpa [Initialized, HookCall.component] using paired.inits component
  · exact iff_of_false Bool.false_ne_true fun running =>
      running.2 ok (mem_append_right _ (mem_singleton_self _))
  · rintro ⟨-, unstopped⟩
    exact absurd (mem_append_right _ (mem_singleton_self _)) (unstopped ok)

/-- A component is deinitialised after all that depend on it, and after it was stopped. -/
theorem Paired.deinit {ok : Bool} (paired : Paired graph ready before)
    (ran : Ran (.deinit component ok) component
      { before.flags component with initSucceeded := false } before after)
    (initialized : (before.flags component).initSucceeded = true)
    (stopped : (before.flags component).startSucceeded = false)
    (dependents : ∀ dependent, component ∈ graph.dependencies dependent →
      (before.flags dependent).initSucceeded = false) : Paired graph ready after := by
  have holds := (paired.inits component).mp initialized
  have unstarted : ¬ Started ready before.trace component := fun running =>
    Bool.eq_false_iff.mp stopped ((paired.starts component).mpr running)
  have kept : Started ready (before.trace ++ [.deinit component ok]) component ↔
      Started ready before.trace component := by simp [Started]
  refine paired.concat ran rfl
    ⟨holds.1, holds.2, stopped_of_not_started unstarted, fun dependent needs => ?_⟩ ?_ ?_ ?_
  · refine deinitialized_of_not_initialized fun holds => ?_
    exact Bool.eq_false_iff.mp (dependents dependent needs) ((paired.inits dependent).mpr holds)
  · exact iff_of_false Bool.false_ne_true fun held =>
      held.2 ok (mem_append_right _ (mem_singleton_self _))
  · exact (paired.starts component).trans kept.symm
  · exact fun running => absurd (kept.mp running) unstarted

variable [DecidableEq Component] {architecture : Architecture Component}
  {storage : Storage Component} {answers : BootAnswers Component} {booting : Booting Component}

omit [DecidableEq Component] in
theorem Paired.containAll {answers : CleanupAnswers Component} {before after : Cleanup Component}
    (paired : Paired architecture.graph ready before.storage)
    (contained : ContainedAll architecture answers before after) :
    Paired architecture.graph ready after.storage where
  ordered := contained.trace ▸ paired.ordered
  inits component := by rw [contained.inits, contained.trace, paired.inits]
  starts component := by rw [contained.starts, contained.trace, paired.starts]
  alive component := by
    rw [contained.trace]
    exact paired.alive component
  closed component needed listed := by
    rw [contained.blocked, contained.blocked]
    rintro (blocked | ⟨system, root, among, reaches⟩ | ⟨escaping, escapes, reached⟩)
    · exact .inl (paired.closed component needed listed blocked)
    · exact .inr (.inl ⟨system, root, among, reaches.tail listed⟩)
    · refine .inr (.inr ⟨escaping, escapes, ?_⟩)
      obtain reaches | ⟨root, among, reaches⟩ := reached
      · exact .inl (reaches.tail listed)
      · exact .inr ⟨root, among, reaches.tail listed⟩

/-! ### Cleanup -/

/-- What is not blocked is neither started nor initialised. -/
def Settled (storage : Storage Component) : Prop :=
  ∀ component, ((storage.flags component).startSucceeded = true →
      (storage.flags component).cleanupBlocked = true) ∧
    ((storage.flags component).initSucceeded = true →
      (storage.flags component).cleanupBlocked = true)

/-- A sweep leaves only what is blocked. It comes to what depends on a component before the component,
and what depends on a component that is not blocked is not blocked either. -/
theorem Sweep.Steps.rule {sweep : Sweep Component}
    {step : Cleanup Component → Component → Cleanup Component} (steps : sweep.Steps step)
    {motive : Storage Component → Prop} {cleanup : Cleanup Component}
    (initially : motive cleanup.storage)
    (closed : ∀ storage, motive storage → ∀ component, ∀ needed ∈ graph.dependencies component,
      (storage.flags component).cleanupBlocked = true → (storage.flags needed).cleanupBlocked = true)
    (keeps : ∀ before after component ok, motive before → sweep.Takes before component →
      (∀ dependent, component ∈ graph.dependencies dependent →
        sweep.held (before.flags dependent) = false) →
      Ran (sweep.hook component ok) component (sweep.clear (before.flags component)) before after →
      motive after) :
    motive (graph.reverseTopologicalOrder.foldl step cleanup).storage ∧ ∀ component,
      sweep.held ((graph.reverseTopologicalOrder.foldl step cleanup).storage.flags component) = true →
      ((graph.reverseTopologicalOrder.foldl step cleanup).storage.flags component).cleanupBlocked =
        true := by
  have swept := Prefixes.foldl_rule step graph.reverseTopologicalOrder cleanup
    (motive := fun done cleanup => motive cleanup.storage ∧ ∀ component ∈ done,
      sweep.held (cleanup.storage.flags component) = true →
        (cleanup.storage.flags component).cleanupBlocked = true) ⟨initially, nofun⟩ ?_
  · exact ⟨swept.1, fun component => swept.2 component (graph.mem_reverseTopologicalOrder component)⟩
  intro done component rest split earlier
  generalize done.foldl step cleanup = state at earlier ⊢
  obtain ⟨holds, left⟩ := earlier
  by_cases takes : sweep.Takes state.storage component
  · obtain ⟨ok, ran⟩ := (steps.takes state component takes).ran
    refine ⟨keeps _ _ component ok holds takes (fun dependent needs => ?_) ran,
      fun other listed held => ?_⟩
    · refine Bool.eq_false_iff.mpr fun held => Bool.eq_false_iff.mp takes.2 ?_
      exact closed _ holds dependent component needs
        (left dependent (graph.dependent_mem_of_reverse split needs) held)
    · by_cases here : other = component
      · rw [here, ran.own, sweep.cleared] at held
        exact nomatch held
      · rw [ran.others other here] at held ⊢
        exact left other
          ((mem_append.mp listed).resolve_right fun now => here (mem_singleton.mp now)) held
  · rw [steps.skips state component takes]
    refine ⟨holds, fun other listed held => ?_⟩
    obtain before | now := mem_append.mp listed
    · exact left other before held
    · rw [mem_singleton.mp now] at held ⊢
      exact (sweep.not_takes takes).resolve_left fun idle => Bool.eq_false_iff.mp idle held

/-- All components that are not blocked are stopped. -/
theorem paired_stopAll {answers : CleanupAnswers Component} {cleanup : Cleanup Component}
    (paired : Paired architecture.graph ready cleanup.storage) :
    Paired architecture.graph ready (stopAll architecture answers cleanup).storage ∧ ∀ component,
        ((stopAll architecture answers cleanup).storage.flags component).startSucceeded = true →
        ((stopAll architecture answers cleanup).storage.flags component).cleanupBlocked = true :=
  (steps_stopComponent answers).rule (motive := Paired architecture.graph ready) paired
    (fun _ paired => paired.closed)
    fun _ _ _ _ paired takes dependents ran => paired.stop ran takes.1 dependents

/-- All components that are not blocked are deinitialised. -/
theorem paired_deinitializeAll (answers : CleanupAnswers Component) (cleanup : Cleanup Component)
    (paired : Paired architecture.graph ready cleanup.storage)
    (stopped : ∀ component, (cleanup.storage.flags component).startSucceeded = true →
      (cleanup.storage.flags component).cleanupBlocked = true) :
    Paired architecture.graph ready (deinitializeAll architecture answers cleanup).storage ∧
      Settled (deinitializeAll architecture answers cleanup).storage := by
  have swept := (steps_deinitializeComponent answers).rule
    (motive := fun storage => Paired architecture.graph ready storage ∧
      ∀ component, (storage.flags component).startSucceeded = true →
        (storage.flags component).cleanupBlocked = true)
    ⟨paired, stopped⟩ (fun _ holds => holds.1.closed) ?_
  · exact ⟨swept.1.1, fun component => ⟨swept.1.2 component, swept.2 component⟩⟩
  intro before after component ok holds takes dependents ran
  obtain ⟨paired, stopped⟩ := holds
  refine ⟨paired.deinit ran takes.1 ?_ dependents, fun other running => ?_⟩
  · exact Bool.eq_false_iff.mpr fun running =>
      Bool.eq_false_iff.mp takes.2 (stopped component running)
  · by_cases here : other = component
    · rw [here, ran.own] at running ⊢
      exact stopped component running
    · rw [ran.others other here] at running ⊢
      exact stopped other running

omit [DecidableEq Component] in
theorem Paired.congr (paired : Paired graph ready before) (trace : after.trace = before.trace)
    (flags : after.flags = before.flags) : Paired graph ready after where
  ordered := trace ▸ paired.ordered
  inits component := by rw [flags, trace, paired.inits]
  starts component := by rw [flags, trace, paired.starts]
  alive component := by
    rw [trace]
    exact paired.alive component
  closed component needed listed := by
    rw [flags]
    exact paired.closed component needed listed

theorem paired_stopCleanup (paired : Paired architecture.graph ready storage)
    {answers : CleanupAnswers Component} :
    Paired architecture.graph ready (stopCleanup architecture answers storage).storage ∧
      Settled (stopCleanup architecture answers storage).storage := by
  have begun : Paired architecture.graph ready { storage with systemState := .stopping } :=
    paired.congr rfl rfl
  have contained := begun.containAll
    (containedAll architecture answers { storage := { storage with systemState := .stopping } })
  obtain ⟨stopped, blocked⟩ := paired_stopAll contained
  exact paired_deinitializeAll answers _ (stopped.congr rfl rfl) blocked

theorem paired_rollback (paired : Paired architecture.graph ready storage)
    (answers : CleanupAnswers Component) (startedPhase : Bool)
    (phase : startedPhase = false → ∀ component, (storage.flags component).startSucceeded = false) :
    Paired architecture.graph ready (rollback architecture answers storage startedPhase).storage ∧
      Settled (rollback architecture answers storage startedPhase).storage := by
  have begun : Paired architecture.graph ready { storage with systemState := .rollingBack } :=
    paired.congr rfl rfl
  cases startedPhase with
  | false =>
    have released := paired_deinitializeAll answers
      { storage := { storage with systemState := .rollingBack } } begun
      fun component running => absurd running (Bool.eq_false_iff.mp (phase rfl component))
    exact ⟨released.1.congr rfl rfl, released.2⟩
  | true =>
    have contained := begun.containAll
      (containedAll architecture answers { storage := { storage with systemState := .rollingBack } })
    obtain ⟨stopped, blocked⟩ := paired_stopAll contained
    have released := paired_deinitializeAll answers _ stopped blocked
    exact ⟨released.1.congr rfl rfl, released.2⟩

/-! ### Forward -/

/-- The storage of a system that was never booted. -/
structure Fresh (storage : Storage Component) : Prop where
  trace : storage.trace = []
  flags : ∀ component, storage.flags component = ⟨false, false, false, true, false⟩

omit [DecidableEq Component] in
theorem Fresh.paired (fresh : Fresh storage) : Paired graph ready storage where
  ordered := fresh.trace ▸ .nil
  inits component := by simp [fresh.flags, fresh.trace, Initialized]
  starts component := by simp [fresh.flags, fresh.trace, Started]
  alive component := by simp [fresh.trace]
  closed component needed listed blocked := by simp [fresh.flags] at blocked

/-- The call initialises or starts one of these components. -/
def Within (inits starts : List Component) (call : HookCall Component) : Prop :=
  (∃ component ∈ inits, ∃ ok, call = .init component ok) ∨
    ∃ component ∈ starts, ∃ ok, call = .start component ok

/-- The loops of a boot have initialised and started these components. -/
structure Forward (architecture : Architecture Component) (answers : BootAnswers Component)
    (inits starts : List Component) (booting : Booting Component) : Prop where
  paired : Paired architecture.graph (fun component => prepares architecture answers component = true)
    booting.storage
  only : ∀ call ∈ booting.storage.trace, Within inits starts call
  initialized : booting.primary = none → ∀ component ∈ inits,
    .init component true ∈ booting.storage.trace
  started : booting.primary = none → ∀ component ∈ starts,
    .start component true ∈ booting.storage.trace ∧ prepares architecture answers component = true

namespace Forward

variable {inits starts done rest : List Component}

section

variable (forward : Forward architecture answers inits starts booting)

include forward

omit [DecidableEq Component]

theorem undone (component : Component) (ok : Bool) : .stop component ok ∉ booting.storage.trace ∧
    .deinit component ok ∉ booting.storage.trace :=
  ⟨fun among => by simpa [Within] using forward.only _ among,
    fun among => by simpa [Within] using forward.only _ among⟩

theorem uninitialized (fresh : component ∉ inits) (ok : Bool) :
    .init component ok ∉ booting.storage.trace :=
  fun among => fresh (by simpa [Within] using forward.only _ among)

theorem unstarted (fresh : component ∉ starts) (ok : Bool) :
    .start component ok ∉ booting.storage.trace :=
  fun among => fresh (by simpa [Within] using forward.only _ among)

theorem within (component : Component) {call : HookCall Component}
    (among : call ∈ booting.storage.trace) :
    Within (inits ++ [component]) starts call ∧ Within inits (starts ++ [component]) call :=
  ⟨(forward.only call among).imp_left fun ⟨other, listed, called⟩ =>
      ⟨other, mem_append_left _ listed, called⟩,
    (forward.only call among).imp_right fun ⟨other, listed, called⟩ =>
      ⟨other, mem_append_left _ listed, called⟩⟩

/-- A boot that has failed does nothing more. -/
theorem failed (failed : booting.primary ≠ none) (component : Component) :
    Forward architecture answers (inits ++ [component]) starts booting ∧
      Forward architecture answers inits (starts ++ [component]) booting :=
  ⟨⟨forward.paired, fun _ among => (forward.within component among).1, nofun ∘ failed,
      nofun ∘ failed⟩,
    forward.paired, fun _ among => (forward.within component among).2, nofun ∘ failed,
      nofun ∘ failed⟩

end

/-- A component is initialised after what it depends on. -/
theorem init (forward : Forward architecture answers done [] booting)
    (split : architecture.graph.topologicalOrder = done ++ component :: rest) :
    Forward architecture answers (done ++ [component]) [] (initStep answers booting component) := by
  cases calm : booting.primary with
  | some failure =>
    rw [initStep_of_failed (by rw [calm]; rfl)]
    exact (forward.failed (by rw [calm]; exact nofun) component).1
  | none =>
    obtain ⟨ran, ended⟩ := initStep_spec answers calm component
    have fresh := forward.uninitialized
      (Prefixes.notMem_of_nodup architecture.graph.topologicalOrder_nodup split)
    have unstarted := forward.unstarted (not_mem_nil (a := component))
    have holds : (booting.storage.flags component).initSucceeded = false :=
      Bool.eq_false_iff.mpr fun held => fresh true ((forward.paired.inits component).mp held).1
    have idle : (booting.storage.flags component).startSucceeded = false :=
      Bool.eq_false_iff.mpr fun held => unstarted true ((forward.paired.starts component).mp held).1.1
    refine ⟨forward.paired.concat ran rfl ⟨fresh, fun needed listed => ?_⟩ ?_ ?_ ?_,
      fun call among => ?_, fun none other listed => ?_, fun _ _ listed => nomatch listed⟩
    · exact forward.initialized calm needed
        (architecture.graph.topologicalOrder_sorted _ _ _ split needed listed)
    · simp [Flags.initialized, Initialized, HookCall.component, fresh, forward.undone, holds]
    · simp [Flags.initialized, Started, HookCall.component, unstarted, idle]
    · simp [HookCall.component, forward.undone]
    · rw [ran.trace] at among
      obtain earlier | now := mem_append.mp among
      · exact (forward.within component earlier).1
      · exact .inl ⟨component, mem_append_right _ (mem_singleton_self _), _, mem_singleton.mp now⟩
    · rw [ran.trace, ended.mp none]
      obtain before | now := mem_append.mp listed
      · exact mem_append_left _ (forward.initialized calm other before)
      · rw [mem_singleton.mp now]
        exact mem_append_right _ (mem_singleton_self _)

/-- A component is started after what it depends on. -/
theorem start (forward : Forward architecture answers architecture.graph.topologicalOrder done booting)
    (split : architecture.graph.topologicalOrder = done ++ component :: rest) :
    Forward architecture answers architecture.graph.topologicalOrder (done ++ [component])
      (startStep architecture answers booting component) := by
  cases calm : booting.primary with
  | some failure =>
    rw [startStep_of_failed (by rw [calm]; rfl)]
    exact (forward.failed (by rw [calm]; exact nofun) component).2
  | none =>
    obtain ⟨ran, ended⟩ := startStep_spec architecture answers calm component
    obtain ⟨inits, blocked, starts⟩ := (booting.storage.flags component).started_spec
      (architecture.participates component) (answers.start component) (answers.prepare component)
    have fresh := forward.unstarted
      (Prefixes.notMem_of_nodup architecture.graph.topologicalOrder_nodup split)
    have idle : (booting.storage.flags component).startSucceeded = false :=
      Bool.eq_false_iff.mpr fun held => fresh true ((forward.paired.starts component).mp held).1.1
    have initialized := forward.initialized calm
    refine ⟨forward.paired.concat ran blocked ⟨fresh, ?_, fun needed listed => ?_⟩ ?_ ?_ ?_,
      fun call among => ?_, fun _ other listed => ?_, fun none other listed => ?_⟩
    · exact initialized component (architecture.graph.mem_topologicalOrder component)
    · exact forward.started calm needed
        (architecture.graph.topologicalOrder_sorted _ _ _ split needed listed)
    · rw [inits]
      refine (forward.paired.inits component).trans ?_
      simp [Initialized, HookCall.component]
    · rw [starts, idle]
      simp [Started, HookCall.component, fresh, forward.undone, prepares]
    · simp [HookCall.component, forward.undone]
    · rw [ran.trace] at among
      obtain earlier | now := mem_append.mp among
      · exact (forward.within component earlier).2
      · exact .inr ⟨component, mem_append_right _ (mem_singleton_self _), _, mem_singleton.mp now⟩
    · rw [ran.trace]
      exact mem_append_left _ (initialized other listed)
    · obtain ⟨hook, prepared⟩ := Bool.and_eq_true_iff.mp (ended.mp none)
      rw [ran.trace, hook]
      obtain before | now := mem_append.mp listed
      · exact (forward.started calm other before).imp_left (mem_append_left _)
      · rw [mem_singleton.mp now]
        exact ⟨mem_append_right _ (mem_singleton_self _), prepared⟩

end Forward

theorem forward_initializeAll (architecture : Architecture Component) (fresh : Fresh storage)
    (answers : BootAnswers Component) :
    Forward architecture answers architecture.graph.topologicalOrder []
      (initializeAll architecture answers storage) := by
  refine Prefixes.foldl_rule (initStep answers) architecture.graph.topologicalOrder _
    (motive := fun done booting => Forward architecture answers done [] booting) ?_ ?_
  · refine ⟨fresh.paired.congr rfl rfl, fun call among => ?_, nofun, nofun⟩
    have nothing : call ∈ storage.trace := among
    rw [fresh.trace] at nothing
    exact absurd nothing not_mem_nil
  · exact fun done component rest split forward => forward.init split

theorem forward_startAll
    (forward : Forward architecture answers architecture.graph.topologicalOrder [] booting) :
    Paired architecture.graph (fun component => prepares architecture answers component = true)
      (startAll architecture answers booting).storage := by
  have started := Prefixes.foldl_rule (startStep architecture answers)
    architecture.graph.topologicalOrder
    { booting with
      storage := { booting.storage with systemState := .starting }
      report := { booting.report with initializationCompleted := true } }
    (motive := fun done booting =>
      Forward architecture answers architecture.graph.topologicalOrder done booting)
    ⟨forward.paired.congr rfl rfl, forward.only, forward.initialized, nofun⟩
    fun done component rest split forward => forward.start split
  have follows := follows_startAll architecture answers booting
  exact started.paired.congr follows.trace follows.flags

/-! ### Runs -/

/-- What holds between two calls. -/
structure Sound (architecture : Architecture Component) (ready : Component → Prop)
    (storage : Storage Component) : Prop where
  paired : Paired architecture.graph ready storage
  fresh : storage.systemState = .dormant → Fresh storage
  settled : storage.systemState = .failed ∨ storage.systemState = .stopped → Settled storage

/-- A boot that is not refused decides which components are ready. -/
theorem Sound.boot (sound : Sound architecture ready storage) {cleanup : CleanupAnswers Component}
    (decides : storage.systemState = .dormant →
      ready = fun component => prepares architecture answers component = true) :
    Sound architecture ready (boot architecture answers cleanup storage).1 := by
  have ended := booted architecture answers cleanup storage
  generalize (Lifecycle.boot architecture answers cleanup storage).1 = after at ended ⊢
  cases ended with
  | refused => exact sound
  | uninitialized state failure failed =>
    have forward := forward_initializeAll architecture (sound.fresh state) answers
    obtain ⟨paired, settled⟩ := paired_rollback forward.paired cleanup false fun _ component =>
      Bool.eq_false_iff.mpr fun held =>
        forward.unstarted not_mem_nil true ((forward.paired.starts component).mp held).1.1
    exact decides state ▸ ⟨paired.congr rfl rfl, nofun, fun _ => settled⟩
  | unstarted state failure initialized failed =>
    have started := forward_startAll (forward_initializeAll architecture (sound.fresh state) answers)
    obtain ⟨paired, settled⟩ := paired_rollback started cleanup true nofun
    exact decides state ▸ ⟨paired.congr rfl rfl, nofun, fun _ => settled⟩
  | running state initialized started =>
    have started := forward_startAll (forward_initializeAll architecture (sound.fresh state) answers)
    obtain ⟨trace, flags, running⟩ := finishBoot_spec architecture
    refine decides state ▸ ⟨started.congr trace flags, fun dormant => ?_, fun ended => ?_⟩
    · exact absurd (running.symm.trans dormant) nofun
    · rw [running] at ended
      exact ended.elim nofun nofun

theorem Sound.stop (sound : Sound architecture ready storage) (answers : CleanupAnswers Component) :
    Sound architecture ready (stop architecture answers storage).1 := by
  by_cases begins : stoppable architecture storage = true
  · obtain ⟨paired, settled⟩ := paired_stopCleanup sound.paired
    simp only [Lifecycle.stop, if_pos begins]
    refine ⟨paired.congr rfl rfl, fun dormant => ?_, fun _ => settled⟩
    split_ifs at dormant
  · simp only [Lifecycle.stop, if_neg begins]
    exact sound

/-- What is answered to the first boot, the only one that is not refused. -/
def firstAnswers : List (Call Component) → BootAnswers Component
  | [] => {}
  | .boot answers _ :: _ => answers
  | .stop _ :: rest => firstAnswers rest

/-- A component is ready when the first boot prepares its execution, or it has none. -/
def Ready (architecture : Architecture Component) (calls : List (Call Component))
    (component : Component) : Prop :=
  prepares architecture (firstAnswers calls) component = true

/-- Every call keeps what holds, and only a boot leaves the dormant state. -/
theorem Sound.run {calls : List (Call Component)} {final : Storage Component}
    (sound : Sound architecture ready storage)
    (decides : storage.systemState = .dormant → ready = Ready architecture calls)
    (ran : (engineMachine architecture).run storage calls = some final) :
    Sound architecture ready final := by
  induction calls generalizing storage with
  | nil =>
    cases ran
    exact sound
  | cons call rest ih =>
    obtain ⟨next, stepped, continued⟩ := Transition.Machine.run_cons_eq_some _ ran
    cases call with
    | boot answers cleanup =>
      cases stepped
      have prepares : storage.systemState = .dormant →
          ready = fun component => prepares architecture answers component = true := decides
      refine ih (sound.boot prepares) (fun dormant => ?_) continued
      have ended := booted architecture answers cleanup storage
      generalize (Lifecycle.boot architecture answers cleanup storage).1 = after at ended dormant
      cases ended with
      | refused state => exact absurd dormant state
      | running =>
        rw [(finishBoot_spec architecture).2.2] at dormant
        exact nomatch dormant
      | _ => exact nomatch dormant
    | stop answers =>
      cases stepped
      refine ih (sound.stop answers) (fun dormant => decides ?_) continued
      by_cases begins : stoppable architecture storage = true
      · simp only [Lifecycle.stop, if_pos begins] at dormant
        split_ifs at dormant
      · simpa only [Lifecycle.stop, if_neg begins] using dormant

/-- Hooks are paired and ordered: in every run, every call of a hook was permitted by the calls before
it; and when the system has been rolled back or stopped, every component that is not blocked has had
its deinit hook called if its init hook succeeded, and its stop hook if its start hook succeeded and its
execution was prepared. -/
theorem hooks_are_paired_and_ordered {calls : List (Call Component)}
    (ran : (engineMachine architecture).run {} calls = some storage) :
    (∀ earlier call later, storage.trace = earlier ++ call :: later →
      Permitted architecture.graph (Ready architecture calls) earlier call) ∧
    (storage.systemState = .failed ∨ storage.systemState = .stopped →
      ∀ component, (storage.records component).cleanupBlocked = false →
        (.init component true ∈ storage.trace → ∃ ok, .deinit component ok ∈ storage.trace) ∧
        (.start component true ∈ storage.trace → Ready architecture calls component →
          ∃ ok, .stop component ok ∈ storage.trace)) := by
  have fresh : Fresh ({} : Storage Component) := ⟨rfl, fun _ => rfl⟩
  have first : Sound architecture (Ready architecture calls) {} :=
    ⟨fresh.paired, fun _ => fresh, fun ended => ended.elim nofun nofun⟩
  have sound := first.run (fun _ => rfl) ran
  refine ⟨sound.paired.ordered, fun ended component free =>
    ⟨deinitialized_of_not_initialized fun held => ?_, stopped_of_not_started fun running => ?_⟩⟩
  · exact Bool.eq_false_iff.mp free
      ((sound.settled ended component).2 ((sound.paired.inits component).mpr held))
  · exact Bool.eq_false_iff.mp free
      ((sound.settled ended component).1 ((sound.paired.starts component).mpr running))

/-- The validation fails after everything was started, and everything is undone. -/
theorem driverAndService_is_rolled_back :
    ∃ calls storage, (engineMachine driverAndService).run {} calls = some storage ∧
      storage.systemState = .failed ∧
      (∀ earlier call later, storage.trace = earlier ++ call :: later →
        Permitted driverAndService.graph (Ready driverAndService calls) earlier call) ∧
      ∃ ok, .stop 1 ok ∈ storage.trace := by
  have ran : (engineMachine driverAndService).run {}
        [.boot { validate := fun _ => .error .notReady } {}] =
      some (boot driverAndService { validate := fun _ => .error .notReady } {} {}).1 := rfl
  have holds := hooks_are_paired_and_ordered ran
  exact ⟨_, _, ran, by decide, holds.1,
    (holds.2 (.inl (by decide)) 1 (by decide)).2 (by decide) rfl⟩

/-- The execution of the service cannot be prepared after its start hook has succeeded: the system is
rolled back, and the stop hook of the service is not called. -/
theorem driverAndService_forgets_a_stop :
    ∃ storage, (engineMachine driverAndService).Reachable {} storage ∧
      storage.systemState = .failed ∧ (storage.records 1).cleanupBlocked = false ∧
      .start 1 true ∈ storage.trace ∧ ∀ ok, .stop 1 ok ∉ storage.trace :=
  ⟨_, ⟨[.boot { prepare := fun _ => .error .noMemory } {}], rfl⟩, by decide⟩

end Solar.Lifecycle
