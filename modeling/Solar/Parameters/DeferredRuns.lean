/-
This file proves when deferred saves are not forgotten: while persistence is
active and something has a deadline, the registration is queued or its timer
runs out by then, a run under way will schedule the next one, or a flush will
save everything itself.

One timer serves all deadlines, and there are four ways to lose it. A run with a
failed save returns without scheduling the next one. A flush cancels the timer
first and may then be refused, run into its timeout or be turned away by a gate.
The kernel refuses a submission while a cancel of the running item is not
finished. And the timer that runs out in that time is lost.
-/

import Solar.Parameters.Deadlines

namespace Solar.Parameters

open List Execution Words

namespace DeferredSystem

variable {A : Architecture}

/-! ### Attended deadlines -/

/-- A run under way will schedule the next one, or a flush is waiting. -/
def Resumes (system : DeferredSystem A) : Prop :=
  (∃ rest, system.run = .saving rest false) ∨ 0 < system.flushes

/-- The registration is queued, or its timer is running. -/
def Armed (system : DeferredSystem A) : Prop :=
  system.registration.work.delayed.isSome = true ∨ system.registration.work.queued = true

/-- While persistence is active, the timer runs out by every deadline, and deadlines are attended
to. -/
structure Attended (system : DeferredSystem A) : Prop where
  follows : system.facility.Follows
  accepting : system.active = true → system.registration.accepting = true
  timely : system.active = true → ∀ time, system.registration.work.delayed = some time →
    ∀ deadline ∈ system.facility.dues, time ≤ deadline
  attended : system.active = true → system.facility.dues ≠ [] → system.Armed ∨ system.Resumes

section

variable (system : DeferredSystem A)

/-- A submission is taken by the kernel, or nothing is due yet. -/
def Takes (granted : Bool) : Prop :=
  system.registration.work.accepts granted = true ∨
    ∀ deadline ∈ system.facility.dues, system.now < deadline

/-- All records with deadlines get as far as the store when they are saved. -/
def Flushes (environments : Item A → Environment A) : Prop :=
  ∀ item ∈ A.deferredItems, system.facility.Awaits item →
    Facility.Reaches (environments item) system.facility item

/-- The scheduling after a change of these parameters is granted, or it is not needed: a run or a
flush goes on, or only these parameters had deadlines. -/
def Schedules (parameters : List A.Parameter) (granted : Bool) : Prop :=
  system.Takes granted ∨ system.Resumes ∨
    (system.facility.updateSlots (fun _ slot => slot.markScheduleFailure) parameters).dues = []

/-- A set or reset that changes a deferred parameter can schedule. -/
def SetsCarefully (environment : Environment A) (parameter : A.Parameter)
    (candidate : A.Value parameter) (noWait reset granted : Bool) : Prop :=
  system.active = true → A.effectiveDeferred parameter = true →
    ∀ update, (system.facility.setParameter environment system.now parameter candidate noWait
      reset).2 = .ok update → update.changed = true ∨ reset = true →
      ({ system with facility := (system.facility.setParameter environment system.now parameter
        candidate noWait reset).1 } : DeferredSystem A).Schedules [parameter] granted

/-- What is asked of a step while persistence is active. Scheduling is granted where it is needed. A
save of a run fails at the store only, and only when no other record has a deadline or the timer
runs already. A flush is not given up while it is the only one to attend to a deadline, and its
saves get as far as the store. The timer does not run out while the kernel refuses a submission. -/
def Careful : DeferredLabel A → Prop
  | .activate granted => system.Takes granted ∨ system.Resumes
  | .set environment parameter candidate noWait granted =>
      system.SetsCarefully environment parameter candidate noWait false granted
  | .reset environment parameter noWait granted =>
      system.SetsCarefully environment parameter (A.declaration parameter).defaultValue noWait true
        granted
  | .setAll environment transaction granted => system.active = true →
      deferredParameters transaction ≠ [] →
      (system.facility.setAllParameters environment system.now transaction).2.isOk = true →
        ({ system with facility := (system.facility.setAllParameters environment system.now
          transaction).1 } : DeferredSystem A).Schedules (deferredParameters transaction) granted
  | .flush entry noWait environments => system.active = true → entry.isOk = true →
      system.facility.dues = [] ∨ system.Resumes ∨
        if system.registration.cancel.quiescent = true then system.Flushes environments
        else noWait = false
  | .flushResumed environments => system.active = true →
      system.Flushes environments ∨ { system with flushes := system.flushes - 1 }.Resumes
  | .flushTimeout => system.active = true → system.facility.dues = [] ∨ system.Armed ∨
      { system with flushes := system.flushes - 1 }.Resumes
  | .expire granted => system.active = true → system.facility.dues = [] ∨
      system.registration.work.accepts granted = true ∨ system.Resumes
  | .runSave environment => system.active = true → ∀ item rest,
      system.run = .saving (item :: rest) false →
      (system.facility.persistItem environment system.now false item).2.isOk = false →
        system.Armed ∨ 0 < system.flushes ∨ Facility.Reaches environment system.facility item ∧
            ∀ other, system.facility.due other ≠ none → other.record = item
  | .runReschedule granted => system.active = true → system.run = .saving [] false →
      system.Takes granted ∨ 0 < system.flushes
  | _ => True

end

/-! ### Scheduling -/

/-- What scheduling leaves behind. -/
structure Scheduled (system next : DeferredSystem A) (succeeded : Bool) : Prop where
  facility : next.facility = system.facility
  now : next.now = system.now
  active : next.active = system.active
  accepting : next.registration.accepting = system.registration.accepting
  run : next.run = system.run
  flushes : next.flushes = system.flushes
  timely : system.active = true → system.registration.accepting = true →
    ∀ time, next.registration.work.delayed = some time →
      ∀ deadline ∈ system.facility.dues, time ≤ deadline
  armed : system.active = true → succeeded = true → system.facility.dues ≠ [] → next.Armed

theorem scheduled (system : DeferredSystem A) (granted : Bool) :
    Scheduled system (system.scheduleDeferredPersistence granted).1
      (system.scheduleDeferredPersistence granted).2 := by
  unfold scheduleDeferredPersistence
  by_cases active : system.active = true
  · simp only [if_pos active]
    cases least : system.facility.dues.min? with
    | none =>
      have none : system.facility.dues = [] := min?_eq_none_iff.mp least
      refine ⟨rfl, rfl, rfl, rfl, rfl, rfl, fun _ _ time _ deadline listed => ?_,
        fun _ _ some => absurd none some⟩
      rw [none] at listed
      exact absurd listed not_mem_nil
    | some earliest =>
      have first : ∀ deadline ∈ system.facility.dues, earliest ≤ deadline :=
        (min?_eq_some_iff.mp least).2
      unfold DelayableRegistration.schedule
      by_cases accepting : system.registration.accepting = true
      · simp only [if_pos accepting, DelayableWork.reschedule]
        by_cases overdue : earliest - system.now = 0
        · simp only [if_pos overdue]
          by_cases taken : system.registration.work.accepts granted = true
          · simp only [if_pos taken]
            exact ⟨rfl, rfl, rfl, rfl, rfl, rfl, nofun, fun _ _ _ => .inr rfl⟩
          · simp only [if_neg taken]
            exact ⟨rfl, rfl, rfl, rfl, rfl, rfl, nofun, nofun⟩
        · simp only [if_neg overdue]
          refine ⟨rfl, rfl, rfl, rfl, rfl, rfl, fun _ _ time runs deadline listed => ?_,
            fun _ _ _ => .inl rfl⟩
          obtain ⟨⟩ := runs
          have bound := first deadline listed
          omega
      · simp only [if_neg accepting]
        exact ⟨rfl, rfl, rfl, rfl, rfl, rfl, fun _ contrary => absurd contrary accepting, nofun⟩
  · simp only [if_neg active]
    exact ⟨rfl, rfl, rfl, rfl, rfl, rfl, fun contrary => absurd contrary active,
      fun contrary => absurd contrary active⟩

variable {system next : DeferredSystem A} {granted : Bool} {environment : Environment A}

theorem schedule_succeeds (accepting : system.active = true → system.registration.accepting = true)
    (takes : system.Takes granted) : (system.scheduleDeferredPersistence granted).2 = true := by
  unfold scheduleDeferredPersistence
  by_cases active : system.active = true
  · simp only [if_pos active]
    cases least : system.facility.dues.min? with
    | none => rfl
    | some earliest =>
      simp only [DelayableRegistration.schedule, if_pos (accepting active),
        DelayableWork.reschedule]
      by_cases overdue : earliest - system.now = 0
      · obtain taken | early := takes
        · simp only [if_pos overdue, if_pos taken]
        · have ahead := early earliest (min?_eq_some_iff.mp least).1
          omega
      · simp only [if_neg overdue]
  · simp only [if_neg active]

theorem Scheduled.resumes {succeeded : Bool} (scheduled : Scheduled system next succeeded)
    (resumes : system.Resumes) : next.Resumes := by
  unfold Resumes at resumes ⊢
  rw [scheduled.run, scheduled.flushes]
  exact resumes

theorem Scheduled.attended {succeeded : Bool} (scheduled : Scheduled system next succeeded)
    (follows : system.facility.Follows)
    (accepting : system.active = true → system.registration.accepting = true)
    (needed : succeeded = true ∨ system.Resumes) : Attended next where
  follows := scheduled.facility ▸ follows
  accepting active := by
    rw [scheduled.accepting]
    exact accepting (scheduled.active ▸ active)
  timely active time runs := by
    rw [scheduled.active] at active
    rw [scheduled.facility]
    exact scheduled.timely active (accepting active) time runs
  attended active some := by
    rw [scheduled.active] at active
    rw [scheduled.facility] at some
    obtain succeeded | resumes := needed
    · exact .inl (scheduled.armed active succeeded some)
    · exact .inr (scheduled.resumes resumes)

theorem failed_slots (facility : Facility A) (parameters : List A.Parameter) :
    Facility.Wanes facility
        (facility.updateSlots (fun _ slot => slot.markScheduleFailure) parameters) ∧
      (facility.Follows →
        (facility.updateSlots (fun _ slot => slot.markScheduleFailure) parameters).Follows) := by
  induction parameters generalizing facility with
  | nil => exact ⟨fun _ _ due => due, id⟩
  | cons first rest ih =>
    have later := ih (facility.updateSlot first (·.markScheduleFailure))
    refine ⟨fun item deadline due => ?_, fun follows => later.2 ?_⟩
    · have earlier := later.1 item deadline due
      cases item with
      | group name => exact earlier
      | parameter name =>
        rw [Facility.due_parameter_eq_some] at earlier ⊢
        by_cases same : name = first
        · subst same
          rw [Facility.slot_updateSlot_self] at earlier
          exact nomatch earlier.2.2
        · rw [Facility.slot_updateSlot_of_ne _ _ _ same] at earlier
          exact earlier
    · intro group deferred member listed dirty
      refine follows group deferred member listed ?_
      by_cases same : member = first
      · subst same
        rw [Facility.slot_updateSlot_self] at dirty
        exact dirty
      · rw [Facility.slot_updateSlot_of_ne _ _ _ same] at dirty
        exact dirty

/-- The scheduling after a change. -/
theorem attended_scheduleAfter (system : DeferredSystem A) (follows : system.facility.Follows)
    (accepting : system.active = true → system.registration.accepting = true)
    {parameters : List A.Parameter}
    (schedules : system.active = true → system.Schedules parameters granted) :
    Attended (system.scheduleAfter parameters granted) := by
  have made := scheduled system granted
  have succeeds : system.Takes granted →
      (system.scheduleDeferredPersistence granted).2 = true := schedule_succeeds accepting
  have inactive : system.active = false →
      (system.scheduleDeferredPersistence granted).2 = true := by
    intro inactive
    unfold scheduleDeferredPersistence
    simp [inactive]
  unfold scheduleAfter
  generalize system.scheduleDeferredPersistence granted = outcome at made succeeds inactive ⊢
  obtain ⟨next, _ | _⟩ := outcome
  · have active : system.active = true := by
      by_contra contrary
      exact nomatch inactive (Bool.eq_false_iff.mpr contrary)
    have wanes := failed_slots next.facility parameters
    refine ⟨wanes.2 (made.facility ▸ follows), fun _ => made.accepting ▸ accepting active,
      fun _ time runs deadline listed => ?_, fun _ some => .inr ?_⟩
    · exact made.timely active (accepting active) time runs deadline
        (made.facility ▸ wanes.1.dues deadline listed)
    · obtain takes | resumes | none := schedules active
      · exact nomatch succeeds takes
      · exact made.resumes resumes
      · rw [← made.facility] at none
        exact absurd none some
  · exact made.attended follows accepting (.inl rfl)

/-! ### Steps -/

section

variable (holds : Attended system)

include holds

theorem Attended.of_wanes (wanes : Facility.Wanes system.facility next.facility)
    (follows : next.facility.Follows) (active : next.active = system.active)
    (registration : next.registration = system.registration)
    (resumes : system.Armed ∨ system.Resumes → next.Armed ∨ next.Resumes) : Attended next where
  follows
  accepting nextActive := by
    rw [registration]
    exact holds.accepting (active ▸ nextActive)
  timely nextActive time runs deadline listed := by
    rw [registration] at runs
    exact holds.timely (active ▸ nextActive) time runs deadline (wanes.dues deadline listed)
  attended nextActive some := by
    refine resumes (holds.attended (active ▸ nextActive) fun none => some ?_)
    rw [eq_nil_iff_forall_not_mem] at none ⊢
    exact fun deadline listed => none deadline (wanes.dues deadline listed)

theorem Attended.of_set {parameter : A.Parameter} {candidate : A.Value parameter}
    {noWait reset : Bool}
    (careful : system.SetsCarefully environment parameter candidate noWait reset granted) :
    Attended (system.setParameter environment parameter candidate noWait reset granted) := by
  have sets := Facility.sets environment system.now parameter candidate noWait reset system.facility
  have follows := sets.follows holds.follows
  have wanes := sets.wanes
  unfold setParameter
  unfold SetsCarefully at careful
  generalize system.facility.setParameter environment system.now parameter candidate noWait
    reset = outcome at follows wanes careful ⊢
  obtain ⟨facility, _ | update⟩ := outcome
  · exact holds.of_wanes (wanes nofun) follows rfl rfl id
  · simp only
    split_ifs with schedules
    · refine attended_scheduleAfter { system with facility } follows
        holds.accepting fun active => ?_
      exact careful active schedules.1 update rfl schedules.2
    · refine holds.of_wanes (wanes fun other same => ?_) follows rfl rfl id
      rw [← Except.ok.inj same]
      exact schedules

theorem Attended.of_setAll {transaction : Transaction A}
    (careful : Careful system (.setAll environment transaction granted)) :
    Attended (system.setAllParameters environment transaction granted) := by
  have marks := (Facility.setsAll environment system.now transaction system.facility).marks
  unfold setAllParameters
  simp only [Careful] at careful
  generalize system.facility.setAllParameters environment system.now transaction = outcome
    at marks careful ⊢
  obtain ⟨facility, result⟩ := outcome
  obtain ⟨error, failed, same⟩ | ⟨update, base, states, succeeded, same, named, made⟩ := marks
  · subst failed
    exact holds.of_wanes same.wanes (same.follows holds.follows) rfl rfl id
  · subst succeeded made
    have follows := Facility.follows_markTransaction system.now states (same.follows holds.follows)
    split_ifs with immediate
    · refine holds.of_wanes (fun item deadline due => ?_) follows rfl rfl id
      have none : ∀ parameter ∈ states.map (·.parameter),
          A.effectiveDeferred parameter = false := by
        rw [named]
        intro parameter listed
        by_contra deferred
        have among : parameter ∈ deferredParameters transaction :=
          mem_filter.mpr ⟨listed, Bool.not_eq_false _ ▸ deferred⟩
        rw [immediate] at among
        exact absurd among not_mem_nil
      rw [Facility.due_markTransaction system.now none, same.due] at due
      exact due
    · refine attended_scheduleAfter
        { system with facility := base.markTransactionPersistence system.now states }
        follows holds.accepting fun active => ?_
      exact careful active immediate rfl

variable {environments : Item A → Environment A}

omit holds in
/-- What is left of the deadlines after the saves of a flush. -/
theorem flushed_attended (follows : system.facility.Follows)
    (accepting : system.active = true → system.registration.accepting = true)
    (stopped : system.registration.work.delayed = none)
    (careful : system.active = true → system.facility.dues = [] ∨ system.Resumes ∨
      system.Flushes environments) : Attended (system.flushItems environments) where
  follows := Facility.follows_persistItems follows environments system.now true _
  accepting
  timely _ time runs := nomatch stopped.symm.trans runs
  attended active some := by
    obtain none | resumes | flushes := careful active
    · refine absurd ?_ some
      have wanes := Facility.wanes_persistItems environments system.now true A.deferredItems
        system.facility
      refine eq_nil_iff_forall_not_mem.mpr fun deadline listed => ?_
      have earlier := wanes.dues deadline listed
      rw [none] at earlier
      exact absurd earlier not_mem_nil
    · exact .inr resumes
    · exact absurd (Facility.dues_flushed follows system.now flushes) some

theorem Attended.of_flush {entry : Except Status Unit} {noWait : Bool}
    (careful : Careful system (.flush entry noWait environments)) :
    Attended (system.flushParameters entry noWait environments) := by
  unfold flushParameters
  cases entry with
  | error status => exact holds
  | ok _ =>
  simp only
  split_ifs with quiescent waits
  · refine flushed_attended
      holds.follows holds.accepting rfl fun active => ?_
    obtain none | resumes | flushes := careful active rfl
    · exact .inl none
    · exact .inr (.inl resumes)
    · rw [if_pos quiescent] at flushes
      exact .inr (.inr flushes)
  · refine ⟨holds.follows, holds.accepting, nofun, fun active some => ?_⟩
    obtain none | resumes | flushes := careful active rfl
    · exact absurd none some
    · exact .inr resumes
    · rw [if_neg quiescent, waits] at flushes
      exact nomatch flushes
  · exact ⟨holds.follows, holds.accepting, nofun, fun _ _ => .inr (.inr (Nat.succ_pos _))⟩

/-- A save of a run. -/
theorem Attended.of_runSave {item : Item A} {rest : List (Item A)} {failed : Bool}
    (running : system.run = .saving (item :: rest) failed)
    (careful : Careful system (.runSave environment)) :
    Attended { system with
      facility := (system.facility.persistItem environment system.now false item).1
      run := .saving rest
        (failed || !(system.facility.persistItem environment system.now false item).2.isOk) } := by
  have wanes := Facility.wanes_persistItem environment system.now false system.facility item
  have follows := Facility.follows_persistItem holds.follows environment system.now false item
  refine ⟨follows, holds.accepting, fun active time runs deadline listed =>
    holds.timely active time runs deadline (wanes.dues deadline listed), fun active some => ?_⟩
  have before : system.facility.dues ≠ [] := by
    intro none
    rw [eq_nil_iff_forall_not_mem] at none
    exact some (eq_nil_iff_forall_not_mem.mpr fun deadline listed =>
      none deadline (wanes.dues deadline listed))
  obtain armed | ⟨other, same⟩ | waiting := holds.attended active before
  · exact .inl armed
  · rw [running] at same
    obtain ⟨_, rfl⟩ := DeferredRun.saving.inj same
    by_cases succeeded : (system.facility.persistItem environment system.now false item).2.isOk =
        true
    · exact .inr (.inl ⟨rest, by rw [succeeded]; rfl⟩)
    · have unsaved := Bool.eq_false_iff.mpr succeeded
      obtain armed | waiting | ⟨reaches, only⟩ := careful active item rest running unsaved
      · exact .inl armed
      · exact .inr (.inr waiting)
      · exact absurd (Facility.dues_of_failed reaches unsaved only) some
  · exact .inr (.inr waiting)

/-- The end of a run's saves. -/
theorem Attended.of_runReschedule {failed : Bool} (running : system.run = .saving [] failed)
    (careful : Careful system (.runReschedule granted))
    (ended : next = if failed then system else (system.scheduleDeferredPersistence granted).1) :
    Attended { next with
      registration := { next.registration with inFlight := false }
      run := .returning } := by
  cases failed with
  | true =>
    subst ended
    refine ⟨holds.follows, holds.accepting, holds.timely, fun active some => ?_⟩
    obtain armed | ⟨rest, same⟩ | waiting := holds.attended active some
    · exact .inl armed
    · rw [running] at same
      exact nomatch same
    · exact .inr (.inr waiting)
  | false =>
    have made := scheduled system granted
    rw [if_neg nofun] at ended
    rw [← ended] at made
    refine ⟨made.facility ▸ holds.follows, fun active => ?_, fun active time runs => ?_,
      fun active some => ?_⟩
    · exact made.accepting ▸ holds.accepting (made.active ▸ active)
    · have wasActive := made.active ▸ active
      rw [made.facility]
      exact made.timely wasActive (holds.accepting wasActive) time runs
    · have wasActive := made.active ▸ active
      simp only [made.facility] at some
      obtain takes | waiting := careful wasActive running
      · exact .inl (made.armed wasActive (schedule_succeeds holds.accepting takes) some)
      · exact .inr (.inr (made.flushes ▸ waiting))

omit holds in
theorem delayed_of_quiescent {registration : DelayableRegistration}
    (quiescent : registration.quiescent = true) : registration.work.delayed = none := by
  unfold DelayableRegistration.quiescent DelayableWork.pending at quiescent
  cases delayed : registration.work.delayed with
  | none => rfl
  | some time => simp [delayed] at quiescent

/-- Every careful step keeps the deadlines attended to. -/
theorem Attended.of_step {label : DeferredLabel A} (careful : Careful system label)
    (stepped : system.step label = some next) : Attended next := by
  cases label with simp only [DeferredSystem.step] at stepped
  | elapse ticks =>
    cases stepped
    exact holds.of_wanes (fun _ _ due => due) holds.follows rfl rfl id
  | activate granted =>
    cases stepped
    refine (scheduled _ granted).attended holds.follows (fun _ => rfl) ?_
    exact careful.imp_left fun takes => schedule_succeeds (fun _ => rfl) takes
  | setAll environment transaction granted =>
    cases stepped
    exact holds.of_setAll careful
  | save environment parameter =>
    cases stepped
    unfold saveParameter
    split
    · exact holds
    · exact holds.of_wanes (Facility.wanes_persistItem _ _ _ _ _)
        (Facility.follows_persistItem holds.follows _ _ _ _) rfl rfl id
  | saveAll environments =>
    cases stepped
    exact holds.of_wanes (Facility.wanes_persistItems _ _ _ _ _)
      (Facility.follows_persistItems holds.follows _ _ _ _) rfl rfl id
  | flush entry noWait environments =>
    cases stepped
    exact holds.of_flush careful
  | flushResumed environments =>
    split_ifs at stepped with resumed
    cases stepped
    refine flushed_attended holds.follows
      holds.accepting (delayed_of_quiescent resumed.2) fun active => ?_
    obtain flushes | resumes := careful active
    · exact .inr (.inr flushes)
    · exact .inr (.inl resumes)
  | flushTimeout =>
    split_ifs at stepped with resumed
    cases stepped
    refine ⟨holds.follows, holds.accepting, holds.timely, fun active some => ?_⟩
    obtain none | attended := careful active
    · exact absurd none some
    · exact attended
  | expire granted =>
    split_ifs at stepped with ranOut
    cases stepped
    refine ⟨holds.follows, holds.accepting, nofun, fun active some => ?_⟩
    obtain none | taken | resumes := careful active
    · exact absurd none some
    · refine .inl (.inr ?_)
      simp [DelayableWork.expire, taken]
    · exact .inr resumes
  | start =>
    split_ifs at stepped with queued
    cases stepped
    exact ⟨holds.follows, holds.accepting, holds.timely, fun _ _ => .inr (.inl ⟨_, rfl⟩)⟩
  | runSave environment =>
    split at stepped
    · next item rest failed running =>
      cases stepped
      exact holds.of_runSave running careful
    · exact nomatch stepped
  | runReschedule granted =>
    split at stepped
    · next failed running =>
      cases stepped
      exact holds.of_runReschedule running careful rfl
    · exact nomatch stepped
  | runReturn =>
    split at stepped
    · next running =>
      cases stepped
      refine ⟨holds.follows, holds.accepting, holds.timely, fun active some => ?_⟩
      obtain armed | ⟨rest, same⟩ | waiting := holds.attended active some
      · exact .inl armed
      · rw [running] at same
        exact nomatch same
      · exact .inr (.inr waiting)
    · exact nomatch stepped
  | _ =>
    cases stepped
    exact holds.of_set careful

end

/-- No call waits and no run of the registration is under way. -/
def Quiescent (system : DeferredSystem A) : Prop :=
  system.run = .idle ∧ system.flushes = 0

/-- Deferred saves are not forgotten: in every quiescent state of every careful run, while
persistence is active, the registration is queued or its timer runs out by every deadline. -/
theorem deferred_saves_are_scheduled {contents : A.Store → Key → Option Bytes}
    {start : Facility A} (booted : Facility.boot A contents = .ok start)
    {system : DeferredSystem A}
    (reached : (deferredMachine A).ReachableWhere Careful { facility := start } system)
    (quiescent : system.Quiescent) (active : system.active = true) {item : Item A}
    {deadline : Nat} (due : system.facility.due item = some deadline) :
    system.registration.work.queued = true ∨
      ∃ time, system.registration.work.delayed = some time ∧ time ≤ deadline := by
  have holds : Attended system := by
    refine reached.invariant Attended ?_ fun system label next holds careful =>
      holds.of_step careful
    refine ⟨fun group _ member listed dirty => ?_, nofun, nofun, nofun⟩
    rw [Facility.slot_boot_member listed booted, Facility.dirty_loadMember] at dirty
    exact nomatch dirty
  have listed := Facility.mem_dues_iff.mpr ⟨item, due⟩
  obtain (running | queued) | ⟨rest, same⟩ | waiting :=
    holds.attended active (ne_nil_of_mem listed)
  · obtain ⟨time, runs⟩ := Option.isSome_iff_exists.mp running
    exact .inr ⟨time, runs, holds.timely active time runs deadline listed⟩
  · exact .inl queued
  · exact nomatch same.symm.trans quiescent.1
  · rw [quiescent.2] at waiting
    exact absurd waiting (Nat.lt_irrefl 0)

/-! ### Two deferred parameters -/

/-- Two parameters with records of their own, saved five and ten ticks after a change. -/
abbrev delaysArchitecture : Architecture where
  Parameter := Bool
  Group := Empty
  Store := Unit
  Value _ := UInt8
  parameters := [false, true]
  groups := []
  declaration slow := {
    stableId := if slow then 8 else 7
    version := 1
    defaultValue := 10
    normalize := range 0 100 .clamp
    codec := scalarCodec 1 UInt8.toNat UInt8.ofNat
    migrate := none
    failBoot := false
    valid_default := System.range_ten }
  persistence slow := .single (.deferred (if slow then 10 else 5))
  store _ := ()
  group name := name.elim
  groupStore name := name.elim
  maxEncodedRecordBytes := 512
  maxGroupRecordBytes := 1024
  mem_parameters := System.mem_bools
  nodup_parameters := System.nodup_bools
  mem_groups := System.gainArchitecture.mem_groups
  nodup_groups := nodup_nil
  stableId_injective := by decide
  nodup_members name := name.elim
  transactional_iff _ name := name.elim
  encoded_size_le slow _ _ := by cases slow <;> decide
  payload_size_le name := name.elim
  maxEncodedRecordBytes_le := System.gainArchitecture.maxEncodedRecordBytes_le
  maxGroupRecordBytes_le := System.gainArchitecture.maxGroupRecordBytes_le

/-- The system booted over empty stores. -/
def delaysStart : DeferredSystem delaysArchitecture where
  facility := (((Facility.initial delaysArchitecture fun _ _ => none).loadPersistentParameter
    false).1.loadPersistentParameter true).1

theorem boot_delays : Facility.boot delaysArchitecture (fun _ _ => none) =
    .ok delaysStart.facility := by
  rfl

/-- Both parameters are set, the timer runs out and a run saves the first. -/
def delaysSaved (environment : Environment delaysArchitecture) :
    List (DeferredLabel delaysArchitecture) :=
  [.activate true, .set {} false (20 : UInt8) false true, .set {} true (30 : UInt8) false true,
    .elapse 5, .expire true, .start, .runSave environment, .runSave {}, .runReschedule true,
    .runReturn]

/-- Every step of the run is careful. -/
theorem delaysSaved_careful : (deferredMachine delaysArchitecture).Admissible Careful delaysStart
    (delaysSaved {}) := by
  have taken : ∀ (system : DeferredSystem delaysArchitecture),
      system.registration.work.canceling = false → system.Takes true := by
    intro system free
    refine .inl ?_
    simp [DelayableWork.accepts, free]
  refine ⟨.inl (taken _ rfl), fun next stepped => ?_⟩
  cases stepped
  refine ⟨fun _ _ _ _ _ => .inl (taken _ rfl), fun next stepped => ?_⟩
  cases stepped
  refine ⟨fun _ _ _ _ _ => .inl (taken _ rfl), fun next stepped => ?_⟩
  cases stepped
  refine ⟨trivial, fun next stepped => ?_⟩
  cases stepped
  refine ⟨fun _ => .inr (.inl rfl), fun next stepped => ?_⟩
  cases stepped
  refine ⟨trivial, fun next stepped => ?_⟩
  cases stepped
  refine ⟨fun _ item rest running failed => ?_, fun next stepped => ?_⟩
  · obtain ⟨same, _⟩ := DeferredRun.saving.inj running
    obtain ⟨rfl, _⟩ := cons.inj same
    exact absurd failed (by decide)
  cases stepped
  refine ⟨fun _ item rest running failed => ?_, fun next stepped => ?_⟩
  · obtain ⟨same, _⟩ := DeferredRun.saving.inj running
    obtain ⟨rfl, _⟩ := cons.inj same
    exact absurd failed (by decide)
  cases stepped
  refine ⟨fun _ _ => .inl (taken _ rfl), fun next stepped => ?_⟩
  cases stepped
  exact ⟨trivial, fun _ _ => trivial⟩

theorem deferred_saves_are_scheduled_second :
    ∃ system, (deferredMachine delaysArchitecture).ReachableWhere Careful delaysStart system ∧
      system.Quiescent ∧ system.active = true ∧
      system.facility.due (.parameter true) = some 10 ∧
      (system.registration.work.queued = true ∨
        ∃ time, system.registration.work.delayed = some time ∧ time ≤ 10) := by
  have reached := (deferredMachine delaysArchitecture).reachableWhere_get _ delaysStart
    (delaysSaved {}) delaysSaved_careful (by decide)
  refine ⟨_, reached, ⟨rfl, by decide⟩, by decide, by decide, ?_⟩
  exact deferred_saves_are_scheduled boot_delays reached ⟨rfl, by decide⟩ (by decide)
    (show Facility.due _ (.parameter true) = some 10 by decide)

/-- The store refuses the record of the first parameter. -/
def refusing : Environment delaysArchitecture where
  store key := if key.stableId = 7 then .error .noSpace else .ok ()

theorem lost_deferred_save :
    ∃ system, (deferredMachine delaysArchitecture).Reachable delaysStart system ∧
      system.Quiescent ∧ system.active = true ∧
      system.facility.due (.parameter true) = some 10 ∧
      system.registration.work.queued = false ∧ system.registration.work.delayed = none :=
  ⟨_, (deferredMachine delaysArchitecture).reachable_get delaysStart (delaysSaved refusing)
    (by decide), ⟨rfl, by decide⟩, by decide, by decide, by decide, by decide⟩

end DeferredSystem

end Solar.Parameters
