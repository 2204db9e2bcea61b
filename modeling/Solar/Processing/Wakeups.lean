/-
This file models how captured records wake their processor, and shows when they are not
left behind. The event facility and the log facility share the design: a capture pushes
its record under the lock and then calls `request_processing`, which sets the flag
`processor_pending` and submits the processor's work item if the flag was clear. Between
two steps of a call any other caller, the processor, `start` or `activate_runtime` may
take one. Of the state only what decides a wake-up is kept.

Whoever sets the flag owes the processor a submission. The debt is not paid in two
cases, both during boot: a record of the event facility that is there as the facility
is activated, with no capture on its way to submit, and a flag that was set by a caller
who then found no scheduling function, which hides the request of whoever finds the flag
set. The event facility also asks for processing inside `start`, where there is no
scheduling function yet: `start` fails unless a capture has just set the flag.
-/

import Solar.Library.Transition
import Solar.Remote.Schema

namespace Solar.Processing

open Option Function

open Remote (Status)

/-! ### State -/

inductive Kind
  | events | log

/-- Who calls `request_processing`. -/
inductive Caller
  | capture (number : Nat)
  | start
  | activation
  deriving DecidableEq

/-- Where a caller is: it has not begun; `start` has found records and will clear the flag; the call
is before the exchange of the flag, has found it clear, has found the scheduling function set, has
found it not set, or was refused by it; the caller has returned. -/
inductive Stage
  | idle
  | resetting
  | marking
  | looking
  | scheduling
  | unscheduled
  | refused (status : Status)
  | returned (status : Status)
  deriving DecidableEq

/-- Where the work queue is with the work item: not running it, before the store that opens
`drain_processor`, at the head of its loop, or with a record that it has popped. -/
inductive Run
  | idle | begun | draining | processing
  deriving DecidableEq

/-- The first step of a run of the work item. The event facility clears the flag there. -/
def Kind.opening : Kind → Run
  | .events => .begun
  | .log => .draining

/-- The state of a facility from `init` on. `lastSubmission` is the outcome of the latest submission
of the work item. -/
structure Processor where
  ingress : Nat := 0
  processorPending : Bool := false
  installed : Bool := false
  queued : Bool := false
  run : Run := .idle
  lastSubmission : Option Status := none
  stage : Caller → Stage := fun _ => .idle

/-- A step. `stored` says whether a capture pushes its record: it does not if it is filtered, or
turned away by a full ring. `submit` has the status of the submission. -/
inductive Label
  | capture (number : Nat) (stored : Bool)
  | start
  | reset
  | exchange (caller : Caller)
  | look (caller : Caller)
  | submit (caller : Caller) (status : Status)
  | clear (caller : Caller)
  | install
  | begin
  | lower
  | pop
  | process

/-! ### Steps -/

namespace Processor

variable (state : Processor)

section

variable (caller : Caller)

def setStage (stage : Stage) : Processor :=
  { state with stage := Function.update state.stage caller stage }

/-- The locked section of a capture. The facility accepts records from `init` on. -/
def capture (number : Nat) (stored : Bool) : Processor :=
  if stored then { state with ingress := state.ingress + 1 }.setStage (.capture number) .marking
  else state.setStage (.capture number) (.returned .ok)

/-- `start` up to the end of its locked section. That of the log facility looks at no ingress. -/
def start : Kind → Processor
  | .events =>
      state.setStage .start (if state.ingress = 0 then .returned .ok else .resetting)
  | .log => state.setStage .start (.returned .ok)

/-- The exchange of the flag in `request_processing`. -/
def exchange : Processor :=
  if state.processorPending then state.setStage caller (.returned .ok)
  else { state with processorPending := true }.setStage caller .looking

/-- The test of the scheduling function in `request_processing`. -/
def look : Processor :=
  state.setStage caller (if state.installed then .scheduling else .unscheduled)

/-- The submission in `request_processing`. One that succeeds leaves the work item queued, also if
it was queued or is being run. -/
def submit (status : Status) : Processor :=
  if status = .ok then
    { state with queued := true, lastSubmission := some .ok }.setStage caller (.returned .ok)
  else { state with lastSubmission := some status }.setStage caller (.refused status)

end

/-- What `request_processing` returns without a scheduling function. -/
def unscheduledStatus : Kind → Status
  | .events => .notReady
  | .log => .ok

/-- `activate_runtime` up to its call of `request_processing`, which is that of the log facility
alone. -/
def install (kind : Kind) : Processor :=
  { state with installed := true }.setStage .activation (match kind with
    | .events => .returned .ok
    | .log => .marking)

/-- The locked section of the loop that drains the ingress. The log facility clears the flag where
it finds the ingress empty, the event facility has cleared it before the loop. -/
def pop (kind : Kind) : Processor :=
  if state.ingress = 0 then
    { state with
      run := .idle
      processorPending :=
        match kind with
        | .events => state.processorPending
        | .log => false }
  else { state with ingress := state.ingress - 1, run := .processing }

/-- One step. The engine activates a facility after `start` has succeeded. -/
def step (kind : Kind) : Label → Option Processor
  | .capture number stored =>
      if state.stage (.capture number) = .idle then some (state.capture number stored) else none
  | .start => if state.stage .start = .idle then some (state.start kind) else none
  | .reset =>
      if state.stage .start = .resetting then
        some ({ state with processorPending := false }.setStage .start .marking)
      else none
  | .exchange caller =>
      if state.stage caller = .marking then some (state.exchange caller) else none
  | .look caller => if state.stage caller = .looking then some (state.look caller) else none
  | .submit caller status =>
      if state.stage caller = .scheduling then some (state.submit caller status) else none
  | .clear caller =>
      match state.stage caller with
      | .unscheduled =>
          some ({ state with processorPending := false }.setStage caller
            (.returned (unscheduledStatus kind)))
      | .refused status =>
          some ({ state with processorPending := false }.setStage caller (.returned status))
      | _ => none
  | .install =>
      if state.stage .start = .returned .ok ∧ state.installed = false then
        some (state.install kind)
      else none
  | .begin =>
      if state.queued ∧ state.run = .idle then
        some { state with queued := false, run := kind.opening }
      else none
  | .lower =>
      if state.run = .begun then some { state with processorPending := false, run := .draining }
      else none
  | .pop => if state.run = .draining then some (state.pop kind) else none
  | .process => if state.run = .processing then some { state with run := .draining } else none

end Processor

/-- The wake-ups of a facility. -/
def machine (kind : Kind) : Transition.Machine Processor Label :=
  ⟨fun state label => state.step kind label⟩

/-! ### Who answers a wake-up -/

/-- The caller is going to submit the work item if there is a scheduling function. -/
def Stage.submits : Stage → Bool
  | .looking | .scheduling => true
  | _ => false

/-- The caller has not finished its request. -/
def Stage.requests : Stage → Bool
  | .resetting | .marking | .looking | .scheduling => true
  | _ => false

/-- The caller has set the flag and not cleared it. -/
def Stage.marks : Stage → Bool
  | .looking | .scheduling | .unscheduled => true
  | _ => false

/-- The flag has not been cleared in this run of the work item. -/
def Run.uncleared : Kind → Run → Bool
  | .events, run => run = .begun
  | .log, run => run ≠ .idle

namespace Processor

variable (state : Processor)

/-- The latest submission failed. -/
def Failed : Prop := ∃ status, state.lastSubmission = some status ∧ status ≠ .ok

/-- The processor is queued or running. -/
def Awake : Prop := state.queued = true ∨ state.run ≠ .idle

/-- The processor is queued, runs, or is going to be submitted. -/
def Attended : Prop := state.Awake ∨ ∃ caller, (state.stage caller).submits = true

/-- `activate_runtime` has returned. -/
def Activated : Prop := ∃ status, state.stage .activation = .returned status

/-- The records of the ingress are on their way. -/
def NotStranded : Prop :=
  state.Activated → 0 < state.ingress →
    (∀ number, (state.stage (.capture number)).requests = false) → ¬ state.Failed → state.Awake

/-- The condition of a step: `start` does not set the flag, the event facility is activated without
records or with a capture on its way, and no flag is found set that nobody is going to answer. -/
def Answerable (kind : Kind) : Label → Prop
  | .exchange .start => state.processorPending = true
  | .exchange _ =>
      state.installed = true → state.processorPending = true →
        (∃ caller, state.stage caller = .unscheduled) → state.Attended
  | .install =>
      kind = .events → state.ingress = 0 ∨ ∃ caller, (state.stage caller).requests = true
  | _ => True

/-! ### The invariant -/

/-- Somebody sees to the records of the ingress. -/
def Waking : Prop :=
  state.Awake ∨ state.Failed ∨ ∃ caller, (state.stage caller).requests = true

/-- Somebody has set the flag and not finished. -/
def Marked (kind : Kind) : Prop :=
  state.queued = true ∨ state.run.uncleared kind = true ∨ state.Failed ∨
    ∃ caller, (state.stage caller).marks = true

/-- What holds in every state. -/
structure Kept (kind : Kind) : Prop where
  start : state.stage .start = .idle ∨ state.stage .start = .resetting ∨
    state.stage .start = .marking ∨ state.stage .start = .returned .ok
  started : state.installed = true → state.stage .start = .returned .ok
  activating : state.stage .activation ≠ .idle → state.installed = true
  marked : state.processorPending = true → state.Marked kind
  waking : state.installed = true → 0 < state.ingress → state.Waking

variable {state} {kind : Kind} {caller : Caller} {stage : Stage}

theorem setStage_self : (state.setStage caller stage).stage caller = stage :=
  update_self _ _ _

theorem setStage_other {other : Caller} (differ : other ≠ caller) :
    (state.setStage caller stage).stage other = state.stage other :=
  update_of_ne differ _ _

theorem exists_setStage {motive : Stage → Prop}
    (keeps : motive (state.stage caller) → motive stage)
    (some : ∃ caller, motive (state.stage caller)) :
    ∃ other, motive ((state.setStage caller stage).stage other) := by
  obtain ⟨other, holding⟩ := some
  by_cases same : other = caller
  · subst same
    exact ⟨other, setStage_self ▸ keeps holding⟩
  · exact ⟨other, (setStage_other same).symm ▸ holding⟩

theorem Waking.setStage (waking : state.Waking)
    (keeps : (state.stage caller).requests = true → stage.requests = true) :
    (state.setStage caller stage).Waking :=
  waking.imp_right fun rest => rest.imp_right
    (exists_setStage (motive := fun stage => stage.requests = true) keeps)

theorem Waking.of_requests (requests : stage.requests = true) :
    (state.setStage caller stage).Waking :=
  .inr (.inr ⟨caller, by rw [setStage_self]; exact requests⟩)

theorem Marked.setStage (marked : state.Marked kind)
    (keeps : (state.stage caller).marks = true → stage.marks = true) :
    (state.setStage caller stage).Marked kind :=
  marked.imp_right fun rest => rest.imp_right fun rest => rest.imp_right
    (exists_setStage (motive := fun stage => stage.marks = true) keeps)

theorem Marked.of_marks (marks : stage.marks = true) :
    (state.setStage caller stage).Marked kind :=
  .inr (.inr (.inr ⟨caller, by rw [setStage_self]; exact marks⟩))

/-- Who finds the flag set leaves it to somebody else. -/
theorem Marked.waking_of_returned (marked : state.Marked kind)
    (marking : state.stage caller = .marking)
    (answered : (∃ caller, state.stage caller = .unscheduled) → state.Attended) (status : Status) :
    (state.setStage caller (.returned status)).Waking := by
  have submitting : (∃ other, (state.stage other).submits = true) →
      (state.setStage caller (.returned status)).Waking := by
    rintro ⟨other, submits⟩
    have differ : other ≠ caller := by
      rintro rfl
      rw [marking] at submits
      cases submits
    refine .inr (.inr ⟨other, ?_⟩)
    rw [setStage_other differ]
    cases at_ : state.stage other <;> rw [at_] at submits <;> first | rfl | cases submits
  rcases marked with queued | uncleared | failed | ⟨other, marks⟩
  · exact .inl (.inl queued)
  · refine .inl (.inr fun idle => ?_)
    change state.run = .idle at idle
    rw [idle] at uncleared
    cases kind <;> cases uncleared
  · exact .inr (.inl failed)
  · cases at_ : state.stage other with
    | looking | scheduling => exact submitting ⟨other, by rw [at_]; rfl⟩
    | unscheduled =>
      rcases answered ⟨other, at_⟩ with awake | submits
      · exact .inl awake
      · exact submitting submits
    | idle | resetting | marking | refused | returned =>
      rw [at_] at marks
      cases marks

theorem Kept.notStranded (kept : state.Kept kind) : state.NotStranded := by
  rintro ⟨status, activated⟩ pending quiet succeeded
  have installed := kept.activating (by rw [activated]; nofun)
  rcases kept.waking installed pending with awake | failed | ⟨caller, requests⟩
  · exact awake
  · exact absurd failed succeeded
  · cases caller with
    | capture number => exact absurd requests (by rw [quiet number]; nofun)
    | start => exact absurd requests (by rw [kept.started installed]; nofun)
    | activation => exact absurd requests (by rw [activated]; nofun)

theorem Kept.start_ok (kept : state.Kept kind) {status : Status}
    (returned : state.stage .start = .returned status) : status = .ok := by
  rcases kept.start with other | other | other | other <;> cases returned.symm.trans other
  rfl

theorem kept_initial : ({} : Processor).Kept kind :=
  ⟨.inl rfl, nofun, fun moved => absurd rfl moved, nofun, nofun⟩

/-! ### Steps -/

variable {next : Processor}

section

variable (kept : state.Kept kind)

include kept

theorem Kept.advance (differ : caller ≠ .start)
    (begun : caller = .activation → state.stage .activation ≠ .idle)
    (moved : next.stage = update state.stage caller stage)
    (installed : next.installed = state.installed)
    (marked : next.processorPending = true → next.Marked kind)
    (waking : next.installed = true → 0 < next.ingress → next.Waking) : next.Kept kind := by
  have same : next.stage .start = state.stage .start := by
    rw [moved]
    exact update_of_ne differ.symm _ _
  refine ⟨same ▸ kept.start, fun ready => same.trans (kept.started (installed ▸ ready)),
    fun active => ?_, marked, waking⟩
  rw [installed]
  by_cases activation : caller = .activation
  · exact kept.activating (begun activation)
  · rw [moved, update_of_ne (Ne.symm activation)] at active
    exact kept.activating active

theorem Kept.of_stage (same : next.stage = state.stage)
    (installed : next.installed = state.installed)
    (marked : next.processorPending = true → next.Marked kind)
    (waking : next.installed = true → 0 < next.ingress → next.Waking) : next.Kept kind :=
  ⟨same ▸ kept.start, fun ready => same ▸ kept.started (installed ▸ ready),
    fun active => installed ▸ kept.activating (same ▸ active), marked, waking⟩

theorem Kept.capture {number : Nat} (idle : state.stage (.capture number) = .idle) (stored : Bool) :
    (state.capture number stored).Kept kind := by
  have unmarked (stage : Stage) :
      (state.stage (.capture number)).marks = true → stage.marks = true := by
    rw [idle]
    nofun
  cases stored with
  | true =>
    exact kept.advance (by nofun) (by nofun) rfl rfl
      (fun pending => (kept.marked pending).setStage (unmarked _))
      fun _ _ => Waking.of_requests rfl
  | false =>
    refine kept.advance (by nofun) (by nofun) rfl rfl
      (fun pending => (kept.marked pending).setStage (unmarked _))
      fun installed pending => (kept.waking installed pending).setStage ?_
    rw [idle]
    nofun

section

variable (differ : caller ≠ .start)

include differ

theorem Kept.exchange (marking : state.stage caller = .marking)
    (answered : state.installed = true → state.processorPending = true →
      (∃ caller, state.stage caller = .unscheduled) → state.Attended) :
    (state.exchange caller).Kept kind := by
  have begun : caller = .activation → state.stage .activation ≠ .idle := by
    rintro rfl
    rw [marking]
    nofun
  unfold Processor.exchange
  split
  · rename_i pending
    refine kept.advance differ begun rfl rfl (fun _ => (kept.marked pending).setStage ?_)
      fun installed _ =>
        (kept.marked pending).waking_of_returned marking (answered installed pending) _
    rw [marking]
    nofun
  · exact kept.advance differ begun rfl rfl (fun _ => Marked.of_marks rfl)
      fun _ _ => Waking.of_requests rfl

theorem Kept.look (looking : state.stage caller = .looking) : (state.look caller).Kept kind := by
  have begun : caller = .activation → state.stage .activation ≠ .idle := by
    rintro rfl
    rw [looking]
    nofun
  refine kept.advance differ begun rfl rfl (fun _ => Marked.of_marks ?_) fun installed _ => ?_
  · split <;> rfl
  · refine Waking.of_requests ?_
    rw [if_pos (show state.installed = true from installed)]
    rfl

theorem Kept.submit (scheduling : state.stage caller = .scheduling) (status : Status) :
    (state.submit caller status).Kept kind := by
  have begun : caller = .activation → state.stage .activation ≠ .idle := by
    rintro rfl
    rw [scheduling]
    nofun
  unfold Processor.submit
  split
  · exact kept.advance differ begun rfl rfl (fun _ => .inl rfl) fun _ _ => .inl (.inl rfl)
  · rename_i failed
    exact kept.advance differ begun rfl rfl (fun _ => .inr (.inr (.inl ⟨status, rfl, failed⟩)))
      fun _ _ => .inr (.inl ⟨status, rfl, failed⟩)

theorem Kept.clear (begun : state.stage caller ≠ .idle)
    (quiet : (state.stage caller).requests = false) (status : Status) :
    ({ state with processorPending := false }.setStage caller (.returned status)).Kept kind := by
  refine kept.advance differ (by rintro rfl; exact begun) rfl rfl nofun fun installed pending => ?_
  have cleared : ({ state with processorPending := false } : Processor).Waking :=
    kept.waking installed pending
  refine cleared.setStage ?_
  rw [quiet]
  nofun

end

theorem Kept.advanceStart (before : state.stage .start ≠ .returned .ok)
    (moved : next.stage = update state.stage .start stage)
    (installed : next.installed = state.installed)
    (fits : stage = .resetting ∨ stage = .marking ∨ stage = .returned .ok)
    (marked : next.processorPending = true → next.Marked kind) : next.Kept kind := by
  have absent : next.installed ≠ true := fun ready => before (kept.started (installed ▸ ready))
  have at_ : next.stage .start = stage := by
    rw [moved]
    exact update_self _ _ _
  refine ⟨.inr (at_ ▸ fits), fun ready => absurd ready absent, fun active => ?_, marked,
    fun ready => absurd ready absent⟩
  rw [installed]
  refine kept.activating fun idle => active ?_
  rw [moved]
  exact (update_of_ne (by nofun) _ _).trans idle

theorem Kept.startSection (idle : state.stage .start = .idle) : (state.start kind).Kept kind := by
  have before : state.stage .start ≠ .returned .ok := by
    rw [idle]
    nofun
  have unmarked (stage : Stage) (pending : state.processorPending = true) :
      (state.setStage .start stage).Marked kind := by
    refine (kept.marked pending).setStage ?_
    rw [idle]
    nofun
  cases kind with
  | events =>
    refine kept.advanceStart before rfl rfl ?_ (unmarked _)
    split
    · exact .inr (.inr rfl)
    · exact .inl rfl
  | log => exact kept.advanceStart before rfl rfl (.inr (.inr rfl)) (unmarked _)

theorem Kept.exchangeStart (marking : state.stage .start = .marking)
    (pending : state.processorPending = true) : (state.exchange .start).Kept kind := by
  rw [Processor.exchange, if_pos pending]
  refine kept.advanceStart (by rw [marking]; nofun) rfl rfl (.inr (.inr rfl))
    fun _ => (kept.marked pending).setStage ?_
  rw [marking]
  nofun

theorem Kept.install (started : state.stage .start = .returned .ok)
    (absent : state.installed = false)
    (coming : kind = .events → state.ingress = 0 ∨ ∃ caller, (state.stage caller).requests = true) :
    (state.install kind).Kept kind := by
  have idle : state.stage .activation = .idle := by
    by_contra active
    cases absent.symm.trans (kept.activating active)
  have same : (state.install kind).stage .start = state.stage .start := by
    have other : Caller.start ≠ .activation := nofun
    exact setStage_other other
  refine ⟨same ▸ kept.start, fun _ => same.trans started, fun _ => rfl, fun pending => ?_,
    fun _ _ => ?_⟩
  · have marked : ({ state with installed := true } : Processor).Marked kind := kept.marked pending
    refine marked.setStage ?_
    rw [idle]
    nofun
  · cases kind with
    | events =>
      rcases coming rfl with empty | requesting
      · rename_i pending
        exact absurd empty (Nat.ne_of_gt pending)
      · have waking : ({ state with installed := true } : Processor).Waking :=
          .inr (.inr requesting)
        refine waking.setStage ?_
        rw [idle]
        nofun
    | log => exact Waking.of_requests rfl

theorem Kept.pop (draining : state.run = .draining) : (state.pop kind).Kept kind := by
  have elsewhere (run : Run) (marked : state.Marked .events) :
      ({ state with run } : Processor).Marked .events := by
    refine marked.imp_right fun rest => ?_
    rcases rest with uncleared | rest
    · rw [draining] at uncleared
      cases uncleared
    · exact .inr rest
  unfold Processor.pop
  split
  · rename_i empty
    refine kept.of_stage rfl rfl ?_ fun _ pending => absurd empty (Nat.ne_of_gt pending)
    cases kind with
    | events => exact fun pending => elsewhere _ (kept.marked pending)
    | log => nofun
  · refine kept.of_stage rfl rfl ?_ fun _ _ => .inl (.inr (by nofun))
    cases kind with
    | events => exact fun pending => elsewhere .processing (kept.marked pending)
    | log => exact fun _ => .inr (.inl rfl)

theorem Kept.processed (processing : state.run = .processing) :
    ({ state with run := .draining } : Processor).Kept kind := by
  refine kept.of_stage rfl rfl ?_ fun _ _ => .inl (.inr (by nofun))
  cases kind with
  | events =>
    refine fun pending => (kept.marked pending).imp_right fun rest => ?_
    rcases rest with uncleared | rest
    · rw [processing] at uncleared
      cases uncleared
    · exact .inr rest
  | log => exact fun _ => .inr (.inl rfl)

theorem Kept.begin : ({ state with queued := false, run := kind.opening } : Processor).Kept kind :=
  kept.of_stage rfl rfl (fun _ => .inr (.inl (by cases kind <;> rfl)))
    fun _ _ => .inl (.inr (by cases kind <;> nofun))

theorem Kept.ne_start
    (moving : (state.stage caller).marks = true ∨ ∃ status, state.stage caller = .refused status) :
    caller ≠ .start := by
  rintro rfl
  rcases kept.start with at_ | at_ | at_ | at_ <;> rw [at_] at moving <;>
    rcases moving with marks | ⟨_, same⟩
  all_goals first | cases marks | cases same

theorem Kept.step {label : Label} (answerable : state.Answerable kind label)
    (stepped : state.step kind label = some next) : next.Kept kind := by
  cases label with
  | capture number stored =>
    obtain ⟨idle, ⟨⟩⟩ := ite_none_right_eq_some.mp stepped
    exact kept.capture idle stored
  | start =>
    obtain ⟨idle, ⟨⟩⟩ := ite_none_right_eq_some.mp stepped
    exact kept.startSection idle
  | reset =>
    obtain ⟨resetting, ⟨⟩⟩ := ite_none_right_eq_some.mp stepped
    exact kept.advanceStart (by rw [resetting]; nofun) rfl rfl (.inr (.inl rfl)) nofun
  | exchange caller =>
    obtain ⟨marking, ⟨⟩⟩ := ite_none_right_eq_some.mp stepped
    cases caller with
    | start => exact kept.exchangeStart marking answerable
    | _ => exact kept.exchange (by nofun) marking answerable
  | look caller =>
    obtain ⟨looking, ⟨⟩⟩ := ite_none_right_eq_some.mp stepped
    exact kept.look (kept.ne_start (.inl (by rw [looking]; rfl))) looking
  | submit caller status =>
    obtain ⟨scheduling, ⟨⟩⟩ := ite_none_right_eq_some.mp stepped
    exact kept.submit (kept.ne_start (.inl (by rw [scheduling]; rfl))) scheduling status
  | clear caller =>
    simp only [Processor.step] at stepped
    cases at_ : state.stage caller with rw [at_] at stepped
    | unscheduled =>
      cases stepped
      exact kept.clear (kept.ne_start (.inl (by rw [at_]; rfl))) (by rw [at_]; nofun)
        (by rw [at_]; rfl) _
    | refused status =>
      cases stepped
      exact kept.clear (kept.ne_start (.inr ⟨status, at_⟩)) (by rw [at_]; nofun)
        (by rw [at_]; rfl) _
    | idle | resetting | marking | looking | scheduling | returned => cases stepped
  | install =>
    obtain ⟨⟨started, absent⟩, ⟨⟩⟩ := ite_none_right_eq_some.mp stepped
    exact kept.install started absent answerable
  | begin =>
    obtain ⟨_, ⟨⟩⟩ := ite_none_right_eq_some.mp stepped
    exact kept.begin
  | lower =>
    obtain ⟨_, ⟨⟩⟩ := ite_none_right_eq_some.mp stepped
    exact kept.of_stage rfl rfl nofun fun _ _ => .inl (.inr (by nofun))
  | pop =>
    obtain ⟨draining, ⟨⟩⟩ := ite_none_right_eq_some.mp stepped
    exact kept.pop draining
  | process =>
    obtain ⟨processing, ⟨⟩⟩ := ite_none_right_eq_some.mp stepped
    exact kept.processed processing

end

end Processor

/-! ### Records are not left behind -/

/-- In every run of captures, `start`, `activate_runtime` and the processor whose steps are
answerable, `start` does not fail and no record is stranded. -/
theorem captures_are_answered (kind : Kind) {state : Processor}
    (reached : (machine kind).ReachableWhere (Processor.Answerable · kind) {} state) :
    (∀ status, state.stage .start = .returned status → status = .ok) ∧ state.NotStranded := by
  have kept : state.Kept kind :=
    reached.invariant (Processor.Kept · kind) Processor.kept_initial
      fun _ _ _ kept answerable stepped => kept.step answerable stepped
  exact ⟨fun _ => kept.start_ok, kept.notStranded⟩

/-- A record is captured while the event facility is activated, and another one while the processor
drains the first. -/
def wokenLabels : List Label :=
  [.start, .capture 0 true, .install, .exchange (.capture 0), .look (.capture 0),
    .submit (.capture 0) .ok, .begin, .lower, .pop, .capture 1 true, .exchange (.capture 1),
    .look (.capture 1), .submit (.capture 1) .ok]

theorem captures_are_answered_woken :
    ∃ state, (machine .events).run {} wokenLabels = some state ∧ 0 < state.ingress ∧
      state.NotStranded := by
  refine ⟨_, rfl, Nat.one_pos, (captures_are_answered .events ⟨wokenLabels, ?_, rfl⟩).2⟩
  refine .step trivial rfl <| .step trivial rfl <| .step (fun _ => .inr ⟨.capture 0, rfl⟩) rfl <|
    .step nofun rfl <| .step trivial rfl <| .step trivial rfl <| .step trivial rfl <|
    .step trivial rfl <| .step trivial rfl <| .step trivial rfl <| .step nofun rfl <|
    .step trivial rfl <| .step trivial rfl trivial

/-- A record is captured before `start`. -/
def earlyLabels : List Label :=
  [.capture 0 true, .exchange (.capture 0), .look (.capture 0), .clear (.capture 0), .start, .reset,
    .exchange .start, .look .start, .clear .start]

/-- A record of the event facility is captured between `start` and `activate_runtime`. -/
def betweenLabels : List Label :=
  [.start, .capture 0 true, .exchange (.capture 0), .look (.capture 0), .clear (.capture 0),
    .install]

/-- `activate_runtime` of the log facility finds the flag of a capture that has found no scheduling
function. -/
def hiddenLabels : List Label :=
  [.start, .capture 0 true, .exchange (.capture 0), .look (.capture 0), .install,
    .exchange .activation, .clear (.capture 0)]

theorem captures_are_stranded :
    (∃ state, (machine .events).Reachable {} state ∧ state.stage .start = .returned .notReady) ∧
      (∃ state, (machine .events).Reachable {} state ∧ ¬ state.NotStranded) ∧
      ∃ state, (machine .log).Reachable {} state ∧ ¬ state.NotStranded := by
  refine ⟨⟨_, ⟨earlyLabels, rfl⟩, rfl⟩, ⟨_, ⟨betweenLabels, rfl⟩, fun awake => ?_⟩,
    ⟨_, ⟨hiddenLabels, rfl⟩, fun awake => ?_⟩⟩
  all_goals
    rcases awake ⟨.ok, rfl⟩ Nat.one_pos (fun number => by cases number <;> rfl) (by rintro ⟨_, ⟨⟩, _⟩)
      with queued | running
    · cases queued
    · exact running rfl

end Solar.Processing
