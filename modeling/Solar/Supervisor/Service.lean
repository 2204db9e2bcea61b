/-
This file models the supervisor's cycle: health is refreshed, the rules of the
policy are evaluated in their order, those about failed recoveries last, and the
watchdog is fed when no rule withheld it and the system's health allows it.

A rule that is triggered acts once, or again after a cooldown when one of its
actions is a recovery. It runs through all its actions, but a cycle has a budget
of responses, and an action that finds it spent is passed over. A panic does not
return, so a cycle with one never ends.

What the health facility, the hooks of the components and the watchdog provider
answer is the input of a cycle. Each executed action is also noted with its rule,
from the moment the rule becomes active: the notes are for the theorems, no
function reads them.
-/

import Solar.Library.Transition
import Solar.Remote.Schema

namespace Solar.Supervisor

open Remote (Status)

/-! ### Policies -/

inductive Action (Component SafeState : Type)
  | observe | warn | latch
  | tryRecover (target : Component)
  | enterSafeState (target : SafeState)
  | requestStop (target : Component)
  | requestSystemStop | requestReboot | stopFeedingWatchdog | panic
  deriving DecidableEq

inductive Trigger
  | fault | degraded | stall | recoveryFailure
  deriving DecidableEq

/-- A rule of the policy. -/
structure Rule (Component SafeState : Type) where
  trigger : Trigger
  subject : Component
  responses : List (Action Component SafeState)
  nonempty : responses ≠ []
  deriving DecidableEq

/-- Some response of the rule is a recovery. -/
def Rule.retries {Component SafeState : Type} (rule : Rule Component SafeState) : Bool :=
  rule.responses.any fun
    | .tryRecover _ => true
    | _ => false

/-- The supervisor's architecture and configuration. -/
structure Policy (Component SafeState : Type) where
  rules : List (Rule Component SafeState)
  watchdogConfigured : Bool
  maxResponsesPerCycle : Nat
  recoveryAttempts : Nat
  recoveryCooldown : Nat

/-- The rules in the order a cycle evaluates them. -/
def Policy.ordered {Component SafeState : Type} (policy : Policy Component SafeState) :
    List (Rule Component SafeState) :=
  policy.rules.filter (fun rule => rule.trigger ≠ .recoveryFailure) ++
    policy.rules.filter fun rule => rule.trigger = .recoveryFailure

/-! ### Health -/

inductive Condition
  | unknown | nominal | degraded | faulted
  deriving DecidableEq

inductive Liveness
  | unknown | live | late | stalled | exited
  deriving DecidableEq

inductive Safety
  | unknown | acceptable | atRisk | unsafeCondition
  deriving DecidableEq

inductive Freshness
  | unknown | current | stale
  deriving DecidableEq

/-- What a rule reads of its subject's health. -/
structure SubjectHealth where
  condition : Condition
  liveness : Liveness
  deriving DecidableEq

/-- What the watchdog gate reads of the system's health. -/
structure SystemHealth where
  condition : Condition
  safety : Safety
  freshness : Freshness

/-- `triggered`. -/
def triggered (trigger : Trigger) (record : SubjectHealth) (recoveryFailed : Bool) : Bool :=
  match trigger with
  | .fault => record.condition = .faulted
  | .degraded => record.condition = .degraded
  | .stall => record.liveness = .stalled
  | .recoveryFailure => recoveryFailed

/-- The health of the system lets the watchdog be fed. -/
def permits (system : Option SystemHealth) : Bool :=
  system.any fun record =>
    record.condition ≠ .faulted ∧ record.safety ≠ .unsafeCondition ∧ record.freshness ≠ .stale

/-! ### The state -/

/-- `RuleState`, with what the rule has done since it became active. -/
structure RuleState (Component SafeState : Type) where
  nextAttempt : Nat := 0
  attempts : Nat := 0
  active : Bool := false
  performed : List (Action Component SafeState) := []

structure WatchdogRecord where
  feedPermitted : Bool := false
  deliberatelyWithheld : Bool := false
  lastFeedAt : Nat := 0
  feeds : Nat := 0
  withheld : Nat := 0
  failures : Nat := 0
  lastStatus : Status := .ok

inductive ServiceState
  | stopped | starting | running | stopping | faulted

/-- `Storage`. The state of a rule is found by the rule itself. -/
structure Storage (Component SafeState : Type) where
  rule : Rule Component SafeState → RuleState Component SafeState := fun _ => {}
  watchdog : WatchdogRecord := {}
  state : ServiceState := .stopped
  cycles : Nat := 0
  refreshFailures : Nat := 0
  deferredResponses : Nat := 0
  cycleComplete : Bool := false
  stopRequested : Bool := false
  rebootRequested : Bool := false
  panicRequested : Bool := false

/-- What a cycle keeps while it evaluates the rules. -/
structure Evaluation (Component SafeState : Type) where
  storage : Storage Component SafeState
  responses : Nat := 0
  recoveryFailed : Component → Bool := fun _ => false
  panicked : Bool := false

/-- What a cycle is told: the time, the answers of health (each rule asks for the record of its
subject itself), the answers of the hooks by the number of the response, and the provider's answer to
a feed. -/
structure CycleInput (Component SafeState : Type) where
  now : Nat
  refreshed : Except Status Unit := .ok ()
  subjects : Rule Component SafeState → Option SubjectHealth
  system : Option SystemHealth
  answers : Nat → Except Status Unit := fun _ => .ok ()
  feed : Except Status Unit := .ok ()

/-! ### Actions -/

section

variable {Component SafeState : Type}

inductive Outcome
  | succeeded | failed | requested

structure ActionResult where
  outcome : Outcome := .succeeded
  status : Status := .ok
  recoveryFailed : Bool := false
  panic : Bool := false

/-- `execute_action`. -/
def executeAction (answer : Except Status Unit) (storage : Storage Component SafeState) :
    Action Component SafeState → Storage Component SafeState × ActionResult
  | .observe | .warn | .latch => (storage, {})
  | .tryRecover _ =>
      (storage, match answer with
        | .ok _ => {}
        | .error status => { outcome := .failed, status, recoveryFailed := true })
  | .enterSafeState _ =>
      (storage, match answer with
        | .ok _ => {}
        | .error status => { outcome := .failed, status })
  | .requestStop _ =>
      (storage, match answer with
        | .ok _ => { outcome := .requested }
        | .error status =>
            { outcome := if status = .already then .requested else .failed, status })
  | .requestSystemStop => ({ storage with stopRequested := true }, { outcome := .requested })
  | .requestReboot => ({ storage with rebootRequested := true }, { outcome := .requested })
  | .stopFeedingWatchdog =>
      ({ storage with
        watchdog := { storage.watchdog with
          deliberatelyWithheld := true
          feedPermitted := false } }, {})
  | .panic =>
      ({ storage with panicRequested := true }, { outcome := .requested, panic := true })

variable [DecidableEq Component] [DecidableEq SafeState]

/-- Note that a rule has performed an action. -/
def Storage.note (storage : Storage Component SafeState) (rule : Rule Component SafeState)
    (action : Action Component SafeState) : Storage Component SafeState :=
  let state := storage.rule rule
  { storage with
    rule := Function.update storage.rule rule
      { state with performed := state.performed ++ [action] } }

/-- The loop of `evaluate_rule` over the responses. -/
def respond (policy : Policy Component SafeState) (answers : Nat → Except Status Unit)
    (rule : Rule Component SafeState) :
    List (Action Component SafeState) → Evaluation Component SafeState →
      Evaluation Component SafeState
  | [], evaluation => evaluation
  | action :: rest, evaluation =>
      if evaluation.panicked then evaluation
      else if policy.maxResponsesPerCycle ≤ evaluation.responses then
        respond policy answers rule rest { evaluation with
          storage := { evaluation.storage with
            deferredResponses := evaluation.storage.deferredResponses + 1 } }
      else
        let executed := executeAction (answers evaluation.responses) evaluation.storage action
        respond policy answers rule rest {
          storage := executed.1.note rule action
          responses := evaluation.responses + 1
          recoveryFailed :=
            if executed.2.recoveryFailed then
              Function.update evaluation.recoveryFailed rule.subject true
            else evaluation.recoveryFailed
          panicked := executed.2.panic }

section

variable (policy : Policy Component SafeState)

/-- The rule has acted and waits, or does not act again. -/
def waits (now : Nat) (rule : Rule Component SafeState) (state : RuleState Component SafeState) :
    Bool :=
  state.active &&
    (!rule.retries || policy.recoveryAttempts ≤ state.attempts || now < state.nextAttempt)

section

variable (input : CycleInput Component SafeState)

/-- `evaluate_rule`. -/
def evaluateRule (evaluation : Evaluation Component SafeState) (rule : Rule Component SafeState) :
    Evaluation Component SafeState :=
  if evaluation.panicked then evaluation
  else
    match input.subjects rule with
    | none => evaluation
    | some record =>
        let state := evaluation.storage.rule rule
        if triggered rule.trigger record (evaluation.recoveryFailed rule.subject) = false then
          { evaluation with storage := { evaluation.storage with
            rule := Function.update evaluation.storage.rule rule {} } }
        else if waits policy input.now rule state then evaluation
        else
          respond policy input.answers rule rule.responses { evaluation with
            storage := { evaluation.storage with
              rule := Function.update evaluation.storage.rule rule {
                active := true
                attempts := state.attempts + 1
                nextAttempt := input.now + policy.recoveryCooldown
                performed := if state.active then state.performed else [] } } }

/-- All rules, one after another. -/
def evaluateRules (rules : List (Rule Component SafeState))
    (evaluation : Evaluation Component SafeState) : Evaluation Component SafeState :=
  rules.foldl (evaluateRule policy input) evaluation

end

end

/-! ### Cycles -/

/-- The storage as a cycle begins. -/
def Storage.begin (storage : Storage Component SafeState) : Storage Component SafeState :=
  { storage with
    cycleComplete := false
    watchdog := { storage.watchdog with feedPermitted := false, deliberatelyWithheld := false } }

/-- How a cycle ended: health could not be refreshed, a panic did not return, or it was completed,
with whether the provider was asked to feed. -/
inductive CycleEnd
  | refreshFailed (status : Status)
  | panicked
  | completed (fed : Bool)
  deriving DecidableEq

/-- The last part of a cycle: the watchdog, and the end. -/
def finishCycle (policy : Policy Component SafeState) (input : CycleInput Component SafeState)
    (storage : Storage Component SafeState) : Storage Component SafeState × CycleEnd :=
  let permitted := !storage.watchdog.deliberatelyWithheld && permits input.system
  let watchdog := { storage.watchdog with feedPermitted := permitted }
  let ended (watchdog : WatchdogRecord) : Storage Component SafeState :=
    { storage with
      watchdog
      state := .running
      cycles := storage.cycles + 1
      cycleComplete := true }
  if policy.watchdogConfigured then
    if permitted then
      match input.feed with
      | .ok _ =>
          (ended { watchdog with
            feeds := watchdog.feeds + 1, lastFeedAt := input.now, lastStatus := .ok },
            .completed true)
      | .error status =>
          (ended { watchdog with failures := watchdog.failures + 1, lastStatus := status },
            .completed true)
    else (ended { watchdog with withheld := watchdog.withheld + 1 }, .completed false)
  else (ended watchdog, .completed false)

/-- `cycle`. -/
def cycle (policy : Policy Component SafeState) (input : CycleInput Component SafeState)
    (storage : Storage Component SafeState) : Storage Component SafeState × CycleEnd :=
  match input.refreshed with
  | .error status =>
      ({ storage.begin with
        refreshFailures := storage.refreshFailures + 1
        state := .faulted }, .refreshFailed status)
  | .ok _ =>
      let evaluated := evaluateRules policy input policy.ordered { storage := storage.begin }
      if evaluated.panicked then (evaluated.storage, .panicked)
      else finishCycle policy input evaluated.storage

/-- The supervisor after a cycle. -/
structure Supervised (Component SafeState : Type) where
  storage : Storage Component SafeState := {}
  last : Option CycleEnd := none

/-- The cycles of the service, one after another. There is none after a panic. -/
def serviceMachine (policy : Policy Component SafeState) :
    Transition.Machine (Supervised Component SafeState) (CycleInput Component SafeState) where
  step supervised input :=
    if supervised.last = some .panicked then none
    else
      let ended := cycle policy input supervised.storage
      some ⟨ended.1, some ended.2⟩

end

end Solar.Supervisor
