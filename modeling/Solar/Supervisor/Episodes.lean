/-
This file proves how often a rule acts while its trigger holds. The evaluations of a
rule that find its trigger true, one after another, are an episode; one that finds it
false ends it. A rule with a recovery acts in a bounded number of cycles of an
episode, a cooldown apart, and any other rule in its first cycle only. A rule about
failed recoveries is triggered by those of its subject that failed earlier in the
cycle.
-/

import Solar.Supervisor.Responses

namespace Solar.Supervisor

open List Function

variable {Component SafeState : Type}

theorem recoveryFailed_executeAction (answer : Except Remote.Status Unit)
    (storage : Storage Component SafeState) (action : Action Component SafeState) :
    (executeAction answer storage action).2.recoveryFailed = true ↔
      ∃ target status, action = .tryRecover target ∧ answer = .error status := by
  cases action <;> cases answer <;> simp [executeAction]

variable {policy : Policy Component SafeState} {rule : Rule Component SafeState}

/-- The state of a rule counts the turns of its episode. -/
structure Counted (policy : Policy Component SafeState) (rule : Rule Component SafeState)
    (state : RuleState Component SafeState) (episode : Option (List Nat)) : Prop where
  active : state.active = episode.isSome
  idle : state.active = false → state.attempts = 0
  length : (episode.getD []).length ≤ state.attempts
  spaced : (episode.getD []).Pairwise (· + policy.recoveryCooldown ≤ ·)
  next : ∀ time ∈ episode.getD [], time + policy.recoveryCooldown ≤ state.nextAttempt
  attempts : state.attempts ≤ if rule.retries then policy.recoveryAttempts else 1

theorem Counted.room {state : RuleState Component SafeState} {episode : Option (List Nat)}
    {now : Nat} (possible : 1 ≤ policy.recoveryAttempts)
    (counted : Counted policy rule state episode) (turn : waits policy now rule state = false) :
    (∀ time ∈ episode.getD [], time + policy.recoveryCooldown ≤ now) ∧
      state.attempts + 1 ≤ if rule.retries then policy.recoveryAttempts else 1 := by
  cases active : state.active with
  | false =>
    have none : episode = none := by simpa [active] using counted.active.symm
    rw [counted.idle active, none]
    refine ⟨nofun, ?_⟩
    split_ifs
    · exact possible
    · exact Nat.le_refl _
  | true =>
    rw [waits, active, Bool.true_and] at turn
    simp only [Bool.or_eq_false_iff, Bool.not_eq_false', decide_eq_false_iff_not, Nat.not_le,
      Nat.not_lt] at turn
    obtain ⟨⟨retries, left⟩, passed⟩ := turn
    rw [if_pos retries]
    exact ⟨fun time listed => Nat.le_trans (counted.next time listed) passed, left⟩

theorem rule_finishCycle (input : CycleInput Component SafeState)
    (storage : Storage Component SafeState) :
    (finishCycle policy input storage).1.rule = storage.rule := by
  unfold finishCycle
  dsimp only
  split_ifs
  · split <;> rfl
  · rfl
  · rfl

variable [DecidableEq Component] [DecidableEq SafeState] {input : CycleInput Component SafeState}
  {evaluation : Evaluation Component SafeState}

/-! ### The loop over the responses -/

/-- What the loop does with one response: a panic has ended it, the response is passed over, or its
action is executed. -/
inductive Passed (policy : Policy Component SafeState) (answers : Nat → Except Remote.Status Unit)
    (rule : Rule Component SafeState) (action : Action Component SafeState)
    (rest : List (Action Component SafeState)) (evaluation : Evaluation Component SafeState) : Prop
  | ended (panicked : evaluation.panicked = true)
      (same : respond policy answers rule (action :: rest) evaluation = evaluation)
  | skipped (next : Evaluation Component SafeState)
      (same : respond policy answers rule (action :: rest) evaluation =
        respond policy answers rule rest next)
      (spent : policy.maxResponsesPerCycle ≤ evaluation.responses)
      (responses : next.responses = evaluation.responses)
      (rules : next.storage.rule = evaluation.storage.rule)
      (failed : next.recoveryFailed = evaluation.recoveryFailed)
  | executed (next : Evaluation Component SafeState)
      (same : respond policy answers rule (action :: rest) evaluation =
        respond policy answers rule rest next)
      (calm : evaluation.panicked = false)
      (within : evaluation.responses < policy.maxResponsesPerCycle)
      (responses : next.responses = evaluation.responses + 1)
      (rules : next.storage.rule = Function.update evaluation.storage.rule rule
        { evaluation.storage.rule rule with
          performed := (evaluation.storage.rule rule).performed ++ [action] })
      (failed : ∀ subject, next.recoveryFailed subject = true ↔
        evaluation.recoveryFailed subject = true ∨ rule.subject = subject ∧
          ∃ target status, action = .tryRecover target ∧
            answers evaluation.responses = .error status)

section Responses

variable (policy rule) (answers : Nat → Except Remote.Status Unit)
  (actions : List (Action Component SafeState)) (evaluation : Evaluation Component SafeState)

theorem passed (action : Action Component SafeState) (rest : List (Action Component SafeState)) :
    Passed policy answers rule action rest evaluation := by
  by_cases panicked : evaluation.panicked = true
  · exact .ended panicked (by rw [respond, if_pos panicked])
  by_cases spent : policy.maxResponsesPerCycle ≤ evaluation.responses
  · refine .skipped { evaluation with storage := { evaluation.storage with
      deferredResponses := evaluation.storage.deferredResponses + 1 } } ?_ spent rfl rfl rfl
    rw [respond, if_neg panicked, if_pos spent]
  · refine .executed _ (by rw [respond, if_neg panicked, if_neg spent])
      (Bool.eq_false_iff.mpr panicked) (Nat.not_le.mp spent) rfl ?_ fun subject => ?_
    · rw [Storage.note, rule_executeAction]
    · rw [← recoveryFailed_executeAction _ evaluation.storage action]
      split_ifs with failed
      · by_cases own : rule.subject = subject
        · simp [← own, failed]
        · simp [own, update_of_ne (Ne.symm own)]
      · simp [failed]

theorem rule_respond : ∃ performed, (respond policy answers rule actions evaluation).storage.rule =
    Function.update evaluation.storage.rule rule
      { evaluation.storage.rule rule with performed } := by
  induction actions generalizing evaluation with
  | nil => exact ⟨(evaluation.storage.rule rule).performed, (update_eq_self ..).symm⟩
  | cons action rest ih =>
    cases passed policy rule answers evaluation action rest with
    | ended panicked same =>
      rw [same]
      exact ⟨(evaluation.storage.rule rule).performed, (update_eq_self ..).symm⟩
    | skipped next same spent responses rules failed =>
      rw [same, ← rules]
      exact ih next
    | executed next same calm within responses rules failed =>
      obtain ⟨performed, later⟩ := ih next
      refine ⟨performed, ?_⟩
      rw [same, later, rules, update_self, update_idem]

theorem responses_respond : evaluation.responses ≤
      (respond policy answers rule actions evaluation).responses ∧
    (policy.maxResponsesPerCycle ≤ evaluation.responses →
      (respond policy answers rule actions evaluation).responses = evaluation.responses) := by
  induction actions generalizing evaluation with
  | nil => exact ⟨Nat.le_refl _, fun _ => rfl⟩
  | cons action rest ih =>
    cases passed policy rule answers evaluation action rest with
    | ended panicked same => exact ⟨Nat.le_of_eq (by rw [same]), fun _ => by rw [same]⟩
    | skipped next same spent responses rules failed =>
      rw [same, ← responses]
      exact ih next
    | executed next same calm within responses rules failed =>
      rw [same]
      refine ⟨?_, fun beyond => absurd beyond (Nat.not_le.mpr within)⟩
      have later := (ih next).1
      omega

/-- A recovery is noted as failed if it was, at its place among the responses of the cycle. -/
theorem recoveryFailed_respond (subject : Component) :
    (respond policy answers rule actions evaluation).recoveryFailed subject = true ↔
      evaluation.recoveryFailed subject = true ∨ rule.subject = subject ∧
        ∃ position target status, actions[position]? = some (.tryRecover target) ∧
          evaluation.responses + position <
            (respond policy answers rule actions evaluation).responses ∧
          answers (evaluation.responses + position) = .error status := by
  induction actions generalizing evaluation with
  | nil => exact ⟨.inl, fun failed => failed.resolve_right (by simp)⟩
  | cons action rest ih =>
    cases passed policy rule answers evaluation action rest with
    | ended panicked same =>
      rw [same]
      refine ⟨.inl, fun failed => failed.resolve_right ?_⟩
      rintro ⟨-, position, target, status, -, less, -⟩
      omega
    | skipped next same spent responses rules failed =>
      have none := (responses_respond policy rule answers rest next).2 (responses ▸ spent)
      rw [same, ih, failed]
      refine or_congr_right (and_congr_right fun _ => ?_)
      constructor
      all_goals
        rintro ⟨position, target, status, -, less, -⟩
        omega
    | executed next same calm within responses rules failed =>
      have more := (responses_respond policy rule answers rest next).1
      rw [same, ih, failed, or_assoc, ← and_or_left, responses]
      refine or_congr_right (and_congr_right fun _ => ⟨?_, ?_⟩)
      · rintro (⟨target, status, recovers, answer⟩ | ⟨position, target, status, here, less, answer⟩)
        · exact ⟨0, target, status, congrArg some recovers, by omega, answer⟩
        · refine ⟨position + 1, target, status, here, by omega, ?_⟩
          rwa [← Nat.add_assoc, Nat.add_right_comm]
      · rintro ⟨_ | position, target, status, here, less, answer⟩
        · exact .inl ⟨target, status, Option.some.inj here, answer⟩
        · refine .inr ⟨position, target, status, here, by omega, ?_⟩
          rwa [Nat.add_right_comm]

theorem responses_lt_respond (calm : evaluation.panicked = false) (nonempty : actions ≠ [])
    (within : evaluation.responses < policy.maxResponsesPerCycle) :
    evaluation.responses < (respond policy answers rule actions evaluation).responses := by
  cases actions with
  | nil => exact absurd rfl nonempty
  | cons action rest =>
    cases passed policy rule answers evaluation action rest with
    | ended panicked same => exact absurd panicked (Bool.eq_false_iff.mp calm)
    | skipped next same spent => exact absurd spent (Nat.not_le.mpr within)
    | executed next same calm within responses rules failed =>
      have more := (responses_respond policy rule answers rest next).1
      rw [same]
      omega

end Responses

/-! ### Turns -/

/-- The rule executes an action, of those its evaluation in the cycle comes to. -/
def acts (policy : Policy Component SafeState) (input : CycleInput Component SafeState)
    (evaluation : Evaluation Component SafeState) (rule : Rule Component SafeState) : Bool :=
  evaluation.responses < (evaluateRule policy input evaluation rule).responses

/-- The rule executes a recovery that fails. -/
def FailsRecovery (policy : Policy Component SafeState) (input : CycleInput Component SafeState)
    (evaluation : Evaluation Component SafeState) (rule : Rule Component SafeState) : Prop :=
  ∃ position target status, rule.responses[position]? = some (.tryRecover target) ∧
    evaluation.responses + position < (evaluateRule policy input evaluation rule).responses ∧
    input.answers (evaluation.responses + position) = .error status

/-- What the evaluation of a rule does, also where a panic ends it. -/
inductive Turn (policy : Policy Component SafeState) (input : CycleInput Component SafeState)
    (rule : Rule Component SafeState) (before after : Evaluation Component SafeState) : Prop
  | none (same : after = before)
      (idle : before.panicked = true ∨ input.subjects rule = .none)
  | quiet {record : SubjectHealth} (calm : before.panicked = false)
      (present : input.subjects rule = some record)
      (quiet : triggered rule.trigger record (before.recoveryFailed rule.subject) = false)
      (rules : after.storage.rule = update before.storage.rule rule {})
      (responses : after.responses = before.responses)
      (failed : after.recoveryFailed = before.recoveryFailed)
  | waiting {record : SubjectHealth} (calm : before.panicked = false)
      (present : input.subjects rule = some record)
      (trigger : triggered rule.trigger record (before.recoveryFailed rule.subject) = true)
      (waits : waits policy input.now rule (before.storage.rule rule) = true)
      (same : after = before)
  | taken {record : SubjectHealth} (calm : before.panicked = false)
      (present : input.subjects rule = some record)
      (trigger : triggered rule.trigger record (before.recoveryFailed rule.subject) = true)
      (turn : waits policy input.now rule (before.storage.rule rule) = false)
      (performed : List (Action Component SafeState))
      (rules : after.storage.rule = update before.storage.rule rule {
        active := true
        attempts := (before.storage.rule rule).attempts + 1
        nextAttempt := input.now + policy.recoveryCooldown
        performed })
      (responses : before.responses < after.responses ↔
        before.responses < policy.maxResponsesPerCycle)

/-- What the evaluation of one rule does. -/
theorem turn (policy : Policy Component SafeState) (input : CycleInput Component SafeState)
    (rule : Rule Component SafeState) (evaluation : Evaluation Component SafeState) :
    Turn policy input rule evaluation (evaluateRule policy input evaluation rule) ∧
      ∀ subject, (evaluateRule policy input evaluation rule).recoveryFailed subject = true ↔
        evaluation.recoveryFailed subject = true ∨ rule.subject = subject ∧
          FailsRecovery policy input evaluation rule := by
  unfold FailsRecovery
  rw [evaluateRule]
  have still : ∀ subject, evaluation.recoveryFailed subject = true ↔
      evaluation.recoveryFailed subject = true ∨ rule.subject = subject ∧
        ∃ position target status, rule.responses[position]? = some (.tryRecover target) ∧
          evaluation.responses + position < evaluation.responses ∧
          input.answers (evaluation.responses + position) = .error status := by
    refine fun subject => ⟨.inl, fun failed => failed.resolve_right ?_⟩
    rintro ⟨-, position, target, status, -, less, -⟩
    omega
  split_ifs with panicked
  · exact ⟨.none rfl (.inl panicked), still⟩
  have calm := Bool.eq_false_iff.mpr panicked
  cases present : input.subjects rule with
  | none => exact ⟨.none rfl (.inr present), still⟩
  | some record =>
    dsimp only
    by_cases quiet : triggered rule.trigger record (evaluation.recoveryFailed rule.subject) = false
    · rw [if_pos quiet]
      exact ⟨.quiet calm present quiet rfl rfl rfl, still⟩
    by_cases waiting : waits policy input.now rule (evaluation.storage.rule rule) = true
    · rw [if_neg quiet, if_pos waiting]
      exact ⟨.waiting calm present (Bool.not_eq_false _ ▸ quiet) waiting rfl, still⟩
    · rw [if_neg quiet, if_neg waiting]
      refine ⟨?_, recoveryFailed_respond policy rule input.answers rule.responses _⟩
      let begun : Evaluation Component SafeState := {
        evaluation with storage := { evaluation.storage with
          rule := update evaluation.storage.rule rule {
            active := true
            attempts := (evaluation.storage.rule rule).attempts + 1
            nextAttempt := input.now + policy.recoveryCooldown
            performed := if (evaluation.storage.rule rule).active then
              (evaluation.storage.rule rule).performed else [] } } }
      obtain ⟨performed, rules⟩ := rule_respond policy rule input.answers rule.responses begun
      refine .taken calm present (Bool.not_eq_false _ ▸ quiet) (Bool.eq_false_iff.mpr waiting)
        performed ?_ ⟨fun more => ?_, fun within => ?_⟩
      · refine rules.trans ?_
        simp [begun, update_idem]
      · by_contra spent
        have same := (responses_respond policy rule input.answers rule.responses begun).2
          (Nat.not_lt.mp spent)
        exact absurd more (Nat.not_lt.mpr (Nat.le_of_eq same))
      · exact responses_lt_respond policy rule input.answers _ begun calm rule.nonempty within

theorem acts_iff {record : SubjectHealth} (calm : evaluation.panicked = false)
    (present : input.subjects rule = some record) :
    acts policy input evaluation rule = true ↔
      triggered rule.trigger record (evaluation.recoveryFailed rule.subject) = true ∧
        waits policy input.now rule (evaluation.storage.rule rule) = false ∧
        evaluation.responses < policy.maxResponsesPerCycle := by
  unfold acts
  cases (turn policy input rule evaluation).1 with
  | none same idle => simp [calm, present] at idle
  | quiet _ found quiet rules responses failed =>
    cases present.symm.trans found
    simp [quiet, responses]
  | waiting _ found trigger waits same => simp [waits, same]
  | taken _ found trigger turn performed rules responses =>
    cases present.symm.trans found
    simp [trigger, turn, responses]

/-- Some rule about the subject, of those evaluated so far, had a recovery fail. -/
def RecoveryFailed (policy : Policy Component SafeState) (input : CycleInput Component SafeState)
    (done : List (Rule Component SafeState)) (start : Evaluation Component SafeState)
    (subject : Component) : Prop :=
  ∃ earlier rule later, done = earlier ++ rule :: later ∧ rule.subject = subject ∧
    FailsRecovery policy input (evaluateRules policy input earlier start) rule

theorem recoveryFailed_evaluateRules (done : List (Rule Component SafeState))
    (start : Evaluation Component SafeState) (subject : Component) :
    (evaluateRules policy input done start).recoveryFailed subject = true ↔
      start.recoveryFailed subject = true ∨ RecoveryFailed policy input done start subject := by
  induction done using List.reverseRecOn with
  | nil =>
    refine ⟨.inl, fun failed => failed.resolve_right ?_⟩
    rintro ⟨earlier, rule, later, split, -⟩
    exact absurd split.symm (append_ne_nil_of_right_ne_nil _ (cons_ne_nil _ _))
  | append_singleton done rule ih =>
    have step : evaluateRules policy input (done ++ [rule]) start =
        evaluateRule policy input (evaluateRules policy input done start) rule := by
      rw [evaluateRules, foldl_append]
      rfl
    rw [step, (turn policy input rule _).2, ih, or_assoc]
    refine or_congr_right ⟨?_, ?_⟩
    · rintro (⟨earlier, other, later, rfl, own, failed⟩ | ⟨own, failed⟩)
      · exact ⟨earlier, other, later ++ [rule], by simp, own, failed⟩
      · exact ⟨done, rule, [], rfl, own, failed⟩
    · rintro ⟨earlier, other, later, split, own, failed⟩
      obtain rfl | ⟨later, last, same⟩ := later.eq_nil_or_concat
      · obtain ⟨rfl, same⟩ := append_inj' split rfl
        obtain rfl := (List.cons.inj same).1
        exact .inr ⟨own, failed⟩
      · rw [same, concat_eq_append, ← cons_append, ← append_assoc] at split
        obtain ⟨rfl, -⟩ := append_inj' split rfl
        exact .inl ⟨earlier, other, later, rfl, own, failed⟩

/-! ### Episodes -/

/-- The evaluations of a cycle, with the episode of one rule: the times at which it has acted while
its trigger held, if the trigger held when it was last evaluated. -/
structure Watched (Component SafeState : Type) where
  evaluation : Evaluation Component SafeState
  episode : Option (List Nat)

def watch (policy : Policy Component SafeState) (input : CycleInput Component SafeState)
    (watched : Rule Component SafeState) (state : Watched Component SafeState)
    (rule : Rule Component SafeState) : Watched Component SafeState where
  evaluation := evaluateRule policy input state.evaluation rule
  episode :=
    if rule = watched ∧ state.evaluation.panicked = false then
      match input.subjects rule with
      | none => state.episode
      | some record =>
          if triggered rule.trigger record (state.evaluation.recoveryFailed rule.subject) then
            some (state.episode.getD [] ++
              if acts policy input state.evaluation rule then [input.now] else [])
          else none
    else state.episode

def watchRules (policy : Policy Component SafeState) (input : CycleInput Component SafeState)
    (watched : Rule Component SafeState) (rules : List (Rule Component SafeState))
    (state : Watched Component SafeState) : Watched Component SafeState :=
  rules.foldl (watch policy input watched) state

/-- The supervisor and the episode of one rule. -/
structure WatchedSystem (Component SafeState : Type) where
  supervised : Supervised Component SafeState := {}
  episode : Option (List Nat) := none

/-- What the rules of the next cycle find. -/
def WatchedSystem.start (system : WatchedSystem Component SafeState) :
    Watched Component SafeState where
  evaluation := { storage := system.supervised.storage.begin }
  episode := system.episode

/-- The cycles of the service, with the episode of a rule. A cycle that cannot refresh health
evaluates no rule. -/
def watchMachine (policy : Policy Component SafeState) (watched : Rule Component SafeState) :
    Transition.Machine (WatchedSystem Component SafeState) (CycleInput Component SafeState) where
  step system input :=
    ((serviceMachine policy).step system.supervised input).map fun supervised => {
      supervised
      episode := match input.refreshed with
        | .error _ => system.episode
        | .ok _ => (watchRules policy input watched policy.ordered system.start).episode }

variable {state : Watched Component SafeState}

/-- An evaluated rule counts the recoveries of its episode. -/
theorem Counted.watch {watched : Rule Component SafeState} (possible : 1 ≤ policy.recoveryAttempts)
    (counted : Counted policy watched (state.evaluation.storage.rule watched) state.episode)
    (rule : Rule Component SafeState) :
    Counted policy watched
      ((Supervisor.watch policy input watched state rule).evaluation.storage.rule watched)
      (Supervisor.watch policy input watched state rule).episode := by
  have turned := (turn policy input rule state.evaluation).1
  unfold Supervisor.watch
  by_cases own : rule = watched
  · subst own
    cases turned with
    | none same idle =>
      rw [same]
      obtain panicked | missing := idle
      · rw [if_neg fun both => Bool.eq_false_iff.mp both.2 panicked]
        exact counted
      · rw [missing]
        dsimp only
        rw [ite_self]
        exact counted
    | quiet calm present quiet rules responses failed =>
      rw [if_pos ⟨rfl, calm⟩, present]
      dsimp only
      rw [if_neg (Bool.eq_false_iff.mp quiet), rules, update_self]
      exact ⟨rfl, fun _ => rfl, Nat.le_refl _, .nil, nofun, Nat.zero_le _⟩
    | waiting calm present trigger waits same =>
      have still : acts policy input state.evaluation rule = false := by simp [acts, same]
      have active := (Bool.and_eq_true_iff.mp waits).1
      obtain ⟨times, here⟩ := Option.isSome_iff_exists.mp (counted.active ▸ active)
      rw [if_pos ⟨rfl, calm⟩, present]
      dsimp only
      rw [if_pos trigger, still, same, here]
      rw [here] at counted
      simpa using counted
    | taken calm present trigger turn performed rules responses =>
      rw [if_pos ⟨rfl, calm⟩, present]
      dsimp only
      rw [if_pos trigger, rules, update_self]
      obtain ⟨earlier, bound⟩ := counted.room possible turn
      refine ⟨rfl, nofun, ?_, ?_, ?_, bound⟩
      all_goals
        rw [Option.getD_some]
        split_ifs
      · rw [length_append, length_singleton]
        exact Nat.succ_le_succ counted.length
      · rw [append_nil]
        exact Nat.le_trans counted.length (Nat.le_succ _)
      · refine pairwise_append.mpr ⟨counted.spaced, pairwise_singleton .., ?_⟩
        exact fun time listed now here => mem_singleton.mp here ▸ earlier time listed
      · rw [append_nil]
        exact counted.spaced
      · intro time listed
        obtain before | now := mem_append.mp listed
        · exact Nat.le_trans (earlier time before) (Nat.le_add_right ..)
        · exact Nat.le_of_eq (congrArg (· + _) (mem_singleton.mp now))
      · rw [append_nil]
        exact fun time listed => Nat.le_trans (earlier time listed) (Nat.le_add_right ..)
  · rw [if_neg fun both => own both.1]
    have others : (evaluateRule policy input state.evaluation rule).storage.rule watched =
        state.evaluation.storage.rule watched := by
      cases turned with
      | none same | waiting calm present trigger waits same => rw [same]
      | quiet calm present quiet rules | taken calm present trigger turn performed rules =>
        rw [rules, update_of_ne (Ne.symm own)]
    rw [others]
    exact counted

variable {watched : Rule Component SafeState}

theorem evaluation_watchRules (rules : List (Rule Component SafeState))
    (state : Watched Component SafeState) :
    (watchRules policy input watched rules state).evaluation =
      evaluateRules policy input rules state.evaluation := by
  induction rules generalizing state with
  | nil => rfl
  | cons rule rest ih => exact ih _

theorem Counted.watchRules (possible : 1 ≤ policy.recoveryAttempts)
    (rules : List (Rule Component SafeState))
    (counted : Counted policy watched (state.evaluation.storage.rule watched) state.episode) :
    Counted policy watched
      ((Supervisor.watchRules policy input watched rules state).evaluation.storage.rule watched)
      (Supervisor.watchRules policy input watched rules state).episode := by
  induction rules generalizing state with
  | nil => exact counted
  | cons rule rest ih => exact ih (counted.watch possible rule)

theorem Counted.step (possible : 1 ≤ policy.recoveryAttempts)
    {system next : WatchedSystem Component SafeState}
    (counted : Counted policy watched (system.supervised.storage.rule watched) system.episode)
    (step : (watchMachine policy watched).step system input = some next) :
    Counted policy watched (next.supervised.storage.rule watched) next.episode := by
  obtain ⟨supervised, stepped, made⟩ := Option.map_eq_some_iff.mp step
  cases made
  obtain ⟨_, ⟨⟩⟩ := Option.ite_none_left_eq_some.mp stepped
  unfold cycle
  cases refreshed : input.refreshed with
  | error status => exact counted
  | ok _ =>
    have later : Counted policy watched ((Supervisor.watchRules policy input watched policy.ordered
        system.start).evaluation.storage.rule watched) _ :=
      Counted.watchRules possible policy.ordered counted
    rw [evaluation_watchRules] at later
    dsimp only
    split_ifs
    · exact later
    · rw [rule_finishCycle]
      exact later

/-- A rule with a recovery acts in a bounded number of cycles of an episode, a cooldown apart, and
any other rule in one at most. A rule acts where its trigger holds, it does not wait and a response
is left in the cycle; without a recovery it waits exactly after the first cycle of the episode. The
trigger of a rule about failed recoveries holds if one of its subject failed before in the cycle. -/
theorem recovery_is_bounded_and_spaced (possible : 1 ≤ policy.recoveryAttempts)
    {system : WatchedSystem Component SafeState}
    (reached : (watchMachine policy watched).Reachable {} system) :
    (∀ times, system.episode = some times →
      (watched.retries = true → times.length ≤ policy.recoveryAttempts ∧
        times.Pairwise (· + policy.recoveryCooldown ≤ ·)) ∧
      (watched.retries = false → times.length ≤ 1)) ∧
    ∀ (input : CycleInput Component SafeState) (done rest : List (Rule Component SafeState)),
      policy.ordered = done ++ watched :: rest →
      let here := watchRules policy input watched done system.start
      here.evaluation.panicked = false → ∀ record, input.subjects watched = some record →
        let holds := triggered watched.trigger record
          (here.evaluation.recoveryFailed watched.subject)
        let waiting := waits policy input.now watched (here.evaluation.storage.rule watched)
        (acts policy input here.evaluation watched = true ↔ holds = true ∧ waiting = false ∧
          here.evaluation.responses < policy.maxResponsesPerCycle) ∧
        (watched.retries = false → waiting = here.episode.isSome) ∧
        (watched.trigger = .recoveryFailure → (holds = true ↔
          RecoveryFailed policy input done system.start.evaluation watched.subject)) := by
  have counted : Counted policy watched (system.supervised.storage.rule watched) system.episode :=
    reached.invariant
      (fun system => Counted policy watched (system.supervised.storage.rule watched) system.episode)
      ⟨rfl, fun _ => rfl, Nat.le_refl _, .nil, nofun, Nat.zero_le _⟩
      fun _ _ _ counted step => counted.step possible step
  refine ⟨fun times here => ?_, ?_⟩
  · have length := Nat.le_trans counted.length counted.attempts
    have spaced := counted.spaced
    rw [here] at length spaced
    refine ⟨fun retries => ⟨?_, spaced⟩, fun single => ?_⟩
    · rwa [if_pos retries] at length
    · rwa [if_neg (Bool.eq_false_iff.mp single)] at length
  · intro input done rest split here calm record present holds waiting
    refine ⟨acts_iff calm present, fun single => ?_, fun recovery => ?_⟩
    · have now : Counted policy watched (here.evaluation.storage.rule watched) here.episode :=
        Counted.watchRules possible done counted
      simp [waiting, waits, single, now.active]
    · have failed : (evaluateRules policy input done system.start.evaluation).recoveryFailed
          watched.subject = true ↔ _ := recoveryFailed_evaluateRules ..
      simp only [holds, here, recovery, evaluation_watchRules]
      refine failed.trans ⟨fun failed => ?_, .inr⟩
      exact failed.resolve_left Bool.noConfusion

/-- A fault is recovered from, and a recovery that fails leads to a safe state. -/
def recoverOnFault : Rule Unit Unit := ⟨.fault, (), [.tryRecover ()], by decide⟩

def safeOnFailure : Rule Unit Unit := ⟨.recoveryFailure, (), [.enterSafeState ()], by decide⟩

def escalating : Policy Unit Unit where
  rules := [recoverOnFault, safeOnFailure]
  watchdogConfigured := false
  maxResponsesPerCycle := 8
  recoveryAttempts := 3
  recoveryCooldown := 1000

/-- A cycle that finds a fault, and whose hooks fail. -/
def failing (now : Nat) : CycleInput Unit Unit :=
  { finds .faulted .faulted now with answers := fun _ => .error .error }

theorem recoverOnFault_acts_twice :
    1 ≤ escalating.recoveryAttempts ∧
    ∃ system, (watchMachine escalating recoverOnFault).Reachable {} system ∧
      system.episode = some [5, 1010] ∧ [5, 1010].Pairwise (· + escalating.recoveryCooldown ≤ ·) :=
  have reached := (watchMachine escalating recoverOnFault).reachable_get {}
    [failing 5, failing 900, failing 1010] rfl
  ⟨by decide, _, reached, rfl,
    (((recovery_is_bounded_and_spaced (by decide) reached).1 _ rfl).1 rfl).2⟩

theorem safeOnFailure_acts_once :
    ∃ system, (watchMachine escalating safeOnFailure).Reachable {} system ∧
      let here := (watchRules escalating (failing 1010) safeOnFailure [recoverOnFault]
        system.start).evaluation
      RecoveryFailed escalating (failing 1010) [recoverOnFault] system.start.evaluation () ∧
        here.panicked = false ∧ here.responses < escalating.maxResponsesPerCycle ∧
        acts escalating (failing 1010) here safeOnFailure = false := by
  have reached := (watchMachine escalating safeOnFailure).reachable_get {} [failing 5] rfl
  refine ⟨_, reached, ?_, by decide⟩
  exact ⟨[], recoverOnFault, [], rfl, rfl, 0, (), .error, rfl, by decide, rfl⟩

end Solar.Supervisor
