/-
This file proves when the supervisor carries out what its policy declares. The
loop over the responses and the evaluation of a rule are described once, by
`Responded` and `Evaluated`, and a fact about a whole cycle is proved by taking
the rules in their order. A rule that will not act again in its episode has
performed all its actions as long as the budget of a cycle is not spent before
the rule's last turn.
-/

import Solar.Supervisor.Service

namespace Solar.Supervisor

open List Function

variable {Component SafeState : Type}

/-! ### One action -/

theorem rule_executeAction (answer : Except Remote.Status Unit)
    (storage : Storage Component SafeState) (action : Action Component SafeState) :
    (executeAction answer storage action).1.rule = storage.rule := by
  cases action <;> rfl

theorem withheld_executeAction (answer : Except Remote.Status Unit)
    (storage : Storage Component SafeState) (action : Action Component SafeState) :
    (executeAction answer storage action).1.watchdog.deliberatelyWithheld = true ↔
      storage.watchdog.deliberatelyWithheld = true ∨ action = .stopFeedingWatchdog := by
  cases action <;> simp [executeAction]

variable [DecidableEq Component] [DecidableEq SafeState] {policy : Policy Component SafeState}

@[simp] theorem rule_note_self (storage : Storage Component SafeState)
    (rule : Rule Component SafeState) (action : Action Component SafeState) :
    (storage.note rule action).rule rule =
      { storage.rule rule with performed := (storage.rule rule).performed ++ [action] } :=
  update_self ..

variable {rule : Rule Component SafeState} {evaluation : Evaluation Component SafeState}
  {input : CycleInput Component SafeState}

theorem rule_note_of_ne (storage : Storage Component SafeState) {other : Rule Component SafeState}
    (action : Action Component SafeState) (different : other ≠ rule) :
    (storage.note rule action).rule other = storage.rule other :=
  update_of_ne different ..

/-! ### The responses of a rule -/

/-- What the loop over the responses leaves behind, unless a panic ended it: the other rules are left
alone, every action within the budget is performed, and the feed is withheld if it was or if an
action withholds it. -/
structure Responded (policy : Policy Component SafeState) (rule : Rule Component SafeState)
    (actions : List (Action Component SafeState)) (before after : Evaluation Component SafeState) :
    Prop where
  others : ∀ other, other ≠ rule → after.storage.rule other = before.storage.rule other
  active : (after.storage.rule rule).active = (before.storage.rule rule).active
  attempts : (after.storage.rule rule).attempts = (before.storage.rule rule).attempts
  kept : ∀ action ∈ (before.storage.rule rule).performed,
    action ∈ (after.storage.rule rule).performed
  within : ∀ position action, actions[position]? = some action →
    before.responses + position < policy.maxResponsesPerCycle →
    action ∈ (after.storage.rule rule).performed ∧ action ≠ .panic ∧
      (action = .stopFeedingWatchdog → after.storage.watchdog.deliberatelyWithheld = true)
  withheld : before.storage.watchdog.deliberatelyWithheld = true →
    after.storage.watchdog.deliberatelyWithheld = true
  stopped : .stopFeedingWatchdog ∈ (after.storage.rule rule).performed →
    .stopFeedingWatchdog ∈ (before.storage.rule rule).performed ∨
      after.storage.watchdog.deliberatelyWithheld = true

variable {answers : Nat → Except Remote.Status Unit} {actions : List (Action Component SafeState)}

section

variable (returned : (respond policy answers rule actions evaluation).panicked = false)

include returned

theorem calm_of_respond : evaluation.panicked = false := by
  cases actions with
  | nil => exact returned
  | cons action rest =>
    by_contra panicked
    rw [respond, if_pos (Bool.not_eq_false _ ▸ panicked)] at returned
    exact panicked returned

/-- The actions of a rule are carried out in order, up to the first that ends them. -/
theorem responded :
    Responded policy rule actions evaluation (respond policy answers rule actions evaluation) := by
  induction actions generalizing evaluation with
  | nil => exact ⟨fun _ _ => rfl, rfl, rfl, fun _ listed => listed, nofun, id, .inl⟩
  | cons action rest ih =>
    have calm := calm_of_respond returned
    rw [respond, if_neg (Bool.eq_false_iff.mp calm)] at returned ⊢
    split_ifs at returned ⊢ with spent
    · have later := ih returned
      refine ⟨later.others, later.active, later.attempts, later.kept, ?_, later.withheld,
        later.stopped⟩
      intro position found here bounded
      omega
    · have later := ih returned
      have executed := rule_executeAction (answers evaluation.responses) evaluation.storage action
      have closes := withheld_executeAction (answers evaluation.responses) evaluation.storage action
      refine ⟨fun other different => ?_, ?_, ?_, fun done listed => ?_,
        fun position found here bounded => ?_, fun withheld => ?_, fun listed => ?_⟩
      · rw [later.others other different, rule_note_of_ne _ _ different, executed]
      · rw [later.active, rule_note_self, executed]
      · rw [later.attempts, rule_note_self, executed]
      · refine later.kept done ?_
        rw [rule_note_self, executed]
        exact mem_append_left _ listed
      · cases position with
        | zero =>
          obtain rfl := Option.some.inj here
          refine ⟨later.kept action ?_, fun panics => ?_,
            fun stops => later.withheld (closes.mpr (.inr stops))⟩
          · rw [rule_note_self]
            exact mem_append_right _ (mem_singleton_self _)
          · have goesOn := calm_of_respond returned
            rw [panics] at goesOn
            exact absurd goesOn Bool.noConfusion
        | succ position =>
          refine later.within position found here ?_
          show evaluation.responses + 1 + position < _
          omega
      · exact later.withheld (closes.mpr (.inl withheld))
      · obtain earlier | withheld := later.stopped listed
        · rw [rule_note_self, executed, mem_append] at earlier
          obtain before | now := earlier
          · exact .inl before
          · exact .inr (later.withheld (closes.mpr (.inr (mem_singleton.mp now).symm)))
        · exact .inr withheld

end

/-! ### The evaluation of a rule -/

/-- How the evaluation of a rule can end, unless a panic ended it. -/
inductive Evaluated (policy : Policy Component SafeState) (input : CycleInput Component SafeState)
    (rule : Rule Component SafeState) (before after : Evaluation Component SafeState) : Prop
  | unknown (missing : input.subjects rule = none) (same : after = before)
  | inactive {record : SubjectHealth} (present : input.subjects rule = some record)
      (quiet : triggered rule.trigger record (before.recoveryFailed rule.subject) = false)
      (others : ∀ other, other ≠ rule → after.storage.rule other = before.storage.rule other)
      (own : after.storage.rule rule = {})
      (watchdog : after.storage.watchdog = before.storage.watchdog)
  | waiting {record : SubjectHealth} (present : input.subjects rule = some record)
      (trigger : triggered rule.trigger record (before.recoveryFailed rule.subject) = true)
      (waits : waits policy input.now rule (before.storage.rule rule) = true)
      (same : after = before)
  | acting {record : SubjectHealth} (present : input.subjects rule = some record)
      (trigger : triggered rule.trigger record (before.recoveryFailed rule.subject) = true)
      (turn : waits policy input.now rule (before.storage.rule rule) = false)
      (begun : Evaluation Component SafeState) (responses : begun.responses = before.responses)
      (watchdog : begun.storage.watchdog = before.storage.watchdog)
      (others : ∀ other, other ≠ rule → begun.storage.rule other = before.storage.rule other)
      (attempts : (begun.storage.rule rule).attempts = (before.storage.rule rule).attempts + 1)
      (performed : (begun.storage.rule rule).performed =
        if (before.storage.rule rule).active then (before.storage.rule rule).performed else [])
      (responded : Responded policy rule rule.responses begun after)

section

variable (returned : (evaluateRule policy input evaluation rule).panicked = false)

include returned

theorem calm_of_evaluateRule : evaluation.panicked = false := by
  by_contra panicked
  rw [evaluateRule, if_pos (Bool.not_eq_false _ ▸ panicked)] at returned
  exact panicked returned

theorem evaluated :
    Evaluated policy input rule evaluation (evaluateRule policy input evaluation rule) := by
  have calm := calm_of_evaluateRule returned
  rw [evaluateRule, if_neg (Bool.eq_false_iff.mp calm)] at returned ⊢
  cases present : input.subjects rule with
  | none => exact .unknown present rfl
  | some record =>
  simp only [present] at returned ⊢
  by_cases quiet : triggered rule.trigger record (evaluation.recoveryFailed rule.subject) = false
  · simp only [if_pos quiet]
    exact .inactive present quiet (fun other different => update_of_ne different ..)
      (update_self ..) rfl
  · simp only [if_neg quiet] at returned ⊢
    have trigger := Bool.not_eq_false _ ▸ quiet
    by_cases waiting : waits policy input.now rule (evaluation.storage.rule rule) = true
    · simp only [if_pos waiting]
      exact .waiting present trigger waiting rfl
    · simp only [if_neg waiting] at returned ⊢
      have ended := responded returned
      refine .acting present trigger (Bool.eq_false_iff.mpr waiting) _ ?_ ?_ ?_ ?_ ?_ ended
      · rfl
      · rfl
      · exact fun other different => update_of_ne different ..
      · simp
      · simp

end

/-- A property of the evaluations of a cycle that every rule keeps at its place in the order. -/
theorem evaluateRules_rule (policy : Policy Component SafeState)
    (input : CycleInput Component SafeState) (rules : List (Rule Component SafeState))
    (start : Evaluation Component SafeState)
    {motive : List (Rule Component SafeState) → Evaluation Component SafeState → Prop}
    (initially : motive [] start)
    (keeps : ∀ done rule rest, rules = done ++ rule :: rest →
      motive done (evaluateRules policy input done start) →
      motive (done ++ [rule])
        (evaluateRule policy input (evaluateRules policy input done start) rule)) :
    motive rules (evaluateRules policy input rules start) := by
  have prefixes : ∀ done rest, rules = done ++ rest →
      motive done (evaluateRules policy input done start) := by
    intro done
    induction done using reverseRecOn with
    | nil => exact fun _ _ => initially
    | append_singleton done rule ih =>
      intro rest split
      have here : rules = done ++ rule :: rest := by
        rw [split, append_assoc, singleton_append]
      have stepped := keeps done rule rest here (ih (rule :: rest) here)
      unfold evaluateRules at stepped ⊢
      rw [foldl_append]
      exact stepped
  exact prefixes rules [] (append_nil rules).symm

/-! ### Rules that will not act again -/

section

variable (policy : Policy Component SafeState)

/-- Every rule that will not act again in its episode has performed all its actions. -/
def Handled (storage : Storage Component SafeState) : Prop :=
  ∀ rule, (storage.rule rule).active = true →
    (rule.retries = false ∨ policy.recoveryAttempts ≤ (storage.rule rule).attempts) →
    ∀ action ∈ rule.responses, action ∈ (storage.rule rule).performed

/-- What is asked of the budget when a rule is evaluated: if the rule acts for the last time in its
episode, each action it has not performed yet finds a response left in the cycle. -/
def Affords (input : CycleInput Component SafeState) (evaluation : Evaluation Component SafeState)
    (rule : Rule Component SafeState) : Prop :=
  ∀ record, input.subjects rule = some record →
    triggered rule.trigger record (evaluation.recoveryFailed rule.subject) = true →
    waits policy input.now rule (evaluation.storage.rule rule) = false →
    (rule.retries = false ∨ policy.recoveryAttempts ≤ (evaluation.storage.rule rule).attempts + 1) →
    ∀ position action, rule.responses[position]? = some action →
      evaluation.responses + position < policy.maxResponsesPerCycle ∨
        (evaluation.storage.rule rule).active = true ∧
          action ∈ (evaluation.storage.rule rule).performed

/-- The budget of the cycle is asked for at the place of each rule in the order. -/
def Affordable (supervised : Supervised Component SafeState)
    (input : CycleInput Component SafeState) : Prop :=
  ∀ done rule rest, policy.ordered = done ++ rule :: rest → Affords policy input
      (evaluateRules policy input done { storage := supervised.storage.begin }) rule

end

theorem Handled.of_evaluated {before after : Evaluation Component SafeState}
    (handled : Handled policy before.storage) (affords : Affords policy input before rule)
    (ended : Evaluated policy input rule before after) : Handled policy after.storage := by
  cases ended with
  | unknown missing same | waiting present trigger waits same => exact same ▸ handled
  | inactive present quiet others own watchdog =>
    intro other active
    by_cases same : other = rule
    · subst same
      rw [own] at active
      exact absurd active Bool.noConfusion
    · rw [others other same] at active ⊢
      exact handled other active
  | acting present trigger turn begun responses watchdog others attempts performed responded =>
    intro other active last action declared
    by_cases same : other = rule
    · subst same
      rw [responded.attempts, attempts] at last
      obtain ⟨position, here⟩ := mem_iff_getElem?.mp declared
      obtain within | ⟨wasActive, earlier⟩ :=
        affords _ present trigger turn last position action here
      · exact (responded.within position action here (responses ▸ within)).1
      · refine responded.kept action ?_
        rw [performed, if_pos wasActive]
        exact earlier
    · rw [responded.others other same, others other same] at active last ⊢
      exact handled other active last action declared

theorem Handled.of_cycle {supervised : Supervised Component SafeState}
    (handled : Handled policy supervised.storage) (affordable : Affordable policy supervised input)
    (returned : (cycle policy input supervised.storage).2 ≠ .panicked) :
    Handled policy (cycle policy input supervised.storage).1 := by
  unfold cycle at returned ⊢
  cases refreshed : input.refreshed with
  | error status => exact handled
  | ok _ =>
    simp only [refreshed] at returned ⊢
    have evaluates : (evaluateRules policy input policy.ordered
        { storage := supervised.storage.begin }).panicked = false →
        Handled policy (evaluateRules policy input policy.ordered
          { storage := supervised.storage.begin }).storage := by
      refine evaluateRules_rule _ _ _ _ (motive := fun _ evaluation => evaluation.panicked = false →
          Handled policy evaluation.storage) (fun _ => handled) ?_
      intro done rule rest split earlier calm
      exact (earlier (calm_of_evaluateRule calm)).of_evaluated (affordable done rule rest split)
        (evaluated calm)
    split_ifs at returned ⊢ with panicked
    · exact absurd rfl returned
    · have holds := evaluates (Bool.eq_false_iff.mpr panicked)
      unfold finishCycle
      simp only
      split_ifs
      · split
        · exact holds
        · exact holds
      · exact holds
      · exact holds

/-- A rule that is considered handled has been carried out: after every cycle of every run whose
cycles are affordable, every rule that will not act again in its episode has performed all its
actions. -/
theorem handled_rules_are_carried_out {supervised : Supervised Component SafeState}
    (reached : (serviceMachine policy).ReachableWhere (Affordable policy) {} supervised)
    (returned : supervised.last ≠ some .panicked) {rule : Rule Component SafeState}
    (active : (supervised.storage.rule rule).active = true)
    (last : rule.retries = false ∨
      policy.recoveryAttempts ≤ (supervised.storage.rule rule).attempts) :
    ∀ action ∈ rule.responses, action ∈ (supervised.storage.rule rule).performed := by
  have holds : supervised.last ≠ some .panicked → Handled policy supervised.storage := by
    refine reached.invariant
      (fun supervised => supervised.last ≠ some .panicked → Handled policy supervised.storage)
      (fun _ rule active => absurd active Bool.noConfusion) ?_
    intro before input after holds affordable stepped calm
    obtain ⟨panicked, ⟨⟩⟩ := Option.ite_none_left_eq_some.mp stepped
    exact (holds panicked).of_cycle affordable fun ended => calm (congrArg some ended)
  exact holds returned rule active last

/-- A fault is warned of, and then a safe state is entered. -/
def warnThenSafe : Rule Unit Unit :=
  ⟨.fault, (), [.warn, .enterSafeState ()], by decide⟩

/-- The policy of one rule, with a budget. -/
def onlyRule (rule : Rule Unit Unit) (maxResponsesPerCycle : Nat) : Policy Unit Unit where
  rules := [rule]
  watchdogConfigured := true
  maxResponsesPerCycle
  recoveryAttempts := 3
  recoveryCooldown := 1000

/-- A cycle that finds the component and the system in these conditions. -/
def finds (component system : Condition) (now : Nat) : CycleInput Unit Unit where
  now
  subjects := fun _ => some ⟨component, .live⟩
  system := some ⟨system, .acceptable, .current⟩

theorem warnThenSafe_is_carried_out :
    (onlyRule warnThenSafe 2).maxResponsesPerCycle = 2 ∧
    ∃ supervised, (serviceMachine (onlyRule warnThenSafe 2)).ReachableWhere
        (Affordable (onlyRule warnThenSafe 2)) {} supervised ∧
      (supervised.storage.rule warnThenSafe).active = true ∧
      ∀ action ∈ warnThenSafe.responses,
        action ∈ (supervised.storage.rule warnThenSafe).performed := by
  have admissible : (serviceMachine (onlyRule warnThenSafe 2)).Admissible
      (Affordable (onlyRule warnThenSafe 2)) {} [finds .faulted .faulted 5] := by
    refine ⟨fun done rule rest split => ?_, fun _ _ => trivial⟩
    obtain ⟨rfl, rfl, rfl⟩ : done = [] ∧ rule = warnThenSafe ∧ rest = [] := by
      cases done with
      | nil =>
        have same := (cons.inj split)
        exact ⟨rfl, same.1.symm, same.2.symm⟩
      | cons first others =>
        have empty := (cons.inj split).2
        exact absurd empty.symm (append_ne_nil_of_right_ne_nil _ (cons_ne_nil _ _))
    intro record present trigger turn last position action here
    refine .inl ?_
    have bounded := (List.getElem?_eq_some_iff.mp here).1
    show 0 + position < 2
    rw [Nat.zero_add]
    exact bounded
  have reached := (serviceMachine (onlyRule warnThenSafe 2)).reachableWhere_get _ _ _ admissible rfl
  refine ⟨rfl, _, reached, rfl, ?_⟩
  exact handled_rules_are_carried_out reached (by decide) rfl (.inl rfl)

/-- The budget is spent after the warning: the rule is active, does not act again, and the safe state
is never entered. -/
theorem warnThenSafe_stops_at_the_warning :
    ∃ supervised, (serviceMachine (onlyRule warnThenSafe 1)).Reachable {} supervised ∧
      supervised.last = some (.completed false) ∧
      (supervised.storage.rule warnThenSafe).active = true ∧ warnThenSafe.retries = false ∧
      ¬ ∀ action ∈ warnThenSafe.responses,
        action ∈ (supervised.storage.rule warnThenSafe).performed :=
  ⟨_, (serviceMachine (onlyRule warnThenSafe 1)).reachable_get {}
    [finds .faulted .faulted 5, finds .faulted .faulted 6] rfl, by decide⟩

end Solar.Supervisor
