/-
This file proves when the watchdog stays starved while its gate is closed. The
flag of the withholding is cleared at the start of every cycle, and a rule sets
it when it acts, once in an episode. So the feed stays withheld as long as, in
every cycle whose health would allow the feed, a rule acts that withholds it or
no rule that has withheld it is still triggered.
-/

import Solar.Supervisor.Responses

namespace Solar.Supervisor

open List Option

variable {Component SafeState : Type} {policy : Policy Component SafeState}

theorem mem_ordered {rule : Rule Component SafeState} :
    rule ∈ policy.ordered ↔ rule ∈ policy.rules := by
  simp only [Policy.ordered, mem_append, mem_filter, decide_eq_true_eq]
  tauto

/-! ### One cycle -/

/-- The rule has withheld the feed in its episode, and the episode does not end here: the trigger is
true, or nothing is known of the subject. -/
def HoldsGate (input : CycleInput Component SafeState)
    (evaluation : Evaluation Component SafeState) (rule : Rule Component SafeState) : Prop :=
  (evaluation.storage.rule rule).active = true ∧
    .stopFeedingWatchdog ∈ (evaluation.storage.rule rule).performed ∧
    ∀ record, input.subjects rule = some record →
      triggered rule.trigger record (evaluation.recoveryFailed rule.subject) = true

/-- The rule acts here, and has a response within the budget that withholds the feed or panics. -/
def ClosesGate (policy : Policy Component SafeState) (input : CycleInput Component SafeState)
    (evaluation : Evaluation Component SafeState) (rule : Rule Component SafeState) : Prop :=
  ∃ record position action, input.subjects rule = some record ∧
    triggered rule.trigger record (evaluation.recoveryFailed rule.subject) = true ∧
    waits policy input.now rule (evaluation.storage.rule rule) = false ∧
    rule.responses[position]? = some action ∧
    evaluation.responses + position < policy.maxResponsesPerCycle ∧
    (action = .stopFeedingWatchdog ∨ action = .panic)

variable {input : CycleInput Component SafeState} {before after : Evaluation Component SafeState}
  {rule : Rule Component SafeState}

section

variable (ended : Evaluated policy input rule before after)

include ended

theorem Evaluated.withheld (withheld : before.storage.watchdog.deliberatelyWithheld = true) :
    after.storage.watchdog.deliberatelyWithheld = true := by
  cases ended with
  | unknown missing same | waiting present trigger waits same
  | inactive present quiet others own same => exact same ▸ withheld
  | acting present trigger turn begun responses watchdog others attempts performed responded =>
    exact responded.withheld (watchdog ▸ withheld)

theorem Evaluated.others {other : Rule Component SafeState} (different : other ≠ rule) :
    after.storage.rule other = before.storage.rule other := by
  cases ended with
  | unknown missing same | waiting present trigger waits same => rw [same]
  | inactive present quiet others own watchdog => exact others other different
  | acting present trigger turn begun responses watchdog others attempts performed responded =>
    rw [responded.others other different, others other different]

theorem Evaluated.closes (closing : ClosesGate policy input before rule) :
    after.storage.watchdog.deliberatelyWithheld = true := by
  obtain ⟨record, position, action, present, trigger, turn, here, within, closes⟩ := closing
  cases ended with
  | unknown missing same => simp [present] at missing
  | inactive found quiet others own watchdog =>
    obtain rfl := some.inj (present.symm.trans found)
    exact absurd trigger (Bool.eq_false_iff.mp quiet)
  | waiting found _ waits same => simp [turn] at waits
  | acting found _ _ begun responses watchdog others attempts performed responded =>
    obtain ⟨-, calm, withholds⟩ := responded.within position action here (responses ▸ within)
    exact withholds (closes.resolve_right calm)

/-- A rule that does not hold the gate has withheld the feed only if it does so in this cycle. -/
theorem Evaluated.renewed (released : ¬ HoldsGate input before rule)
    (active : (after.storage.rule rule).active = true)
    (performed : .stopFeedingWatchdog ∈ (after.storage.rule rule).performed) :
    after.storage.watchdog.deliberatelyWithheld = true := by
  cases ended with
  | unknown missing same =>
    subst same
    refine absurd ⟨active, performed, fun record present => ?_⟩ released
    exact absurd (missing.symm.trans present) nofun
  | inactive present quiet others own watchdog =>
    rw [own] at active
    exact absurd active Bool.noConfusion
  | waiting present trigger waits same =>
    subst same
    refine absurd ⟨active, performed, fun record found => ?_⟩ released
    obtain rfl := some.inj (present.symm.trans found)
    exact trigger
  | acting present trigger turn begun responses watchdog others attempts already responded =>
    obtain earlier | withheld := responded.stopped performed
    · rw [already] at earlier
      split_ifs at earlier with wasActive
      · refine absurd ⟨wasActive, earlier, fun record found => ?_⟩ released
        obtain rfl := some.inj (present.symm.trans found)
        exact trigger
      · exact absurd earlier not_mem_nil
    · exact withheld

end

variable [DecidableEq Component] [DecidableEq SafeState]

/-- What is asked of a cycle whose health allows the feed: a rule closes the gate, or no rule holds
it. -/
def Gated (policy : Policy Component SafeState) (supervised : Supervised Component SafeState)
    (input : CycleInput Component SafeState) : Prop :=
  input.refreshed = .ok () → policy.watchdogConfigured = true → permits input.system = true →
    (∃ done rule rest, policy.ordered = done ++ rule :: rest ∧ ClosesGate policy input
        (evaluateRules policy input done { storage := supervised.storage.begin }) rule) ∨
    ∀ done rule rest, policy.ordered = done ++ rule :: rest → ¬ HoldsGate input
        (evaluateRules policy input done { storage := supervised.storage.begin }) rule

/-- All rules together: in a gated cycle the feed is withheld whenever a rule has withheld it in its
episode. -/
theorem withheld_evaluateRules {rules : List (Rule Component SafeState)}
    {start : Evaluation Component SafeState}
    (gated : (∃ done rule rest, rules = done ++ rule :: rest ∧
        ClosesGate policy input (evaluateRules policy input done start) rule) ∨
      ∀ done rule rest, rules = done ++ rule :: rest →
        ¬ HoldsGate input (evaluateRules policy input done start) rule)
    (calm : (evaluateRules policy input rules start).panicked = false) (declared : rule ∈ rules)
    (active : ((evaluateRules policy input rules start).storage.rule rule).active = true)
    (performed : .stopFeedingWatchdog ∈
      ((evaluateRules policy input rules start).storage.rule rule).performed) :
    (evaluateRules policy input rules start).storage.watchdog.deliberatelyWithheld = true := by
  obtain ⟨closed, closer, rest, split, closing⟩ | released := gated
  · -- What the closing rule has set, no later rule clears.
    have closes := evaluateRules_rule policy input rules start
      (motive := fun done evaluation => evaluation.panicked = false →
        closed.length < done.length → evaluation.storage.watchdog.deliberatelyWithheld = true)
      nofun ?_
    · exact closes calm (by simp [split])
    · intro done rule later here earlier calm longer
      have ended := evaluated calm
      rw [length_append] at longer
      obtain before | now := Nat.lt_succ_iff_lt_or_eq.mp longer
      · exact ended.withheld (earlier (calm_of_evaluateRule calm) before)
      · obtain ⟨rfl, same⟩ := append_inj (split.symm.trans here) now
        obtain ⟨rfl, -⟩ := cons.inj same
        exact ended.closes closing
  · have renews := evaluateRules_rule policy input rules start
      (motive := fun done evaluation => evaluation.panicked = false → ∀ rule ∈ done,
        (evaluation.storage.rule rule).active = true →
        .stopFeedingWatchdog ∈ (evaluation.storage.rule rule).performed →
        evaluation.storage.watchdog.deliberatelyWithheld = true)
      (fun _ _ listed => absurd listed not_mem_nil) ?_
    · exact renews calm rule declared active performed
    · intro done rule rest split earlier calm other listed active performed
      have ended := evaluated calm
      by_cases same : other = rule
      · subst same
        exact ended.renewed (released done other rest split) active performed
      · have before := (mem_append.mp listed).resolve_right fun now => same (mem_singleton.mp now)
        rw [ended.others same] at active performed
        exact ended.withheld (earlier (calm_of_evaluateRule calm) other before active performed)

/-- What a cycle that feeds has been through. -/
theorem fed_of_cycle {storage : Storage Component SafeState}
    (fed : (cycle policy input storage).2 = .completed true) :
    let evaluated := evaluateRules policy input policy.ordered { storage := storage.begin }
    input.refreshed = .ok () ∧ evaluated.panicked = false ∧ policy.watchdogConfigured = true ∧
      evaluated.storage.watchdog.deliberatelyWithheld = false ∧ permits input.system = true ∧
      (cycle policy input storage).1.rule = evaluated.storage.rule := by
  unfold cycle at fed ⊢
  cases refreshed : input.refreshed with
  | error status =>
    simp only [refreshed] at fed
    exact absurd fed nofun
  | ok _ =>
    simp only [refreshed] at fed ⊢
    by_cases panicked : (evaluateRules policy input policy.ordered
        { storage := storage.begin }).panicked = true
    · rw [if_pos panicked] at fed
      exact absurd fed nofun
    · rw [if_neg panicked] at fed ⊢
      unfold finishCycle at fed ⊢
      simp only at fed ⊢
      split_ifs at fed ⊢ with configured permitted
      · obtain ⟨free, healthy⟩ := Bool.and_eq_true_iff.mp permitted
        refine ⟨trivial, Bool.eq_false_iff.mpr panicked, configured, ?_, healthy, ?_⟩
        · exact (Bool.not_eq_true' _).mp free
        · split <;> rfl
      · exact absurd fed nofun
      · exact absurd fed nofun

/-! ### Runs -/

/-- The watchdog stays starved while its gate is closed: in every run whose cycles are gated, a cycle
that ends with a rule active that has withheld the feed since it became active did not feed the
provider; and every cycle of the run that feeds it does so after health was refreshed and all rules
were evaluated, with the system neither faulted, nor unsafe, nor stale. -/
theorem watchdog_stays_starved {supervised : Supervised Component SafeState}
    (reached : (serviceMachine policy).ReachableWhere (Gated policy) {} supervised) :
    (∀ rule ∈ policy.rules, (supervised.storage.rule rule).active = true →
      .stopFeedingWatchdog ∈ (supervised.storage.rule rule).performed →
      supervised.last ≠ some (.completed true)) ∧
    ∀ input after, (serviceMachine policy).step supervised input = some after →
      after.last = some (.completed true) →
      input.refreshed = .ok () ∧ (evaluateRules policy input policy.ordered
          { storage := supervised.storage.begin }).panicked = false ∧
        ∃ system, input.system = some system ∧ system.condition ≠ .faulted ∧
          system.safety ≠ .unsafeCondition ∧ system.freshness ≠ .stale := by
  constructor
  · refine reached.invariant (fun supervised => ∀ rule ∈ policy.rules,
      (supervised.storage.rule rule).active = true →
      .stopFeedingWatchdog ∈ (supervised.storage.rule rule).performed →
      supervised.last ≠ some (.completed true)) (fun _ _ active => absurd active Bool.false_ne_true) ?_
    intro before input after _ gated stepped rule declared active performed fed
    obtain ⟨_, ⟨⟩⟩ := ite_none_left_eq_some.mp stepped
    obtain ⟨refreshed, calm, configured, free, healthy, same⟩ := fed_of_cycle (some.inj fed)
    simp only [same] at active performed
    have withheld := withheld_evaluateRules (gated refreshed configured healthy) calm
      (mem_ordered.mpr declared) active performed
    exact absurd withheld (Bool.eq_false_iff.mp free)
  · intro input after stepped fed
    obtain ⟨_, ⟨⟩⟩ := ite_none_left_eq_some.mp stepped
    obtain ⟨refreshed, calm, -, -, healthy, -⟩ := fed_of_cycle (some.inj fed)
    cases known : input.system with rw [known] at healthy
    | none => exact absurd healthy Bool.false_ne_true
    | some system => exact ⟨refreshed, calm, system, rfl, of_decide_eq_true healthy⟩

/-- A degraded component withholds the feed. -/
def starveOnDegraded : Rule Unit Unit :=
  ⟨.degraded, (), [.stopFeedingWatchdog], by decide⟩

theorem starveOnDegraded_starves :
    ∃ supervised, (serviceMachine (onlyRule starveOnDegraded 8)).ReachableWhere
        (Gated (onlyRule starveOnDegraded 8)) {} supervised ∧
      (supervised.storage.rule starveOnDegraded).active = true ∧
      .stopFeedingWatchdog ∈ (supervised.storage.rule starveOnDegraded).performed ∧
      supervised.last ≠ some (.completed true) := by
  have admissible : (serviceMachine (onlyRule starveOnDegraded 8)).Admissible
      (Gated (onlyRule starveOnDegraded 8)) {}
      [finds .degraded .degraded 5, finds .degraded .faulted 6] := by
    refine ⟨fun _ _ _ => .inl ?_, fun _ _ => ⟨fun _ _ healthy => ?_, fun _ _ => trivial⟩⟩
    · exact ⟨[], starveOnDegraded, [], rfl, ⟨.degraded, .live⟩, 0, .stopFeedingWatchdog, by decide⟩
    · exact absurd healthy (by decide)
  have reached :=
    (serviceMachine (onlyRule starveOnDegraded 8)).reachableWhere_get _ _ _ admissible rfl
  exact ⟨_, reached, rfl, by decide,
    (watchdog_stays_starved reached).1 starveOnDegraded (by decide) rfl (by decide)⟩

/-- The component stays degraded and the system is degraded too: the second cycle feeds the
provider. -/
theorem starveOnDegraded_feeds_in_the_second_cycle :
    ∃ supervised, (serviceMachine (onlyRule starveOnDegraded 8)).Reachable {} supervised ∧
      starveOnDegraded ∈ (onlyRule starveOnDegraded 8).rules ∧
      (supervised.storage.rule starveOnDegraded).active = true ∧
      .stopFeedingWatchdog ∈ (supervised.storage.rule starveOnDegraded).performed ∧
      supervised.last = some (.completed true) :=
  ⟨_, (serviceMachine (onlyRule starveOnDegraded 8)).reachable_get {}
    [finds .degraded .degraded 5, finds .degraded .degraded 6] rfl, by decide⟩

end Solar.Supervisor
