/-
This file models a periodic registration (its activation, the handler that the work
queue runs when the timer of the item runs out, and the calls that stop it) and proves
that the releases of a fixed rate do not drift. The loop that catches up adds whole
periods, so that the next release stays on the grid of the first one; it stops at the
first release behind the time it was given, and counts what it passed over.

A tick is a signed word, and a sum that leaves the word has no value: a step that
computes one is not taken. Of the records the source keeps for diagnostics, the
counts of missed releases and of overruns are kept. A registration that no longer
accepts is left as it is when its handler returns: its next release may then lie in
the past.
-/

import Solar.Execution.Counted

namespace Solar.Execution

open Option

/-! ### Declarations -/

namespace Periodic

inductive Cadence
  | fixedRate | fixedDelay

inductive InitialRelease
  | startAfterPeriod | startImmediately

end Periodic

/-- The number of ticks, if the word of a tick holds it. -/
def tick? (value : Int) : Option Int :=
  if -2 ^ 63 ≤ value ∧ value < 2 ^ 63 then some value else none

/-- What a `Periodic` registration declares. The period is given in ticks, as `to_ticks_ceil` has
it: a declared duration is positive, and so is its number of ticks. -/
structure PeriodicTraits where
  period : Int
  period_pos : 0 < period
  cadence : Periodic.Cadence := .fixedRate
  initialRelease : Periodic.InitialRelease := .startAfterPeriod
  failurePolicy : Failure.Policy := .recordAndContinue

/-- The loop of `continue_registration`: the first ideal release behind `now`, and the count of
those that were passed over on the way. -/
def PeriodicTraits.catchUp (traits : PeriodicTraits) (now release : Int) (missed : UInt64) :
    Option (Int × UInt64) :=
  if release ≤ now then
    match later : tick? (release + traits.period) with
    | none => none
    | some next => traits.catchUp now next (missed + 1)
  else some (release, missed)
termination_by (now + 1 - release).toNat
decreasing_by
  have positive := traits.period_pos
  unfold tick? at later
  split at later
  · cases later
    omega
  · exact nomatch later

/-! ### State -/

/-- Where the work queue is with the item: not running it, in the behavior, or behind
`finish_invocation`. -/
inductive PeriodicPhase
  | idle | invoking | continuing
  deriving DecidableEq

/-- The state of a registration. `scheduled` is the delay its work item was last scheduled with and
has not run out. The last three fields only remember the activation: its first release, the missed
releases that were counted before it, and how many completions it has continued from. -/
structure PeriodicRegistration (traits : PeriodicTraits) where
  accepting : Bool := false
  suspended : Bool := false
  inFlight : Bool := false
  scheduled : Option Int := none
  handler : PeriodicPhase := .idle
  nextRelease : Int := 0
  missedReleases : UInt64 := 0
  overruns : UInt64 := 0
  firstRelease : Int := 0
  missedBefore : UInt64 := 0
  continued : Nat := 0

/-- A step. The flag of an activation and of a completion says whether the kernel takes the item. -/
inductive PeriodicLabel
  | activate (now : Int) (granted : Bool)
  | start
  | finish (succeeds : Bool)
  | continueRegistration (now : Int) (granted : Bool)
  | requestStop
  | cancel

namespace PeriodicRegistration

variable {traits : PeriodicTraits} (state : PeriodicRegistration traits)

/-! ### Steps -/

/-- `work.schedule`; a registration whose item is refused accepts no longer. -/
def schedule (delay : Int) (granted : Bool) : PeriodicRegistration traits :=
  if granted then { state with scheduled := some delay } else { state with accepting := false }

/-- The registration accepts, and its first ideal release is set. -/
def enable (release : Int) : PeriodicRegistration traits :=
  { state with
    accepting := true
    nextRelease := release
    firstRelease := release
    missedBefore := state.missedReleases
    continued := 0 }

/-- `activate_registration`. -/
def activate (now : Int) (granted : Bool) : Option (PeriodicRegistration traits) :=
  match traits.initialRelease with
  | .startImmediately => some ((state.enable now).schedule 0 granted)
  | .startAfterPeriod =>
      (tick? (now + traits.period)).map fun release =>
        (state.enable release).schedule traits.period granted

/-- `finish_invocation`. -/
def finish (succeeds : Bool) : PeriodicRegistration traits :=
  if succeeds = false ∧ traits.failurePolicy = .suspend then
    { state with
      handler := .continuing, inFlight := false, suspended := true, accepting := false }
  else { state with handler := .continuing, inFlight := false }

/-- The FixedDelay branch of `continue_registration`. -/
def continueDelay (now : Int) (granted : Bool) : Option (PeriodicRegistration traits) :=
  (tick? (now + traits.period)).map fun release =>
    { state with nextRelease := release, continued := state.continued + 1 }.schedule traits.period
      granted

/-- The FixedRate branch of `continue_registration`. -/
def continueRate (now : Int) (granted : Bool) : Option (PeriodicRegistration traits) :=
  (tick? (state.nextRelease + traits.period)).bind fun ideal =>
    (traits.catchUp now ideal 0).bind fun caught =>
      (tick? (caught.1 - now)).map fun delay =>
        { state with
          nextRelease := caught.1
          missedReleases :=
            if caught.2 = 0 then state.missedReleases else state.missedReleases + caught.2
          overruns := if caught.2 = 0 then state.overruns else state.overruns + 1
          continued := state.continued + 1 }.schedule delay granted

/-- `continue_registration`. -/
def continueRegistration (now : Int) (granted : Bool) : Option (PeriodicRegistration traits) :=
  let returned := { state with handler := .idle }
  if state.accepting = false then some returned
  else
    match traits.cadence with
    | .fixedDelay => returned.continueDelay now granted
    | .fixedRate => returned.continueRate now granted

/-- One step of the system. -/
def step : PeriodicLabel → Option (PeriodicRegistration traits)
  | .activate now granted => (tick? now).bind fun now => state.activate now granted
  | .start =>
      if state.scheduled.isSome ∧ state.handler = .idle then
        some { state with scheduled := none, handler := .invoking, inFlight := true }
      else none
  | .finish succeeds => if state.handler = .invoking then some (state.finish succeeds) else none
  | .continueRegistration now granted =>
      if state.handler = .continuing then
        (tick? now).bind fun now => state.continueRegistration now granted
      else none
  | .requestStop => some { state with accepting := false }
  | .cancel => some { state with scheduled := none }

end PeriodicRegistration

/-- The step system of a periodic registration. -/
def periodicMachine (traits : PeriodicTraits) :
    Transition.Machine (PeriodicRegistration traits) PeriodicLabel :=
  ⟨PeriodicRegistration.step⟩

variable {traits : PeriodicTraits}

/-! ### Ticks -/

theorem tick?_eq_some {value tick : Int} (fits : tick? value = some tick) :
    tick = value ∧ -2 ^ 63 ≤ tick ∧ tick < 2 ^ 63 := by
  unfold tick? at fits
  split at fits
  · rename_i bounds
    obtain ⟨⟩ := fits
    exact ⟨rfl, bounds⟩
  · exact nomatch fits

theorem tick?_of_bounds {value : Int} (lower : -2 ^ 63 ≤ value) (upper : value < 2 ^ 63) :
    tick? value = some value := if_pos ⟨lower, upper⟩

/-! ### Catching up -/

/-- The loop adds whole periods until the release is behind `now`, and counts them. -/
theorem catchUp_spec {now release caught : Int} {missed count : UInt64}
    (bounded : release < 2 ^ 63)
    (ran : traits.catchUp now release missed = some (caught, count)) :
    ∃ passed : Nat, caught = release + passed * traits.period ∧
      count = missed + UInt64.ofNat passed ∧ now < caught ∧ caught < 2 ^ 63 ∧
      (passed ≠ 0 → caught ≤ now + traits.period) := by
  induction release, missed using PeriodicTraits.catchUp.induct traits now with
  | case1 release missed due refused =>
    rw [PeriodicTraits.catchUp, if_pos due] at ran
    split at ran
    · exact nomatch ran
    · rename_i later
      rw [refused] at later
      exact nomatch later
  | case2 release missed due next later ih =>
    rw [PeriodicTraits.catchUp, if_pos due] at ran
    split at ran
    · exact nomatch ran
    · rename_i other same
      obtain ⟨⟩ := later.symm.trans same
      obtain ⟨rfl, -, upper⟩ := tick?_eq_some later
      obtain ⟨passed, reached, rfl, behind, fits, near⟩ := ih upper ran
      refine ⟨passed + 1, ?_, ?_, behind, fits, fun _ => ?_⟩
      · rw [reached]
        push_cast
        ring
      · rw [UInt64.ofNat_add, UInt64.add_assoc, UInt64.add_comm (UInt64.ofNat passed)]
        rfl
      · by_cases first : passed = 0
        · rw [reached, first]
          push_cast
          linarith
        · exact near first
  | case3 release missed ahead =>
    rw [PeriodicTraits.catchUp, if_neg ahead] at ran
    cases ran
    refine ⟨0, ?_, ?_, Int.not_le.mp ahead, bounded, fun some => absurd rfl some⟩
    · ring
    · exact (UInt64.add_zero _).symm

theorem catchUp_isSome {now release : Int} {missed : UInt64} (lower : -2 ^ 63 ≤ release)
    (fits : now + traits.period < 2 ^ 63) : (traits.catchUp now release missed).isSome = true := by
  have positive := traits.period_pos
  induction release, missed using PeriodicTraits.catchUp.induct traits now with
  | case1 release missed due refused =>
    rw [tick?_of_bounds (by linarith) (by linarith)] at refused
    exact nomatch refused
  | case2 release missed due next later ih =>
    rw [PeriodicTraits.catchUp, if_pos due]
    split
    · rename_i refused
      rw [later] at refused
      exact nomatch refused
    · rename_i other same
      obtain ⟨⟩ := later.symm.trans same
      exact ih (tick?_eq_some later).2.1
  | case3 release missed ahead =>
    rw [PeriodicTraits.catchUp, if_neg ahead]
    rfl

/-! ### The grid -/

/-- The ideal releases between two: the multiples of the period away from the first one. -/
def PeriodicTraits.skipped (traits : PeriodicTraits) (first before after : Int) : Set Int :=
  {release | before < release ∧ release < after ∧ release ≡ first [ZMOD traits.period]}

/-- Between a release and one that is some periods later lies one release for each period but the
last. -/
theorem ncard_skipped {first before : Int} (aligned : before ≡ first [ZMOD traits.period])
    (passed : Nat) :
    (traits.skipped first before (before + (passed + 1) * traits.period)).ncard = passed := by
  have positive := traits.period_pos
  let release (index : Nat) : Int := before + (index + 1) * traits.period
  have image : traits.skipped first before (before + (passed + 1) * traits.period) =
      ((Finset.range passed).image release : Finset Int) := by
    ext time
    simp only [PeriodicTraits.skipped, Set.mem_ofPred_eq, Finset.coe_image, Finset.coe_range,
      Set.mem_image, Set.mem_Iio, release]
    constructor
    · rintro ⟨after, early, grid⟩
      obtain ⟨periods, distance⟩ := (aligned.trans grid.symm).dvd
      have some : 0 < periods := by
        refine (mul_pos_iff_of_pos_right positive).mp ?_
        linarith [mul_comm traits.period periods]
      have few : periods < passed + 1 := by
        refine lt_of_mul_lt_mul_right (a := traits.period) ?_ positive.le
        linarith [mul_comm traits.period periods]
      refine ⟨(periods - 1).toNat, by omega, ?_⟩
      rw [Int.toNat_of_nonneg (by omega)]
      linarith [mul_comm traits.period periods, sub_add_cancel periods 1]
    · rintro ⟨index, early, rfl⟩
      refine ⟨?_, ?_, ?_⟩
      · have : 0 < ((index : Int) + 1) * traits.period := by positivity
        linarith
      · have : ((index : Int) + 1) * traits.period < (passed + 1) * traits.period :=
          mul_lt_mul_of_pos_right (by exact_mod_cast Nat.succ_lt_succ early) positive
        linarith
      · exact (Int.modEq_iff_dvd.mpr ⟨-(index + 1), by ring⟩).trans aligned
  rw [image, Set.ncard_coe_finset, Finset.card_image_of_injective, Finset.card_range]
  intro index other same
  have equal : ((index : Int) + 1) * traits.period = (other + 1) * traits.period :=
    add_left_cancel same
  exact_mod_cast add_right_cancel (mul_right_cancel₀ positive.ne' equal)

namespace PeriodicRegistration

variable {state next : PeriodicRegistration traits} {label : PeriodicLabel}

/-! ### What a step does to the releases -/

section

variable (state) (delay : Int) (granted)

@[simp] theorem schedule_nextRelease :
    (state.schedule delay granted).nextRelease = state.nextRelease := by
  unfold schedule
  split <;> rfl

@[simp] theorem schedule_firstRelease :
    (state.schedule delay granted).firstRelease = state.firstRelease := by
  unfold schedule
  split <;> rfl

@[simp] theorem schedule_missedReleases :
    (state.schedule delay granted).missedReleases = state.missedReleases := by
  unfold schedule
  split <;> rfl

@[simp] theorem schedule_missedBefore :
    (state.schedule delay granted).missedBefore = state.missedBefore := by
  unfold schedule
  split <;> rfl

@[simp] theorem schedule_continued :
    (state.schedule delay granted).continued = state.continued := by
  unfold schedule
  split <;> rfl

end

/-- The releases of a registration and their count stay as they are. -/
structure Rests (state next : PeriodicRegistration traits) : Prop where
  nextRelease : next.nextRelease = state.nextRelease
  firstRelease : next.firstRelease = state.firstRelease
  missedReleases : next.missedReleases = state.missedReleases
  missedBefore : next.missedBefore = state.missedBefore
  continued : next.continued = state.continued

/-- The next release moves on by one period for the completion and one for each that is missed. -/
structure Advances (state next : PeriodicRegistration traits) (now : Int) (passed : Nat) : Prop where
  nextRelease : next.nextRelease = state.nextRelease + (passed + 1) * traits.period
  later : now < next.nextRelease
  near : passed ≠ 0 → next.nextRelease ≤ now + traits.period
  fits : next.nextRelease < 2 ^ 63
  firstRelease : next.firstRelease = state.firstRelease
  missedReleases : next.missedReleases = state.missedReleases + UInt64.ofNat passed
  missedBefore : next.missedBefore = state.missedBefore
  continued : next.continued = state.continued + 1

variable {now : Int} {granted : Bool}

theorem continueRate_eq_some (ran : state.continueRate now granted = some next) :
    ∃ passed, state.Advances next now passed := by
  obtain ⟨ideal, fits, ran⟩ := bind_eq_some_iff.mp ran
  obtain ⟨⟨caught, count⟩, reached, ran⟩ := bind_eq_some_iff.mp ran
  obtain ⟨delay, -, rfl⟩ := map_eq_some_iff.mp ran
  obtain ⟨rfl, -, upper⟩ := tick?_eq_some fits
  obtain ⟨passed, rfl, rfl, behind, bounded, near⟩ := catchUp_spec upper reached
  refine ⟨passed, ?_, ?_, ?_, ?_, schedule_firstRelease _ _ _, ?_, schedule_missedBefore _ _ _,
    schedule_continued _ _ _⟩
  · rw [schedule_nextRelease]
    ring
  · rw [schedule_nextRelease]
    exact behind
  · rw [schedule_nextRelease]
    exact near
  · rw [schedule_nextRelease]
    exact bounded
  · rw [schedule_missedReleases, UInt64.zero_add]
    dsimp only
    split
    · rename_i none
      rw [none, UInt64.add_zero]
    · rfl

theorem continueRegistration_eq_some (rate : traits.cadence = .fixedRate)
    (ran : state.continueRegistration now granted = some next) :
    (state.accepting = false ∧ state.Rests next) ∨
      state.accepting = true ∧ ∃ passed, state.Advances next now passed := by
  unfold continueRegistration at ran
  rw [rate] at ran
  split at ran
  · rename_i closed
    cases ran
    exact .inl ⟨closed, rfl, rfl, rfl, rfl, rfl⟩
  · rename_i open_
    obtain ⟨passed, advances⟩ := continueRate_eq_some ran
    exact .inr ⟨eq_true_of_ne_false open_, passed, { advances with
        nextRelease := advances.nextRelease
        missedReleases := advances.missedReleases }⟩

theorem activate_eq_some (clock : -2 ^ 63 ≤ now ∧ now < 2 ^ 63)
    (ran : state.activate now granted = some next) :
    -2 ^ 63 ≤ next.firstRelease ∧ next.nextRelease < 2 ^ 63 ∧
      next.nextRelease = next.firstRelease ∧ next.missedReleases = next.missedBefore ∧
      next.continued = 0 := by
  unfold activate at ran
  split at ran
  · cases ran
    rw [schedule_nextRelease, schedule_firstRelease, schedule_missedReleases,
      schedule_missedBefore, schedule_continued]
    exact ⟨clock.1, clock.2, rfl, rfl, rfl⟩
  · obtain ⟨release, fits, rfl⟩ := map_eq_some_iff.mp ran
    rw [schedule_nextRelease, schedule_firstRelease, schedule_missedReleases,
      schedule_missedBefore, schedule_continued]
    exact ⟨(tick?_eq_some fits).2.1, (tick?_eq_some fits).2.2, rfl, rfl, rfl⟩

/-! ### The releases of a run -/

/-- The next release is on the grid of the first one, as far from it as completions were continued
from and releases were missed. -/
structure Kept (state : PeriodicRegistration traits) : Prop where
  fits : -2 ^ 63 ≤ state.firstRelease ∧ state.nextRelease < 2 ^ 63
  counted : ∃ passed : Nat, state.missedReleases = state.missedBefore + UInt64.ofNat passed ∧
    state.nextRelease = state.firstRelease + (state.continued + passed) * traits.period

theorem kept_initial : Kept ({} : PeriodicRegistration traits) where
  fits := ⟨by norm_num, by norm_num⟩
  counted := ⟨0, rfl, by simp⟩

theorem Kept.rests (kept : state.Kept) (rests : state.Rests next) : next.Kept where
  fits := by
    rw [rests.firstRelease, rests.nextRelease]
    exact kept.fits
  counted := by
    rw [rests.firstRelease, rests.nextRelease, rests.missedReleases, rests.missedBefore,
      rests.continued]
    exact kept.counted

variable {passed : Nat}

theorem Kept.advances (kept : state.Kept)
    (advances : state.Advances next now passed) : next.Kept where
  fits := by
    rw [advances.firstRelease]
    exact ⟨kept.fits.1, advances.fits⟩
  counted := by
    obtain ⟨before, missed, reached⟩ := kept.counted
    refine ⟨before + passed, ?_, ?_⟩
    · rw [advances.missedReleases, advances.missedBefore, missed, UInt64.ofNat_add,
        UInt64.add_assoc]
    · rw [advances.nextRelease, advances.firstRelease, advances.continued, reached]
      push_cast
      ring

/-- Every step keeps the releases at the fixed rate. -/
theorem Kept.step (rate : traits.cadence = .fixedRate) (kept : state.Kept)
    (ran : state.step label = some next) : next.Kept := by
  cases label with
  | activate now granted =>
    obtain ⟨clock, reading, ran⟩ := bind_eq_some_iff.mp ran
    obtain ⟨lower, upper, same, missed, none⟩ := activate_eq_some (tick?_eq_some reading).2 ran
    exact ⟨⟨lower, upper⟩, 0, by rw [missed]; exact (UInt64.add_zero _).symm,
      by rw [same, none]; simp⟩
  | start =>
    unfold PeriodicRegistration.step at ran
    dsimp only at ran
    split at ran
    · cases ran
      exact kept.rests ⟨rfl, rfl, rfl, rfl, rfl⟩
    · exact nomatch ran
  | finish succeeds =>
    unfold PeriodicRegistration.step at ran
    dsimp only at ran
    split at ran
    · cases ran
      unfold finish
      split
      · exact kept.rests ⟨rfl, rfl, rfl, rfl, rfl⟩
      · exact kept.rests ⟨rfl, rfl, rfl, rfl, rfl⟩
    · exact nomatch ran
  | continueRegistration now granted =>
    unfold PeriodicRegistration.step at ran
    dsimp only at ran
    split at ran
    · obtain ⟨clock, -, ran⟩ := bind_eq_some_iff.mp ran
      obtain ⟨-, rests⟩ | ⟨-, passed, advances⟩ := continueRegistration_eq_some rate ran
      · exact kept.rests rests
      · exact kept.advances advances
    · exact nomatch ran
  | _ =>
    cases ran
    exact kept.rests ⟨rfl, rfl, rfl, rfl, rfl⟩

theorem kept_of_reachable (rate : traits.cadence = .fixedRate)
    (reached : (periodicMachine traits).Reachable {} state) : state.Kept :=
  reached.invariant Kept kept_initial fun _ _ _ kept ran => kept.step rate ran

theorem Kept.toNat_missed (kept : state.Kept)
    (missed : state.missedReleases = state.missedBefore + UInt64.ofNat passed)
    (reached : state.nextRelease =
      state.firstRelease + (state.continued + passed) * traits.period) :
    (state.missedReleases - state.missedBefore).toNat = passed := by
  have positive := traits.period_pos
  obtain ⟨lower, upper⟩ := kept.fits
  have bound : ((state.continued : Int) + passed) * 1 ≤
      (state.continued + passed) * traits.period :=
    mul_le_mul_of_nonneg_left positive (by positivity)
  have small : passed < 2 ^ 64 := by omega
  rw [missed, UInt64.add_comm, UInt64.add_sub_cancel, UInt64.toNat_ofNat', Nat.mod_eq_of_lt small]

/-- What a completion at `now` leaves behind: the next release is on the grid, behind `now` and not
a period later than needed; the releases between the last one and it are counted as missed; and
the completions and the missed releases together say where it is. -/
structure StaysOnGrid (state next : PeriodicRegistration traits) (now : Int) : Prop where
  congruent : next.nextRelease ≡ next.firstRelease [ZMOD traits.period]
  later : now < next.nextRelease
  near : state.nextRelease ≤ now → next.nextRelease ≤ now + traits.period
  missed : next.missedReleases = state.missedReleases + UInt64.ofNat
    (traits.skipped next.firstRelease state.nextRelease next.nextRelease).ncard
  exact : next.nextRelease = next.firstRelease +
    (next.continued + (next.missedReleases - next.missedBefore).toNat) * traits.period

theorem Kept.congruent (kept : state.Kept) :
    state.nextRelease ≡ state.firstRelease [ZMOD traits.period] := by
  obtain ⟨passed, -, reached⟩ := kept.counted
  rw [reached]
  exact Int.modEq_iff_dvd.mpr ⟨-(state.continued + passed), by ring⟩

theorem Kept.staysOnGrid (kept : state.Kept)
    (advances : state.Advances next now passed) : state.StaysOnGrid next now where
  congruent := (kept.advances advances).congruent
  later := advances.later
  near due := by
    by_cases none : passed = 0
    · rw [advances.nextRelease, none]
      push_cast
      linarith
    · exact advances.near none
  missed := by
    rw [advances.nextRelease, advances.firstRelease, ncard_skipped kept.congruent,
      advances.missedReleases]
  exact := by
    obtain ⟨total, missed, reached⟩ := (kept.advances advances).counted
    rw [(kept.advances advances).toNat_missed missed reached]
    exact reached

/-- A completion is continued from whenever the word of a tick holds the sums. -/
theorem continueRegistration_isSome (rate : traits.cadence = .fixedRate) (kept : state.Kept)
    (clock : 0 ≤ now) (fits : now + traits.period < 2 ^ 63)
    (ideal : state.nextRelease + traits.period < 2 ^ 63) :
    (state.continueRegistration now granted).isSome = true := by
  have positive := traits.period_pos
  have lower : -2 ^ 63 ≤ state.nextRelease + traits.period := by
    obtain ⟨passed, -, reached⟩ := kept.counted
    have := kept.fits.1
    have : 0 ≤ ((state.continued : Int) + passed) * traits.period := by positivity
    linarith
  unfold continueRegistration
  rw [rate]
  split
  · rfl
  · unfold continueRate
    dsimp only
    rw [tick?_of_bounds lower ideal, bind_some]
    obtain ⟨⟨caught, count⟩, reached⟩ := isSome_iff_exists.mp
      (@catchUp_isSome traits now (state.nextRelease + traits.period) 0 lower fits)
    obtain ⟨passed, -, -, behind, bounded, -⟩ := catchUp_spec ideal reached
    rw [reached, bind_some, tick?_of_bounds (by linarith) (by linarith)]
    rfl

/-- In every run of a fixed-rate registration, a completion that finds it accepting leaves the next
release on the grid, and there is such a completion wherever ticks can say when. -/
theorem fixed_rate_does_not_drift (rate : traits.cadence = .fixedRate)
    (reached : (periodicMachine traits).Reachable {} state) (accepts : state.accepting = true)
    (returned : state.handler = .continuing) (now : Int) (granted : Bool) :
    (∀ next, state.step (.continueRegistration now granted) = some next →
      state.StaysOnGrid next now) ∧
    (0 ≤ now → now + traits.period < 2 ^ 63 → state.nextRelease + traits.period < 2 ^ 63 →
      (state.step (.continueRegistration now granted)).isSome = true) := by
  have kept := kept_of_reachable rate reached
  have positive := traits.period_pos
  unfold PeriodicRegistration.step
  dsimp only
  rw [if_pos returned]
  constructor
  · intro next ran
    obtain ⟨clock, reading, continues⟩ := bind_eq_some_iff.mp ran
    rw [(tick?_eq_some reading).1] at continues
    obtain ⟨closed, -⟩ | ⟨-, passed, advances⟩ := continueRegistration_eq_some rate continues
    · rw [accepts] at closed
      exact nomatch closed
    · exact kept.staysOnGrid advances
  · intro clock fits ideal
    rw [tick?_of_bounds (by linarith) (by linarith)]
    exact continueRegistration_isSome rate kept clock fits ideal

/-! ### A registration with a period of ten ticks -/

/-- It starts immediately. -/
def tenTicks : PeriodicTraits where
  period := 10
  period_pos := by decide
  initialRelease := .startImmediately

/-- It is activated at time 0, and its first invocation completes. -/
def invoked : List PeriodicLabel := [.activate 0 true, .start, .finish true]

theorem fixed_rate_does_not_drift_late :
    ∃ state next, (periodicMachine tenTicks).run {} invoked = some state ∧
      state.step (.continueRegistration 25 true) = some next ∧ state.StaysOnGrid next 25 := by
  obtain ⟨stays, continues⟩ := @fixed_rate_does_not_drift tenTicks _ rfl
    ((periodicMachine tenTicks).reachable_get {} invoked (by decide)) (by decide) (by decide) 25 true
  obtain ⟨next, ran⟩ := isSome_iff_exists.mp (continues (by decide) (by decide) (by decide))
  exact ⟨_, next, (some_get _).symm, ran, stays next ran⟩

/-- The registration is stopped while its handler runs. The release at time 0 stays the next one,
though the handler returns at time 5. -/
theorem stopped_release_stays_behind :
    ∃ state next, (periodicMachine tenTicks).run {} (invoked ++ [.requestStop]) = some state ∧
      state.step (.continueRegistration 5 true) = some next ∧ next.nextRelease ≤ 5 ∧
      ¬ state.StaysOnGrid next 5 := by
  refine ⟨_, _, rfl, rfl, by decide, fun stays => ?_⟩
  exact absurd stays.later (by decide)

end PeriodicRegistration

end Solar.Execution
