/-
This file is the run theory every state machine of the development rests on: a
machine takes one labelled step at a time, a step may be refused, and a run is
the list of labels it takes. A property of every reachable state is proved by
one rule, `ReachableWhere.invariant`: it holds at the start and every step that
meets the run's condition keeps it.

The condition is a predicate of the state a step is taken from and of the
step's label. The unconditional notion is the condition that is always met.
-/

import Mathlib

namespace Transition

open List Option

/-- A labelled machine. A step is partial: `none` means the label is not enabled. -/
structure Machine (State Label : Type) where
  step : State → Label → Option State

namespace Machine

variable {State Label : Type} (machine : Machine State Label)

/-- Take the labels of a run one after another. -/
def run : State → List Label → Option State
  | state, [] => some state
  | state, label :: rest => (machine.step state label).bind fun next => run next rest

/-- Every step of the run is taken in a state that meets the condition. -/
def Admissible (condition : State → Label → Prop) : State → List Label → Prop
  | _, [] => True
  | state, label :: rest =>
      condition state label ∧
        ∀ next, machine.step state label = some next → Admissible condition next rest

/-- The states a run reaches from a start. -/
def Reachable (start state : State) : Prop :=
  ∃ labels, machine.run start labels = some state

/-- The states reached by the runs whose every step meets the condition. -/
def ReachableWhere (condition : State → Label → Prop) (start state : State) : Prop :=
  ∃ labels, machine.Admissible condition start labels ∧ machine.run start labels = some state

/-- Whether a run meets a decidable condition is decided by taking it. -/
instance decidableAdmissible (condition : State → Label → Prop)
    [decidable : ∀ state label, Decidable (condition state label)] :
    ∀ (state : State) (labels : List Label), Decidable (machine.Admissible condition state labels)
  | _, [] => isTrue trivial
  | state, label :: rest =>
      have first : Decidable (condition state label) := decidable state label
      have later : Decidable (∀ next, machine.step state label = some next →
          machine.Admissible condition next rest) :=
        match machine.step state label with
        | none => isTrue nofun
        | some next =>
            have := decidableAdmissible condition next rest
            decidable_of_iff (machine.Admissible condition next rest)
              ⟨fun holds _ same => some.inj same ▸ holds, fun holds => holds next rfl⟩
      @instDecidableAnd _ _ first later

variable {condition : State → Label → Prop} {labels : List Label} {state final : State}

theorem Admissible.step {machine : Machine State Label} {next : State} {label : Label}
    {rest : List Label} (first : condition state label)
    (stepped : machine.step state label = some next)
    (later : machine.Admissible condition next rest) :
    machine.Admissible condition state (label :: rest) :=
  ⟨first, fun _ same => some.inj (stepped.symm.trans same) ▸ later⟩

theorem run_cons (state : State) (label : Label) (rest : List Label) :
    machine.run state (label :: rest) =
      (machine.step state label).bind fun next => machine.run next rest := rfl

theorem run_cons_eq_some {label : Label} {rest : List Label}
    (ran : machine.run state (label :: rest) = some final) :
    ∃ next, machine.step state label = some next ∧ machine.run next rest = some final :=
  bind_eq_some_iff.mp ran

theorem run_append (state : State) (first second : List Label) :
    machine.run state (first ++ second) =
      (machine.run state first).bind fun middle => machine.run middle second := by
  induction first generalizing state with
  | nil => rfl
  | cons label rest ih =>
    rw [cons_append, run_cons, run_cons, bind_assoc]
    exact congrArg _ (funext fun next => ih next)

theorem reachableWhere_get (condition : State → Label → Prop) (start : State)
    (labels : List Label) (admissible : machine.Admissible condition start labels)
    (defined : (machine.run start labels).isSome = true) :
    machine.ReachableWhere condition start ((machine.run start labels).get defined) :=
  ⟨labels, admissible, (some_get defined).symm⟩

theorem run_invariant {invariant : State → Prop}
    (keeps : ∀ state label next, invariant state → condition state label →
      machine.step state label = some next → invariant next)
    {start : State} (initial : invariant start)
    (admissible : machine.Admissible condition start labels)
    (ran : machine.run start labels = some final) : invariant final := by
  induction labels generalizing start with
  | nil => exact some.inj ran ▸ initial
  | cons label rest ih =>
    obtain ⟨next, stepped, continued⟩ := machine.run_cons_eq_some ran
    exact ih (keeps start label next initial admissible.1 stepped)
      (admissible.2 next stepped) continued

theorem ReachableWhere.invariant {machine : Machine State Label} {start : State}
    (reached : machine.ReachableWhere condition start state) (invariant : State → Prop)
    (initial : invariant start)
    (keeps : ∀ state label next, invariant state → condition state label →
      machine.step state label = some next → invariant next) : invariant state := by
  obtain ⟨labels, admissible, ran⟩ := reached
  exact machine.run_invariant keeps initial admissible ran

theorem admissible_true (state : State) (labels : List Label) :
    machine.Admissible (fun _ _ => True) state labels := by
  induction labels generalizing state with
  | nil => trivial
  | cons label rest ih => exact ⟨trivial, fun next _ => ih next⟩

theorem Reachable.invariant {machine : Machine State Label} {start : State}
    (reached : machine.Reachable start state) (invariant : State → Prop) (initial : invariant start)
    (keeps : ∀ state label next, invariant state → machine.step state label = some next →
      invariant next) : invariant state := by
  obtain ⟨labels, ran⟩ := reached
  have everywhere : machine.ReachableWhere (fun _ _ => True) start state :=
    ⟨labels, machine.admissible_true start labels, ran⟩
  exact everywhere.invariant invariant initial fun state label next holds _ =>
    keeps state label next holds

theorem length_run_le {invariant : State → Prop} {measure : State → Nat}
    (keeps : ∀ state label next, invariant state → condition state label →
      machine.step state label = some next → invariant next ∧ measure next < measure state)
    {start : State} (initial : invariant start)
    (admissible : machine.Admissible condition start labels)
    (ran : machine.run start labels = some final) :
    labels.length + measure final ≤ measure start := by
  induction labels generalizing start with
  | nil =>
    cases ran
    exact Nat.le_of_eq (Nat.zero_add _)
  | cons label rest ih =>
    obtain ⟨next, stepped, continued⟩ := machine.run_cons_eq_some ran
    obtain ⟨kept, smaller⟩ := keeps start label next initial admissible.1 stepped
    have later := ih kept (admissible.2 next stepped) continued
    rw [length_cons]
    omega

/-- A property holds in every state on the way of a run. -/
def Throughout (property : State → Prop) : State → List Label → Prop
  | state, [] => property state
  | state, label :: rest =>
      property state ∧ ∀ next, machine.step state label = some next → Throughout property next rest

theorem Throughout.start {machine : Machine State Label} {property : State → Prop}
    (throughout : machine.Throughout property state labels) : property state := by
  cases labels with
  | nil => exact throughout
  | cons label rest => exact throughout.1

/-- The rule for an exact condition: if a step keeps the property exactly where it meets the
condition, then a run keeps it throughout exactly if its steps all meet the condition. -/
theorem throughout_iff_admissible {property motive : State → Prop}
    (keeps : ∀ state label next, motive state → property state →
      machine.step state label = some next →
      motive next ∧ (property next ↔ condition state label))
    {start : State} (sound : motive start) (initial : property start)
    (ran : machine.run start labels = some final) :
    machine.Throughout property start labels ↔ machine.Admissible condition start labels := by
  induction labels generalizing start with
  | nil => exact ⟨fun _ => trivial, fun _ => initial⟩
  | cons label rest ih =>
    obtain ⟨next, stepped, continued⟩ := machine.run_cons_eq_some ran
    obtain ⟨after, exact_⟩ := keeps start label next sound initial stepped
    constructor
    · rintro ⟨_, later⟩
      have kept := (later next stepped).start
      exact .step (exact_.mp kept) stepped
        ((ih after kept continued).mp (later next stepped))
    · rintro ⟨first, later⟩
      have kept := exact_.mpr first
      refine ⟨initial, fun other same => ?_⟩
      obtain ⟨⟩ := stepped.symm.trans same
      exact (ih after kept continued).mpr (later next stepped)

/-- What an observer writes down along a run. -/
def observed {Event : Type} (observe : State → Label → List Event) : State → List Label → List Event
  | _, [] => []
  | state, label :: rest =>
      observe state label ++
        ((machine.step state label).map fun next => observed observe next rest).getD []

theorem run_observed {Event : Type} {observe : State → Label → List Event}
    {motive : List Event → State → Prop}
    (keeps : ∀ past state label next, motive past state →
      machine.step state label = some next → motive (past ++ observe state label) next)
    {start : State} {past : List Event} (initial : motive past start)
    (ran : machine.run start labels = some final) :
    motive (past ++ machine.observed observe start labels) final := by
  induction labels generalizing start past with
  | nil =>
    rw [observed, append_nil]
    exact some.inj ran ▸ initial
  | cons label rest ih =>
    obtain ⟨next, stepped, continued⟩ := machine.run_cons_eq_some ran
    have later := ih (keeps past start label next initial stepped) continued
    rw [append_assoc] at later
    rw [observed, stepped]
    exact later

theorem reachable_get (start : State) (labels : List Label)
    (defined : (machine.run start labels).isSome = true) :
    machine.Reachable start ((machine.run start labels).get defined) :=
  ⟨labels, (some_get defined).symm⟩

end Machine

end Transition
