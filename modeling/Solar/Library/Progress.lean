/-
This file is the theory of progress of a state machine: which states the runs of some of
its labels lead to. The labels are those that may be relied on, such as the steps of the
machine's own threads with answers that are good. A chain of stages is put together with
`Leads.trans`, one stage at a time with `Leads.step`; a loop goes down a measure with
`Leads.descend`.
-/

import Solar.Library.Transition

namespace Transition.Machine

variable {State Label : Type}

/-- A run of relied labels leads to a state that meets the goal. -/
def Leads (machine : Machine State Label) (relied : Label → Prop) (goal : State → Prop)
    (state : State) : Prop :=
  ∃ labels final, (∀ label ∈ labels, relied label) ∧ machine.run state labels = some final ∧
    goal final

namespace Leads

variable {machine : Machine State Label} {relied : Label → Prop} {goal : State → Prop}
  {state next : State}

theorem now (reached : goal state) : machine.Leads relied goal state :=
  ⟨[], state, nofun, rfl, reached⟩

theorem step (label : Label) (own : relied label) (stepped : machine.step state label = some next)
    (later : machine.Leads relied goal next) : machine.Leads relied goal state := by
  obtain ⟨labels, final, each, ran, reached⟩ := later
  refine ⟨label :: labels, final, ?_, ?_, reached⟩
  · intro other member
    rcases List.mem_cons.mp member with rfl | rest
    · exact own
    · exact each other rest
  · rw [run_cons, stepped]
    exact ran

theorem trans {between : State → Prop} (first : machine.Leads relied between state)
    (second : ∀ middle, between middle → machine.Leads relied goal middle) :
    machine.Leads relied goal state := by
  obtain ⟨labels, middle, each, ran, arrived⟩ := first
  obtain ⟨later, final, all, runs, reached⟩ := second middle arrived
  refine ⟨labels ++ later, final, ?_, ?_, reached⟩
  · intro label member
    exact (List.mem_append.mp member).elim (each label) (all label)
  · rw [run_append, ran]
    exact runs

theorem descend {invariant : State → Prop} (measure : State → Nat)
    (moves : ∀ current, invariant current → goal current ∨ ∃ label next, relied label ∧
      machine.step current label = some next ∧ invariant next ∧ measure next < measure current)
    (initial : invariant state) : machine.Leads relied goal state := by
  induction bound : measure state using Nat.strongRecOn generalizing state with
  | _ bound ih =>
    rcases moves state initial with met | ⟨label, next, own, stepped, kept, nearer⟩
    · exact now met
    · exact step label own stepped (ih _ (bound ▸ nearer) kept rfl)

end Leads

end Transition.Machine
