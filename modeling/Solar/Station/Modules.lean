/-
This file is about the modules of the station and the instances that live. An instance is
registered after its start was awaited, and removed before its close is. Two calls that
enable a module at once both start an instance, and the second takes the place of the
first, which nobody closes; a call that enables one while the manager closes leaves it
behind. Where neither happens, every instance is registered until it is closed, once.
-/

import Solar.Library.Transition

namespace Solar.Station

open List Function Option

/-- What a call awaits: the start of an instance, the publication of its module, the close of an
instance and the publication of its end, or the answer of an instance. A `close` of the manager has
more names to go through. -/
inductive ModuleCall (Name : Type)
  | idle
  | starting (name : Name) (instance_ : Nat)
  | publishing
  | stopping (rest : Option (List Name))
  | requesting
  deriving DecidableEq

/-- `ModuleManager` and the calls of its methods. The instances are numbered as they are made, with
the outcome of their start, which names a module if it succeeded, and how often they were closed.
A `close` has come to its end in `closed`, and no module was enabled since. -/
structure ModuleManager (Name : Type) where
  instances : List (Name × Nat) := []
  call : Nat → ModuleCall Name := fun _ => .idle
  made : Nat := 0
  outcome : Nat → Option (Option Name) := fun _ => none
  closes : Nat → Nat := fun _ => 0
  closed : Bool := false

inductive ModuleLabel (Name : Type)
  | enable (call : Nat) (name : Name) (builds : Bool)
  | started (call : Nat) (succeeds : Bool)
  | disable (call : Nat) (name : Name)
  | request (call : Nat) (name : Name)
  | close (call : Nat)
  | resume (call : Nat) (goesOn : Bool)

namespace ModuleManager

variable {Name : Type} [DecidableEq Name] (manager : ModuleManager Name)

def setCall (call : Nat) (stage : ModuleCall Name) : ModuleManager Name :=
  { manager with call := update manager.call call stage }

/-- `self.instances[name] = instance`. -/
def register (name : Name) (number : Nat) : List (Name × Nat) :=
  if name ∈ manager.instances.map Prod.fst then
    manager.instances.map fun entry => if entry.1 = name then (name, number) else entry
  else manager.instances ++ [(name, number)]

/-- `self.instances.pop(name)`, and the call of `close` on the instance. -/
def stop (call : Nat) (name : Name) (number : Nat) (rest : Option (List Name)) :
    ModuleManager Name :=
  { manager.setCall call (.stopping rest) with
    instances := manager.instances.filter (·.1 ≠ name)
    closes := update manager.closes number (manager.closes number + 1) }

/-- The loop of `close`. -/
def closeEach (call : Nat) : List Name → ModuleManager Name
  | [] => { manager.setCall call .idle with closed := true }
  | name :: rest =>
      match manager.instances.lookup name with
      | none => closeEach call rest
      | some number => manager.stop call name number (some rest)

def step : ModuleLabel Name → Option (ModuleManager Name)
  | .enable call name builds =>
      if manager.call call ≠ .idle then none
      else if name ∈ manager.instances.map Prod.fst ∨ !builds then some manager
      else some { manager.setCall call (.starting name manager.made) with
        made := manager.made + 1
        closed := false }
  | .started call succeeds =>
      match manager.call call, succeeds with
      | .starting name number, true => some { manager.setCall call .publishing with
          instances := manager.register name number
          outcome := update manager.outcome number (some name) }
      | .starting _ number, false => some { manager.setCall call .idle with
          outcome := update manager.outcome number (some none) }
      | _, _ => none
  | .disable call name =>
      if manager.call call ≠ .idle then none
      else match manager.instances.lookup name with
        | none => some manager
        | some number => some (manager.stop call name number none)
  | .request call name =>
      if manager.call call ≠ .idle then none
      else if name ∈ manager.instances.map Prod.fst then some (manager.setCall call .requesting)
      else some manager
  | .close call =>
      if manager.call call ≠ .idle then none
      else some (manager.closeEach call (manager.instances.map Prod.fst).reverse)
  | .resume call goesOn =>
      match manager.call call with
      | .stopping (some rest) =>
          some (if goesOn then manager.closeEach call rest else manager.setCall call .idle)
      | .publishing | .requesting | .stopping none => some (manager.setCall call .idle)
      | _ => none

def machine : Transition.Machine (ModuleManager Name) (ModuleLabel Name) := ⟨step⟩

/-- A start that succeeds finds no instance of its module registered, no `close` in progress that has
gone past its module, and none that came to its end since a module was last enabled. -/
def Undisturbed : ModuleLabel Name → Prop
  | .started call true => ∀ name number, manager.call call = .starting name number →
      name ∉ manager.instances.map Prod.fst ∧ manager.closed = false ∧
      ∀ other rest, manager.call other = .stopping (some rest) → name ∈ rest
  | _ => True

/-- What holds in every state of an undisturbed run. -/
structure Kept : Prop where
  names : (manager.instances.map Prod.fst).Nodup
  lives : ∀ name number, (name, number) ∈ manager.instances ↔
    manager.outcome number = some (some name) ∧ manager.closes number = 0
  once : ∀ number, manager.closes number ≤ 1
  fresh : ∀ number, manager.made ≤ number →
    manager.outcome number = none ∧ manager.closes number = 0
  starting : ∀ call name number, manager.call call = .starting name number →
    number < manager.made ∧ manager.outcome number = none ∧ manager.closes number = 0
  apart : ∀ call other name second number, manager.call call = .starting name number →
    manager.call other = .starting second number → call = other
  closing : ∀ call rest, manager.call call = .stopping (some rest) →
    ∀ name ∈ manager.instances.map Prod.fst, name ∈ rest
  empty : manager.closed = true → manager.instances = []

variable {manager} {next : ModuleManager Name} {label : ModuleLabel Name} {call number : Nat}
  {name : Name}

theorem mem_of_lookup (found : manager.instances.lookup name = some number) :
    (name, number) ∈ manager.instances := by
  obtain ⟨before, after, split, -⟩ := lookup_eq_some_iff.mp found
  simp [split]

omit [DecidableEq Name] in
theorem Kept.setCall (kept : manager.Kept) (stage : ModuleCall Name)
    (awake : ∀ name number, stage ≠ .starting name number)
    (listed : ∀ rest, stage = .stopping (some rest) →
      ∀ name ∈ manager.instances.map Prod.fst, name ∈ rest) :
    (manager.setCall call stage).Kept := by
  obtain ⟨names, lives, once, fresh, starting, apart, closing, empty⟩ := kept
  constructor
  all_goals dsimp only [ModuleManager.setCall]
  all_goals grind

theorem Kept.stop (kept : manager.Kept) (found : manager.instances.lookup name = some number)
    {rest : Option (List Name)} (listed : ∀ names, rest = some names →
      ∀ other ∈ manager.instances.map Prod.fst, other ∈ name :: names) :
    (manager.stop call name number rest).Kept := by
  obtain ⟨names, lives, once, fresh, starting, apart, closing, empty⟩ := kept
  have member := mem_of_lookup found
  have only (other : Nat) (inside : (name, other) ∈ manager.instances) : other = number :=
    (Prod.mk.inj (inj_on_of_nodup_map names inside member rfl)).2
  have left : ∀ other ∈ (manager.instances.filter (·.1 ≠ name)).map Prod.fst,
      other ∈ manager.instances.map Prod.fst ∧ other ≠ name := by grind
  constructor
  case names => exact names.sublist (filter_sublist.map _)
  all_goals dsimp only [ModuleManager.stop, ModuleManager.setCall]
  all_goals grind

theorem Kept.closeEach (kept : manager.Kept) {rest : List Name}
    (listed : ∀ name ∈ manager.instances.map Prod.fst, name ∈ rest) :
    (manager.closeEach call rest).Kept := by
  induction rest with
  | nil =>
    have none : manager.instances = [] := by
      simpa using eq_nil_iff_forall_not_mem.mpr fun name member => not_mem_nil (listed name member)
    have idle : (manager.setCall call .idle).Kept := kept.setCall .idle nofun nofun
    exact { idle with empty := fun _ => none }
  | cons name rest ih =>
    rw [ModuleManager.closeEach]
    split
    · rename_i absent
      refine ih fun other member => ?_
      have := lookup_eq_none_iff.mp absent
      grind
    · rename_i number found
      exact kept.stop found (by rintro _ ⟨⟩; exact listed)

/-- Every undisturbed step keeps one instance of each module. -/
theorem Kept.step (kept : manager.Kept) (calm : manager.Undisturbed label)
    (stepped : manager.step label = some next) : next.Kept := by
  cases label with simp only [ModuleManager.step] at stepped
  | enable call name builds =>
    obtain ⟨idle, stepped⟩ := ite_none_left_eq_some.mp stepped
    split at stepped <;> obtain ⟨⟩ := stepped
    · exact kept
    · obtain ⟨names, lives, once, fresh, starting, apart, closing, empty⟩ := kept
      constructor
      all_goals dsimp only [ModuleManager.setCall]
      all_goals grind
  | started call succeeds =>
    obtain ⟨names, lives, once, fresh, starting, apart, closing, empty⟩ := kept
    split at stepped <;> obtain ⟨⟩ := stepped
    · rename_i name number here
      obtain ⟨absent, notClosed, alone⟩ := calm name number here
      have added : manager.register name number = manager.instances ++ [(name, number)] :=
        if_neg absent
      constructor
      case names =>
        rw [added, map_append, map_singleton, ← concat_eq_append]
        exact names.concat absent
      all_goals dsimp only [ModuleManager.setCall]
      all_goals grind
    · constructor
      all_goals dsimp only [ModuleManager.setCall]
      all_goals grind
  | disable call name =>
    obtain ⟨idle, stepped⟩ := ite_none_left_eq_some.mp stepped
    split at stepped <;> obtain ⟨⟩ := stepped
    · exact kept
    · rename_i found
      exact kept.stop found nofun
  | request call name =>
    obtain ⟨idle, stepped⟩ := ite_none_left_eq_some.mp stepped
    split at stepped <;> obtain ⟨⟩ := stepped
    · exact kept.setCall .requesting nofun nofun
    · exact kept
  | close call =>
    obtain ⟨idle, ⟨⟩⟩ := ite_none_left_eq_some.mp stepped
    exact kept.closeEach fun name member => mem_reverse.mpr member
  | resume call goesOn =>
    split at stepped <;> obtain ⟨⟩ := stepped
    case _ rest stopping =>
      split
      · exact kept.closeEach (kept.closing call rest stopping)
      · exact kept.setCall .idle nofun nofun
    all_goals exact kept.setCall .idle nofun nofun

/-- In an undisturbed run every instance that was started is registered and unclosed, or was closed
once; a module has at most one that is not closed; none that failed to start is registered; and
after a `close`, when no call is in progress, none is left. -/
theorem modules_have_one_instance (reached : machine.ReachableWhere Undisturbed {} manager) :
    (∀ name number, manager.outcome number = some (some name) →
      manager.closes number = if (name, number) ∈ manager.instances then 0 else 1) ∧
    (∀ name first second, manager.outcome first = some (some name) → manager.closes first = 0 →
      manager.outcome second = some (some name) → manager.closes second = 0 → first = second) ∧
    (∀ name number, manager.outcome number = some none → (name, number) ∉ manager.instances) ∧
    (manager.closed = true → (∀ call, manager.call call = .idle) → manager.instances = [] ∧
      ∀ name number, manager.outcome number = some (some name) → manager.closes number = 1) := by
  have kept : manager.Kept := reached.invariant Kept
    ⟨nodup_nil, by simp, by simp, by simp, nofun, nofun, nofun, fun _ => rfl⟩ fun _ _ _ => .step
  obtain ⟨names, lives, once, -, -, -, -, empty⟩ := kept
  refine ⟨by grind, fun name first second one here other there => ?_, by grind, fun closed _ =>
    ⟨empty closed, fun name number begun => ?_⟩⟩
  · exact (Prod.mk.inj (inj_on_of_nodup_map names ((lives _ _).mpr ⟨one, here⟩)
      ((lives _ _).mpr ⟨other, there⟩) rfl)).2
  · have gone : (name, number) ∉ manager.instances := empty closed ▸ not_mem_nil
    grind

theorem modules_have_one_instance_closed : ∃ manager : ModuleManager Unit,
    manager.outcome 0 = some () ∧ manager.closes 0 = 1 ∧ manager.instances = [] := by
  let labels : List (ModuleLabel Unit) :=
    [.enable 0 () true, .started 0 true, .resume 0 true, .close 1, .resume 1 true]
  let manager := (machine.run {} labels).get rfl
  have alone : machine.Admissible Undisturbed {} labels := .step trivial rfl <| .step (by
    rintro _ _ ⟨⟩
    exact ⟨by decide, rfl, fun other => by match other with | 0 | other + 1 => exact nofun⟩) rfl <|
    .step trivial rfl <| .step trivial rfl <| .step trivial rfl trivial
  have reached : machine.ReachableWhere Undisturbed {} manager :=
    ⟨labels, alone, (some_get _).symm⟩
  obtain ⟨-, -, -, none⟩ := modules_have_one_instance reached
  obtain ⟨empty, closed⟩ := none rfl fun call => by match call with | 0 | 1 | call + 2 => rfl
  exact ⟨manager, rfl, closed () 0 rfl, empty⟩

/-- Two calls that enable a module at once start two instances, and the first is lost. -/
theorem overlapping_enables_lose_an_instance : ∃ manager : ModuleManager Unit,
    machine.Reachable {} manager ∧ manager.outcome 0 = some () ∧ manager.outcome 1 = some () ∧
    manager.closes 0 = 0 ∧ manager.closes 1 = 0 ∧ ((), 0) ∉ manager.instances :=
  let labels : List (ModuleLabel Unit) :=
    [.enable 0 () true, .enable 1 () true, .started 0 true, .started 1 true]
  ⟨(machine.run {} labels).get rfl, ⟨_, (some_get _).symm⟩, rfl, rfl, rfl, rfl, by decide⟩

end ModuleManager
end Solar.Station
