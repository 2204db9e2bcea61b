/-
This file models the check of a component graph when a system is compiled. A list
of components is accepted exactly when they are distinct, all that they depend on
is registered and nothing depends on itself through others; the sort of an
accepted list is defined, and at each place it takes the earliest declared
component that is ready.
-/

import Solar.Lifecycle.Graph

namespace Solar.Lifecycle

open List

variable {Component : Type} [DecidableEq Component]

/-! ### The compiler's metafunctions -/

section

variable (authored : Component → List Component)

/-- `effective_dependencies_of_t`. -/
def effectiveDependencies (generated : Component → Component → Bool) (components : List Component)
    (component : Component) : List Component :=
  (authored component ++ components.filter (generated component)).eraseDups

/-- `ValidateComponentDependencies`. -/
def validateComponentDependencies (dependencies : Component → List Component)
    (components : List Component) (component : Component) : Bool :=
  (dependencies component).all (components.contains ·)

/-- `ValidateComponentVisit`, to a depth of instantiation. -/
def validateComponentVisit (dependencies : Component → List Component) :
    Nat → List Component → Component → Bool
  | 0, _, _ => false
  | depth + 1, path, component =>
      !path.contains component && (dependencies component).all
          (validateComponentVisit dependencies depth (path ++ [component]))

/-- `ValidateComponentGraph`. -/
def validateComponentGraph (dependencies : Component → List Component)
    (components : List Component) (depth : Nat) : Bool :=
  components.all (fun component => components.count component == 1) &&
    components.all (validateComponentDependencies dependencies components) &&
    components.all (validateComponentVisit dependencies depth [])

/-- `TopologicalSort`, which is not defined when no component is ready. -/
def topologicalSort? (dependencies : Component → List Component) :
    Nat → List Component → List Component → Option (List Component)
  | _, [], sorted => some sorted
  | 0, _ :: _, _ => none
  | length + 1, head :: tail, sorted => do
      let ready ← firstReady dependencies (head :: tail) sorted
      topologicalSort? dependencies length ((head :: tail).erase ready) (sorted ++ [ready])

/-- `ReverseList`. -/
def reverseList {Item : Type} : List Item → List Item
  | [] => []
  | head :: tail => reverseList tail ++ [head]

/-! ### What they are for -/

/-- One component depends on another, as authored or as generated. -/
def DependsOn (generated : Component → Component → Bool) (components : List Component)
    (component needed : Component) : Prop :=
  needed ∈ authored component ∨ needed ∈ components ∧ generated component needed = true

end

/-- Nothing that is registered depends on itself through others. -/
def Acyclic (dependsOn : Component → Component → Prop) (components : List Component) : Prop :=
  ∀ component ∈ components, ¬ Relation.TransGen dependsOn component component

/-- Each place has the earliest declared component that is not placed and whose needs are. -/
def PicksEarliest (dependencies : Component → List Component)
    (components : List Component) : List Component → Prop :=
  Prefixes.Each fun done component =>
    components.find? (fun other => other ∉ done ∧ dependencies other ⊆ done) = some component

theorem mem_effectiveDependencies {authored : Component → List Component}
    {generated : Component → Component → Bool} {components : List Component} :
    (fun component needed =>
        needed ∈ effectiveDependencies authored generated components component) =
      DependsOn authored generated components := by
  funext component needed
  simp [effectiveDependencies, DependsOn]

variable {dependencies : Component → List Component}

section Validation

variable {components path : List Component} {component : Component} {depth : Nat}

theorem notMem_of_visit (valid : validateComponentVisit dependencies depth path component = true)
    {reached : Component} (reaches : Relation.ReflTransGen
      (fun component needed => needed ∈ dependencies component) component reached) :
    reached ∉ path := by
  induction depth generalizing path component with
  | zero => cases valid
  | succ depth ih =>
    rw [validateComponentVisit, Bool.and_eq_true, all_eq_true] at valid
    obtain ⟨fresh, visits⟩ := valid
    obtain rfl | ⟨needed, needs, further⟩ := reaches.cases_head
    · simpa using fresh
    · intro before
      exact ih (visits needed needs) further (mem_append_left _ before)

theorem acyclic_of_visits (valid : ∀ component ∈ components,
      validateComponentVisit dependencies depth [] component = true) :
    Acyclic (fun component needed => needed ∈ dependencies component) components := by
  intro component registered cycle
  obtain ⟨needed, needs, further⟩ := Relation.TransGen.head'_iff.mp cycle
  have visited := valid component registered
  cases depth with
  | zero => cases visited
  | succ depth =>
    rw [validateComponentVisit, Bool.and_eq_true, all_eq_true] at visited
    exact notMem_of_visit (visited.2 needed needs) further mem_cons_self

/-- Without a cycle every path ends before it is longer than the list. -/
theorem visit_of_acyclic
    (acyclic : Acyclic (fun component needed => needed ∈ dependencies component) components)
    (closed : ∀ component ∈ components, ∀ needed ∈ dependencies component, needed ∈ components)
    (distinct : path.Nodup) (listed : path ⊆ components) (registered : component ∈ components)
    (leads : ∀ before ∈ path, Relation.TransGen
      (fun component needed => needed ∈ dependencies component) before component)
    (enough : components.length < path.length + depth) :
    validateComponentVisit dependencies depth path component = true := by
  induction depth generalizing path component with
  | zero => exact absurd (distinct.subperm listed).length_le enough.not_ge
  | succ depth ih =>
    have fresh : component ∉ path := fun before => acyclic component registered (leads _ before)
    rw [validateComponentVisit, Bool.and_eq_true, all_eq_true]
    refine ⟨by simpa using fresh, fun needed needs => ?_⟩
    refine ih ?_ ?_ (closed component registered needed needs) ?_ ?_
    · rw [← concat_eq_append]
      exact distinct.concat fresh
    · exact append_subset.mpr ⟨listed, by simpa using registered⟩
    · intro before placed
      obtain earlier | here := mem_append.mp placed
      · exact (leads before earlier).tail needs
      · rw [mem_singleton.mp here]
        exact .single needs
    · rw [length_append, length_singleton]
      omega

theorem validateComponentGraph_iff {extra : Nat} :
    validateComponentGraph dependencies components (components.length + 1 + extra) = true ↔
      components.Nodup ∧
        (∀ component ∈ components, ∀ needed ∈ dependencies component, needed ∈ components) ∧
        Acyclic (fun component needed => needed ∈ dependencies component) components := by
  have distinct : components.all (fun component => components.count component == 1) = true ↔
      components.Nodup := by
    simp [nodup_iff_count_eq_one]
  have closed : components.all (validateComponentDependencies dependencies components) = true ↔
      ∀ component ∈ components, ∀ needed ∈ dependencies component, needed ∈ components := by
    simp [validateComponentDependencies]
  rw [validateComponentGraph, Bool.and_eq_true, Bool.and_eq_true, distinct, closed, and_assoc,
    all_eq_true]
  refine and_congr_right fun _ => and_congr_right fun registered => ⟨acyclic_of_visits, ?_⟩
  intro acyclic component listed
  exact visit_of_acyclic acyclic registered .nil (nil_subset _) listed
    (fun _ before => absurd before not_mem_nil) (by omega)

end Validation

/-! ### The sort of an accepted list -/

section Sorting

variable {components : List Component}

theorem exists_rank
    (acyclic : Acyclic (fun component needed => needed ∈ dependencies component) components)
    (closed : ∀ component ∈ components, ∀ needed ∈ dependencies component, needed ∈ components) :
    ∃ rank : Component → Nat, ∀ component ∈ components, ∀ needed ∈ dependencies component,
      needed ∈ components ∧ rank needed < rank component := by
  classical
  refine ⟨fun component => (components.toFinset.filter (Relation.TransGen
    (fun component needed => needed ∈ dependencies component) component)).card, ?_⟩
  intro component registered needed needs
  have listed := closed component registered needed needs
  refine ⟨listed, Finset.card_lt_card (Finset.ssubset_iff_of_subset ?_ |>.mpr ⟨needed, ?_, ?_⟩)⟩
  · intro reached
    simp only [Finset.mem_filter]
    exact And.imp_right (.head needs)
  · exact Finset.mem_filter.mpr ⟨mem_toFinset.mpr listed, .single needs⟩
  · exact fun member => acyclic needed listed (Finset.mem_filter.mp member).2

theorem firstReady_filter (sorted : List Component) :
    firstReady dependencies (components.filter (· ∉ sorted)) sorted =
      components.find? (fun other => other ∉ sorted ∧ dependencies other ⊆ sorted) := by
  rw [firstReady, find?_filter]
  congr 1
  funext other
  simp

/-- The sort of what is left of an accepted list. -/
theorem topologicalSort?_spec {rank : Component → Nat} (distinct : components.Nodup)
    (falls : ∀ component ∈ components, ∀ needed ∈ dependencies component,
      needed ∈ components ∧ rank needed < rank component)
    {length : Nat} {remaining sorted : List Component}
    (left : remaining = components.filter (· ∉ sorted)) (enough : remaining.length = length)
    (once : sorted.Nodup) (listed : sorted ⊆ components)
    (picks : PicksEarliest dependencies components sorted) :
    ∃ order, topologicalSort? dependencies length remaining sorted = some order ∧
      topologicalSort dependencies length remaining sorted = order ∧
      order.Perm components ∧ PicksEarliest dependencies components order := by
  induction length generalizing remaining sorted with
  | zero =>
    obtain rfl := length_eq_zero_iff.mp enough
    refine ⟨sorted, rfl, rfl, ?_, picks⟩
    refine (perm_ext_iff_of_nodup once distinct).mpr fun component => ⟨@listed component, ?_⟩
    intro registered
    have placed := filter_eq_nil_iff.mp left.symm component registered
    simpa using placed
  | succ length ih =>
    have waiting : remaining ≠ [] := ne_nil_of_length_eq_add_one enough
    have all : components ⊆ sorted ++ remaining := by
      intro component registered
      rw [left, mem_append, mem_filter]
      by_cases placed : component ∈ sorted
      · exact .inl placed
      · exact .inr ⟨registered, decide_eq_true placed⟩
    obtain ⟨ready, found⟩ := Option.isSome_iff_exists.mp (firstReady_isSome rank falls all
      (left ▸ filter_subset_self components) waiting)
    have present : ready ∈ remaining := mem_of_find?_eq_some found
    have member := present
    rw [left, mem_filter, decide_eq_true_iff] at member
    have rest : remaining.erase ready = components.filter (· ∉ sorted ++ [ready]) := by
      rw [left, (distinct.filter _).erase_eq_filter, filter_filter]
      refine filter_congr fun other _ => ?_
      by_cases same : other = ready <;> simp [same]
    obtain ⟨order, sorts, same, facts⟩ := ih rest
      (by rw [length_erase_of_mem present, enough]; rfl)
      (by rw [← concat_eq_append]; exact once.concat member.2)
      (append_subset.mpr ⟨listed, by simpa using member.1⟩)
      (picks.concat (by rw [← firstReady_filter, ← left, found]))
    refine ⟨order, ?_, ?_, facts⟩
    · obtain ⟨head, tail, rfl⟩ := exists_cons_of_ne_nil waiting
      rw [topologicalSort?, found]
      exact sorts
    · rw [topologicalSort, found]
      exact same

theorem PicksEarliest.sorted {order : List Component}
    (picks : PicksEarliest dependencies components order) :
    Prefixes.Sorted dependencies order := by
  intro done component rest split needed needs
  have chosen := find?_some (picks done component rest split)
  rw [decide_eq_true_iff] at chosen
  exact chosen.2 needs

theorem topologicalSort_of_sorted {rest sorted : List Component}
    (ordered : Prefixes.Sorted dependencies (sorted ++ rest)) :
    topologicalSort dependencies rest.length rest sorted = sorted ++ rest := by
  induction rest generalizing sorted with
  | nil => exact (append_nil sorted).symm
  | cons head tail ih =>
    have ready : firstReady dependencies (head :: tail) sorted = some head :=
      find?_cons_of_pos (decide_eq_true (ordered sorted head tail rfl))
    rw [length_cons, topologicalSort, ready]
    have later : Prefixes.Sorted dependencies ((sorted ++ [head]) ++ tail) := by
      simpa using ordered
    simpa using ih later

theorem reverseList_eq {Item : Type} {items : List Item} : reverseList items = items.reverse := by
  induction items with
  | nil => rfl
  | cons head tail ih => rw [reverseList, ih, reverse_cons]

/-- The check accepts exactly the lists of distinct components whose dependencies, authored and
generated, are registered and without a cycle, to whatever depth beyond the length of the list it
is instantiated. The sort of an accepted list is defined and is that of the engine's graph: all
components, each after its dependencies, at each place the earliest declared one that is ready,
in the declared order where that respects the dependencies. -/
theorem component_graph_is_exact (authored : Component → List Component)
    (generated : Component → Component → Bool) (components : List Component) (extra : Nat) :
    (validateComponentGraph (effectiveDependencies authored generated components) components
        (components.length + 1 + extra) = true ↔ components.Nodup ∧
      (∀ component ∈ components, ∀ needed,
        DependsOn authored generated components component needed → needed ∈ components) ∧
      Acyclic (DependsOn authored generated components) components) ∧
    let dependencies := effectiveDependencies authored generated components
    let dependsOn := DependsOn authored generated components
    validateComponentGraph dependencies components (components.length + 1 + extra) = true →
      ∃ order, topologicalSort? dependencies components.length components [] = some order ∧
      topologicalSort dependencies components.length components [] = order ∧
      order.Perm components ∧
      Prefixes.Each (fun done component => ∀ needed, dependsOn component needed → needed ∈ done)
        order ∧
      PicksEarliest dependencies components order ∧
      (Prefixes.Each (fun done component => ∀ needed, dependsOn component needed → needed ∈ done)
        components → order = components) ∧
      reverseList order = order.reverse := by
  rw [← mem_effectiveDependencies]
  refine ⟨validateComponentGraph_iff, fun accepted => ?_⟩
  obtain ⟨distinct, closed, acyclic⟩ := validateComponentGraph_iff.mp accepted
  obtain ⟨rank, falls⟩ := exists_rank acyclic closed
  have start : components = components.filter (· ∉ ([] : List Component)) := by simp
  obtain ⟨order, sorts, found, all, picks⟩ := topologicalSort?_spec distinct falls start rfl .nil
    (nil_subset _) .nil
  refine ⟨order, sorts, found, all, picks.sorted, picks, fun ordered => ?_, reverseList_eq⟩
  rw [← found]
  exact topologicalSort_of_sorted ordered

end Sorting

end Solar.Lifecycle
