/-
This file models the component graph of a system: its components, what each of
them depends on, and the order in which they are initialised and started. The
order is found by taking, again and again, the first component that is left and
whose dependencies are all placed. The dependencies of a component are of lower
rank, so there always is one; the order has each component once, after all its
dependencies.
-/

import Solar.Library.Prefixes

namespace Solar.Lifecycle

open List

/-- `ComponentGraph`, over the type of the registered components: they are listed, each once, and
there is no cycle. -/
structure Graph (Component : Type) where
  components : List Component
  dependencies : Component → List Component
  rank : Component → Nat
  distinct : components.Nodup
  complete : ∀ component, component ∈ components
  acyclic : ∀ component, ∀ needed ∈ dependencies component, rank needed < rank component

section

variable {Component : Type} [DecidableEq Component]

/-- `FirstReady`. -/
def firstReady (dependencies : Component → List Component) (remaining sorted : List Component) :
    Option Component :=
  remaining.find? fun component => dependencies component ⊆ sorted

/-- `TopologicalSort`. -/
def topologicalSort (dependencies : Component → List Component) :
    Nat → List Component → List Component → List Component
  | 0, _, sorted => sorted
  | length + 1, remaining, sorted =>
      match firstReady dependencies remaining sorted with
      | none => sorted
      | some ready =>
          topologicalSort dependencies length (remaining.erase ready) (sorted ++ [ready])

/-- `TopologicalOrder`. -/
def Graph.topologicalOrder (graph : Graph Component) : List Component :=
  topologicalSort graph.dependencies graph.components.length graph.components []

/-- `ReverseTopologicalOrder`. -/
def Graph.reverseTopologicalOrder (graph : Graph Component) : List Component :=
  graph.topologicalOrder.reverse

variable (graph : Graph Component)

theorem firstReady_isSome {dependencies : Component → List Component}
    {components remaining sorted : List Component} (rank : Component → Nat)
    (falls : ∀ component ∈ components, ∀ needed ∈ dependencies component,
      needed ∈ components ∧ rank needed < rank component)
    (all : components ⊆ sorted ++ remaining) (listed : remaining ⊆ components)
    (left : remaining ≠ []) : (firstReady dependencies remaining sorted).isSome = true := by
  obtain ⟨lowest, least⟩ :=
    Option.ne_none_iff_exists'.mp (mt (argmin_eq_none (f := rank)).mp left)
  have present : lowest ∈ remaining := argmin_mem least
  rw [firstReady, find?_isSome]
  refine ⟨lowest, present, decide_eq_true ?_⟩
  intro needed needs
  obtain ⟨registered, lower⟩ := falls lowest (listed present) needed needs
  refine (mem_append.mp (all registered)).resolve_right fun waiting => ?_
  exact absurd lower (le_of_mem_argmin waiting least).not_gt

/-- The sort places what is left, each component after its dependencies. -/
theorem Graph.topologicalSort_spec {length : Nat} {remaining sorted : List Component}
    (all : (sorted ++ remaining).Perm graph.components) (enough : remaining.length = length)
    (ordered : Prefixes.Sorted graph.dependencies sorted) :
    (topologicalSort graph.dependencies length remaining sorted).Perm graph.components ∧
      Prefixes.Sorted graph.dependencies
        (topologicalSort graph.dependencies length remaining sorted) := by
  induction length generalizing remaining sorted with
  | zero =>
    obtain rfl := length_eq_zero_iff.mp enough
    rw [append_nil] at all
    exact ⟨all, ordered⟩
  | succ length ih =>
    have left : remaining ≠ [] := ne_nil_of_length_eq_add_one enough
    have some := firstReady_isSome graph.rank
      (fun component _ needed needs => ⟨graph.complete needed, graph.acyclic component needed needs⟩)
      all.symm.subset (fun component _ => graph.complete component) left
    obtain ⟨ready, found⟩ := Option.isSome_iff_exists.mp some
    have present : ready ∈ remaining := mem_of_find?_eq_some found
    have accepted := find?_some found
    have met : graph.dependencies ready ⊆ sorted := of_decide_eq_true accepted
    rw [topologicalSort, found]
    refine ih ?_ ?_ (ordered.concat fun needed listed => met listed)
    · refine Perm.trans ?_ all
      rw [append_assoc]
      exact (perm_cons_erase present).symm.append_left sorted
    · rw [length_erase_of_mem present, enough]
      rfl

theorem Graph.topologicalOrder_perm : graph.topologicalOrder.Perm graph.components :=
  (graph.topologicalSort_spec (.refl _) rfl .nil).1

theorem Graph.topologicalOrder_sorted :
    Prefixes.Sorted graph.dependencies graph.topologicalOrder :=
  (graph.topologicalSort_spec (.refl _) rfl .nil).2

theorem Graph.topologicalOrder_nodup : graph.topologicalOrder.Nodup :=
  graph.topologicalOrder_perm.nodup_iff.mpr graph.distinct

theorem Graph.reverseTopologicalOrder_nodup : graph.reverseTopologicalOrder.Nodup :=
  (reverse_perm _).nodup_iff.mpr graph.topologicalOrder_nodup

theorem Graph.mem_topologicalOrder (component : Component) : component ∈ graph.topologicalOrder :=
  graph.topologicalOrder_perm.mem_iff.mpr (graph.complete component)

theorem Graph.mem_reverseTopologicalOrder (component : Component) :
    component ∈ graph.reverseTopologicalOrder :=
  mem_reverse.mpr (graph.mem_topologicalOrder component)

theorem Graph.dependent_mem_of_reverse {done rest : List Component}
    {component dependent : Component}
    (split : graph.reverseTopologicalOrder = done ++ component :: rest)
    (needs : component ∈ graph.dependencies dependent) : dependent ∈ done :=
  graph.topologicalOrder_sorted.reverse graph.topologicalOrder_nodup split
    (graph.mem_topologicalOrder dependent) needs

end

/-- The component is the other one, or depends on it through others. -/
def Graph.Reaches {Component : Type} (graph : Graph Component) : Component → Component → Prop :=
  Relation.ReflTransGen fun component needed => needed ∈ graph.dependencies component

end Solar.Lifecycle
