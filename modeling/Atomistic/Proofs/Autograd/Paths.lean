import Atomistic.Proofs.Autograd.Survey
import Mathlib.Algebra.BigOperators.Group.Finset.Sigma
import Mathlib.Algebra.Group.Hom.Basic
import Mathlib.Algebra.BigOperators.GroupWithZero.Action

/-!
# Paths to leaves

A path starts with an edge and names the slot that it takes at each node; it may end
at a leaf (`Atomistic.Graph.leafAt`).  Along a path the maps of the slots are
composed (`Atomistic.Graph.carry`).  Where edges lead to smaller numbers there are
finitely many paths to some leaves (`Atomistic.Graph.mem_pathsTo`), and the sum over
all that start with an edge to a node splits into the sums over those that go on
with each of its edges (`Atomistic.Graph.transfer_node`).
-/

namespace Atomistic

/-- A bound on the length of the paths that start with an edge. -/
def Edge.height {Leaf : Type} : Edge Leaf → Nat
  | .node number => number + 1
  | _ => 0

namespace Graph

variable {Gradient Leaf Fault M : Type}

/-- The edge of a node for one of its slots. -/
def slotEdge (graph : Graph Gradient Leaf Fault) (node slot : Nat) : Edge Leaf :=
  (graph.edges node).getD slot .untracked

/-- The leaf at the end of a path that starts with an edge and takes one slot after
another. -/
def leafAt (graph : Graph Gradient Leaf Fault) : Edge Leaf → List Nat → Option Leaf
  | .leaf leaf, [] => some leaf
  | .node node, slot :: rest => graph.leafAt (graph.slotEdge node slot) rest
  | _, _ => none

/-- The maps of the slots along a path, one after another. -/
def carry [AddCommMonoid M] (graph : Graph Gradient Leaf Fault) (maps : Nat → Nat → M →+ M) :
    Edge Leaf → List Nat → M →+ M
  | .node node, slot :: rest =>
    (graph.carry maps (graph.slotEdge node slot) rest).comp (maps node slot)
  | _, _ => AddMonoidHom.id M

/-- The paths up to a length that end at one of some leaves. -/
def pathsWithin (graph : Graph Gradient Leaf Fault) (wanted : Leaf → Bool) :
    Nat → Edge Leaf → Finset (List Nat)
  | _, .untracked => ∅
  | _, .leaf leaf => if wanted leaf then {[]} else ∅
  | 0, .node _ => ∅
  | length + 1, .node node =>
    (Finset.range (graph.edges node).length).biUnion fun slot =>
      (graph.pathsWithin wanted length (graph.slotEdge node slot)).map
        ⟨List.cons slot, List.cons_injective⟩

/-- All paths that end at one of some leaves. -/
def pathsTo (graph : Graph Gradient Leaf Fault) (wanted : Leaf → Bool) (edge : Edge Leaf) :
    Finset (List Nat) :=
  graph.pathsWithin wanted edge.height edge

/-- What all paths to some leaves make of a gradient together. -/
def transfer [AddCommMonoid M] (graph : Graph Gradient Leaf Fault) (maps : Nat → Nat → M →+ M)
    (wanted : Leaf → Bool) (edge : Edge Leaf) : M →+ M :=
  ∑ path ∈ graph.pathsTo wanted edge, graph.carry maps edge path

variable {graph : Graph Gradient Leaf Fault}

/-- No gradient goes through a slot that a node does not have. -/
theorem slotEdge_of_length_le {node slot : Nat} (beyond : (graph.edges node).length ≤ slot) :
    graph.slotEdge node slot = .untracked := by
  rw [slotEdge, List.getD_eq_getElem?_getD, List.getElem?_eq_none beyond, Option.getD_none]

private theorem leafAt_untracked (path : List Nat) : graph.leafAt .untracked path = none := by
  cases path <;> rfl

/-- An edge of a node is the edge for one of its slots. -/
theorem exists_slotEdge {node : Nat} {edge : Edge Leaf} (member : edge ∈ graph.edges node) :
    ∃ slot, graph.slotEdge node slot = edge := by
  obtain ⟨slot, inside, same⟩ := List.mem_iff_getElem.mp member
  refine ⟨slot, ?_⟩
  rw [slotEdge, List.getD_eq_getElem?_getD, List.getElem?_eq_getElem inside, same, Option.getD_some]

/-- A path leads to every leaf edge of a reached node. -/
theorem exists_leafAt {root node : Nat} (path : graph.Reaches root node) {leaf : Leaf}
    (member : .leaf leaf ∈ graph.edges node) :
    ∃ slots, graph.leafAt (.node root) slots = some leaf := by
  induction path using Relation.ReflTransGen.head_induction_on with
  | refl =>
      obtain ⟨slot, same⟩ := exists_slotEdge member
      refine ⟨[slot], ?_⟩
      rw [leafAt, same]
      rfl
  | head edge _ ih =>
      obtain ⟨slots, ends⟩ := ih
      obtain ⟨slot, same⟩ := exists_slotEdge (mem_edges_of_leads edge)
      refine ⟨slot :: slots, ?_⟩
      rw [leafAt, same]
      exact ends

private theorem mem_pathsWithin (wanted : Leaf → Bool) (length : Nat) :
    ∀ (edge : Edge Leaf) (path : List Nat), path ∈ graph.pathsWithin wanted length edge ↔
      path.length ≤ length ∧ ∃ leaf, graph.leafAt edge path = some leaf ∧ wanted leaf := by
  induction length with
  | zero =>
      intro edge path
      cases edge with
      | untracked => simp [pathsWithin, leafAt_untracked]
      | node node => cases path <;> simp [pathsWithin, leafAt]
      | leaf leaf =>
          by_cases chosen : wanted leaf <;> cases path <;> simp [pathsWithin, leafAt, chosen]
  | succ length ih =>
      intro edge path
      cases edge with
      | untracked => simp [pathsWithin, leafAt_untracked]
      | leaf leaf =>
          by_cases chosen : wanted leaf <;> cases path <;> simp [pathsWithin, leafAt, chosen]
      | node node =>
          cases path with
          | nil => simp [pathsWithin, leafAt]
          | cons slot rest =>
              rw [pathsWithin, Finset.mem_biUnion, leafAt, List.length_cons,
                Nat.add_le_add_iff_right, ← ih (graph.slotEdge node slot) rest]
              constructor
              · rintro ⟨other, _, member⟩
                obtain ⟨tail, inside, same⟩ := Finset.mem_map.mp member
                obtain ⟨rfl, rfl⟩ := List.cons.inj same
                exact inside
              · intro inside
                refine ⟨slot, Finset.mem_range.mpr ?_, Finset.mem_map.mpr ⟨rest, inside, rfl⟩⟩
                by_contra beyond
                rw [slotEdge_of_length_le (Nat.le_of_not_lt beyond), ih, leafAt_untracked] at inside
                obtain ⟨_, _, impossible, _⟩ := inside
                cases impossible

/-- In a descending graph the edges of a node are lower than the node. -/
theorem Descending.height_slotEdge (descending : graph.Descending) (node slot : Nat) :
    (graph.slotEdge node slot).height ≤ node := by
  cases edge : graph.slotEdge node slot with
  | untracked => exact Nat.zero_le _
  | leaf leaf => exact Nat.zero_le _
  | node target =>
      by_cases inside : slot < (graph.edges node).length
      · rw [slotEdge, List.getD_eq_getElem?_getD, List.getElem?_eq_getElem inside,
          Option.getD_some] at edge
        have member : Edge.node target ∈ graph.edges node := edge ▸ List.getElem_mem inside
        exact descending node target (leads_of_mem_edges member)
      · rw [slotEdge_of_length_le (Nat.le_of_not_lt inside)] at edge
        cases edge

private theorem Descending.length_le_height (descending : graph.Descending) (path : List Nat) :
    ∀ {edge : Edge Leaf} {leaf : Leaf}, graph.leafAt edge path = some leaf →
      path.length ≤ edge.height := by
  induction path with
  | nil =>
      intro edge leaf _
      exact Nat.zero_le _
  | cons slot rest ih =>
      intro edge leaf ends
      cases edge with
      | untracked => cases ends
      | leaf other => cases ends
      | node node =>
          have tail := ih ends
          have lower := descending.height_slotEdge node slot
          rw [List.length_cons, Edge.height]
          omega

/-- **All paths.** The paths to some leaves are finitely many. -/
theorem mem_pathsTo (descending : graph.Descending) {wanted : Leaf → Bool} {edge : Edge Leaf}
    {path : List Nat} : path ∈ graph.pathsTo wanted edge ↔
      ∃ leaf, graph.leafAt edge path = some leaf ∧ wanted leaf := by
  rw [pathsTo, mem_pathsWithin]
  exact ⟨fun both => both.2, fun ends =>
    ⟨descending.length_le_height path ends.choose_spec.1, ends⟩⟩

private theorem pathsWithin_eq_pathsTo (descending : graph.Descending) {wanted : Leaf → Bool}
    {edge : Edge Leaf} {length : Nat} (enough : edge.height ≤ length) :
    graph.pathsWithin wanted length edge = graph.pathsTo wanted edge := by
  ext path
  rw [mem_pathsTo descending, mem_pathsWithin]
  exact ⟨fun both => both.2, fun ends =>
    ⟨(descending.length_le_height path ends.choose_spec.1).trans enough, ends⟩⟩

section Sums

variable [AddCommMonoid M] {maps : Nat → Nat → M →+ M} {wanted : Leaf → Bool}

/-- Nothing is brought through an untracked edge. -/
@[simp] theorem transfer_untracked : graph.transfer maps wanted .untracked = 0 := rfl

/-- The only path from an edge to a leaf is the empty one. -/
theorem transfer_leaf (leaf : Leaf) :
    graph.transfer maps wanted (.leaf leaf) = if wanted leaf then AddMonoidHom.id M else 0 := by
  simp only [transfer, pathsTo, pathsWithin]
  split
  · exact Finset.sum_singleton _ _
  · exact Finset.sum_empty

/-- **Paths split at their first node.** -/
theorem transfer_node (descending : graph.Descending) (node : Nat) (gradient : M) :
    graph.transfer maps wanted (.node node) gradient =
      ∑ slot ∈ Finset.range (graph.edges node).length,
        graph.transfer maps wanted (graph.slotEdge node slot) (maps node slot gradient) := by
  have apart : (Finset.range (graph.edges node).length : Set Nat).PairwiseDisjoint fun slot =>
      (graph.pathsWithin wanted node (graph.slotEdge node slot)).map
        ⟨List.cons slot, List.cons_injective⟩ := by
    intro slot _ other _ distinct
    refine Finset.disjoint_left.mpr fun path here there => distinct ?_
    obtain ⟨_, _, first⟩ := Finset.mem_map.mp here
    obtain ⟨_, _, second⟩ := Finset.mem_map.mp there
    exact (List.cons.inj (first.trans second.symm)).1
  rw [transfer, pathsTo, Edge.height, pathsWithin, Finset.sum_biUnion apart,
    AddMonoidHom.finsetSum_apply]
  refine Finset.sum_congr rfl fun slot _ => ?_
  rw [Finset.sum_map, transfer, AddMonoidHom.finsetSum_apply, AddMonoidHom.finsetSum_apply,
    pathsWithin_eq_pathsTo descending (descending.height_slotEdge node slot)]
  rfl

end Sums

end Graph

end Atomistic
