import Atomistic.Autograd.Sweep
import Mathlib.Algebra.BigOperators.Group.Finset.Basic
import Mathlib.Algebra.Order.BigOperators.Group.Finset
import Mathlib.Data.List.Nodup
import Mathlib.Data.List.Perm.Subperm
import Mathlib.Logic.Relation

/-!
# The nodes that a sweep reaches

In a graph whose edges lead to smaller numbers there are no cycles
(`Atomistic.Graph.Descending.acyclic`).  The survey of such a graph finds exactly
the nodes that paths from the root lead to, each once
(`Atomistic.Graph.mem_reached`), and counts the edges of these nodes that lead to
each (`Atomistic.Graph.survey_dependencies`).  It ends because its stack is empty
(`Atomistic.Graph.survey_stack`), so it is never cut off.
-/

namespace Atomistic

namespace Graph

variable {Gradient Leaf Fault : Type} (graph : Graph Gradient Leaf Fault)

/-- An edge of the first node leads to the second. -/
def Leads (node target : Nat) : Prop := target ∈ graph.targets node

/-- A path leads from the first node to the second. -/
def Reaches : Nat → Nat → Prop := Relation.ReflTransGen graph.Leads

/-- Edges lead to smaller numbers. -/
def Descending : Prop := ∀ node target, graph.Leads node target → target < node

/-- The number of edges of some nodes that lead to a node. -/
def inflow (nodes : Finset Nat) (node : Nat) : Nat :=
  ∑ source ∈ nodes, (graph.targets source).count node

/-- The nodes that the survey finds. -/
def reached (root : Nat) : Finset Nat := (graph.survey root).reached.toFinset

variable {graph}

/-- A node that leads to another has an edge to it. -/
theorem mem_edges_of_leads {node target : Nat} (leads : graph.Leads node target) :
    .node target ∈ graph.edges node := by
  obtain ⟨edge, member, goal⟩ := List.mem_filterMap.mp leads
  cases edge with
  | untracked => cases goal
  | leaf leaf => cases goal
  | node other =>
      rw [← Option.some.inj goal]
      exact member

/-- An edge to a node leads there. -/
theorem leads_of_mem_edges {node target : Nat} (member : .node target ∈ graph.edges node) :
    graph.Leads node target :=
  List.mem_filterMap.mpr ⟨_, member, rfl⟩

private theorem Descending.lt_of_transGen (descending : graph.Descending) {node target : Nat}
    (path : Relation.TransGen graph.Leads node target) : target < node := by
  induction path with
  | single edge => exact descending _ _ edge
  | tail _ edge ih => exact (descending _ _ edge).trans ih

/-- No path of one or more edges leads back to its start. -/
theorem Descending.acyclic (descending : graph.Descending) (node : Nat) :
    ¬ Relation.TransGen graph.Leads node node :=
  fun cycle => Nat.lt_irrefl node (descending.lt_of_transGen cycle)

/-- In a descending graph, paths go down. -/
theorem Descending.le_of_reaches (descending : graph.Descending) {node target : Nat}
    (path : graph.Reaches node target) : target ≤ node := by
  rcases Relation.reflTransGen_iff_eq_or_transGen.mp path with same | proper
  · exact same.le
  · exact (descending.lt_of_transGen proper).le

/-- More sources have at least as many edges to a node. -/
theorem inflow_mono {nodes more : Finset Nat} (included : nodes ⊆ more) (node : Nat) :
    graph.inflow nodes node ≤ graph.inflow more node :=
  Finset.sum_le_sum_of_subset included

/-- Another source that leads to a node adds to its edges. -/
theorem inflow_lt {nodes more : Finset Nat} (included : nodes ⊆ more) {source node : Nat}
    (present : source ∈ more) (absent : source ∉ nodes) (edge : graph.Leads source node) :
    graph.inflow nodes node < graph.inflow more node :=
  Finset.sum_lt_sum_of_subset included present absent (List.count_pos_iff.mpr edge)
    fun _ _ _ => Nat.zero_le _

/-- The edges of a list of nodes, counted one after another or as a sum. -/
theorem count_targets {nodes : List Nat} (nodup : nodes.Nodup) (node : Nat) :
    (nodes.flatMap graph.targets).count node = graph.inflow nodes.toFinset node := by
  rw [List.count_flatMap, inflow, List.sum_toFinset _ nodup]
  rfl

end Graph

/-- What holds of a survey after the edges of some finished nodes, when some
targets have been followed in all. -/
structure Survey.Sound {Gradient Leaf Fault : Type} (graph : Graph Gradient Leaf Fault)
    (root : Nat) (finished followed : List Nat) (survey : Survey) : Prop where
  nodup : survey.reached.Nodup
  parted : survey.reached.Perm (finished ++ survey.stack)
  root_mem : root ∈ survey.reached
  reaches : ∀ node ∈ survey.reached, graph.Reaches root node
  closed : ∀ target ∈ followed, target ∈ survey.reached
  counted : ∀ node, (survey.dependencies.get? node).getD 0 = followed.count node

namespace Survey

variable {Gradient Leaf Fault : Type} {graph : Graph Gradient Leaf Fault} {root : Nat}
  {finished followed : List Nat} {survey : Survey}

private theorem follow_dependencies (survey : Survey) (target : Nat) :
    (survey.follow target).dependencies =
      survey.dependencies.set target ((survey.dependencies.get? target).getD 0 + 1) := by
  rw [follow]
  split <;> rfl

/-- A survey stays sound when one more edge is followed. -/
theorem Sound.follow (sound : Sound graph root finished followed survey) {target : Nat}
    (path : graph.Reaches root target) :
    Sound graph root finished (followed ++ [target]) (survey.follow target) := by
  have counted : ∀ node, ((survey.follow target).dependencies.get? node).getD 0 =
      ((followed ++ [target]).count node : Int) := by
    intro node
    rw [follow_dependencies, Table.get?_set, List.count_append, Int.natCast_add,
      ← sound.counted node]
    by_cases same : node = target
    · subst same
      simp
    · simp [same, Ne.symm same]
  by_cases known : target ∈ survey.reached
  · have unchanged : (survey.follow target).reached = survey.reached ∧
        (survey.follow target).stack = survey.stack := by
      rw [Survey.follow, if_pos known]
      exact ⟨rfl, rfl⟩
    refine ⟨?_, ?_, ?_, ?_, ?_, counted⟩
    · rw [unchanged.1]
      exact sound.nodup
    · rw [unchanged.1, unchanged.2]
      exact sound.parted
    · rw [unchanged.1]
      exact sound.root_mem
    · rw [unchanged.1]
      exact sound.reaches
    · rw [unchanged.1]
      intro node member
      rcases List.mem_append.mp member with old | new
      · exact sound.closed node old
      · rw [List.mem_singleton.mp new]
        exact known
  · have pushed : (survey.follow target).reached = survey.reached ++ [target] ∧
        (survey.follow target).stack = target :: survey.stack := by
      rw [Survey.follow, if_neg known]
      exact ⟨rfl, rfl⟩
    refine ⟨?_, ?_, ?_, ?_, ?_, counted⟩
    · rw [pushed.1]
      exact List.nodup_append.mpr ⟨sound.nodup, List.nodup_singleton _, by grind⟩
    · rw [pushed.1, pushed.2]
      have moved : (survey.reached ++ [target]).Perm (target :: (finished ++ survey.stack)) :=
        (List.perm_append_singleton _ _).trans (sound.parted.cons _)
      exact moved.trans List.perm_middle.symm
    · rw [pushed.1]
      exact List.mem_append_left _ sound.root_mem
    · rw [pushed.1]
      intro node member
      rcases List.mem_append.mp member with old | new
      · exact sound.reaches node old
      · rw [List.mem_singleton.mp new]
        exact path
    · rw [pushed.1]
      intro node member
      rcases List.mem_append.mp member with old | new
      · exact List.mem_append_left _ (sound.closed node old)
      · exact List.mem_append_right _ new

private theorem Sound.followAll (targets : List Nat) :
    ∀ {followed : List Nat} {survey : Survey}, Sound graph root finished followed survey →
      (∀ target ∈ targets, graph.Reaches root target) →
      Sound graph root finished (followed ++ targets) (targets.foldl Survey.follow survey) := by
  induction targets with
  | nil =>
      intro followed survey sound _
      rw [List.append_nil]
      exact sound
  | cons target rest ih =>
      intro followed survey sound paths
      have step := sound.follow (paths target List.mem_cons_self)
      have tail := ih step fun other member => paths other (List.mem_cons_of_mem _ member)
      rw [List.append_assoc, List.singleton_append] at tail
      exact tail

/-- A survey stays sound when the edges of the next node are looked at. -/
theorem Sound.next {node : Nat} {rest : List Nat}
    (sound : Sound graph root finished (finished.flatMap graph.targets) survey)
    (top : survey.stack = node :: rest) :
    Sound graph root (finished ++ [node]) ((finished ++ [node]).flatMap graph.targets)
      ((graph.targets node).foldl Survey.follow { survey with stack := rest }) := by
  have member : node ∈ survey.reached := by
    rw [sound.parted.mem_iff, top]
    exact List.mem_append_right _ List.mem_cons_self
  have popped : Sound graph root (finished ++ [node]) (finished.flatMap graph.targets)
      { survey with stack := rest } := by
    refine ⟨sound.nodup, ?_, sound.root_mem, sound.reaches, sound.closed, sound.counted⟩
    have parted := sound.parted
    rw [top] at parted
    rw [List.append_assoc]
    exact parted
  rw [List.flatMap_append, List.flatMap_singleton]
  exact popped.followAll _ fun target edge => (sound.reaches node member).tail edge

private theorem Sound.length_le (sound : Sound graph root finished followed survey)
    (descending : graph.Descending) : finished.length + survey.stack.length ≤ root + 1 := by
  have small : survey.reached ⊆ List.range (root + 1) := fun node member =>
    List.mem_range.mpr (Nat.lt_succ_of_le (descending.le_of_reaches (sound.reaches node member)))
  have bound := (sound.nodup.subperm small).length_le
  rw [sound.parted.length_eq, List.length_append, List.length_range] at bound
  exact bound

end Survey

namespace Graph

variable {Gradient Leaf Fault : Type} {graph : Graph Gradient Leaf Fault} {root : Nat}

/-- A survey that may look at enough nodes ends with an empty stack. -/
theorem explore_sound (descending : graph.Descending) (fuel : Nat) :
    ∀ {finished : List Nat} {survey : Survey},
      Survey.Sound graph root finished (finished.flatMap graph.targets) survey →
      root + 1 ≤ finished.length + fuel →
      (graph.explore fuel survey).stack = [] ∧ ∃ finished,
        Survey.Sound graph root finished (finished.flatMap graph.targets)
          (graph.explore fuel survey) := by
  induction fuel with
  | zero =>
      intro finished survey sound enough
      have bound := sound.length_le descending
      exact ⟨List.eq_nil_of_length_eq_zero (show survey.stack.length = 0 by omega), finished,
        sound⟩
  | succ fuel ih =>
      intro finished survey sound enough
      rw [explore]
      split
      next empty => exact ⟨empty, finished, sound⟩
      next node rest top =>
        refine ih (sound.next top) ?_
        rw [List.length_append, List.length_singleton]
        omega

private theorem start_sound (root : Nat) :
    Survey.Sound graph root [] [] { stack := [root], reached := [root] } where
  nodup := List.nodup_singleton root
  parted := List.Perm.refl _
  root_mem := List.mem_singleton_self root
  reaches node member := by
    rw [List.mem_singleton.mp member]
    exact Relation.ReflTransGen.refl
  closed _ member := absurd member List.not_mem_nil
  counted _ := rfl

/-- The survey ends because no node is left to be looked at. -/
theorem survey_stack (descending : graph.Descending) (root : Nat) :
    (graph.survey root).stack = [] :=
  (explore_sound descending (root + 1) (start_sound root) (by simp)).1

private theorem survey_sound (descending : graph.Descending) (root : Nat) :
    Survey.Sound graph root (graph.survey root).reached
      ((graph.survey root).reached.flatMap graph.targets) (graph.survey root) := by
  obtain ⟨empty, finished, sound⟩ :=
    explore_sound descending (root + 1) (start_sound root) (by simp)
  change (graph.survey root).stack = [] at empty
  change Survey.Sound graph root finished _ (graph.survey root) at sound
  have same : (graph.survey root).reached.Perm finished := by
    have parted := sound.parted
    rw [empty, List.append_nil] at parted
    exact parted
  have edges := same.flatMap_right graph.targets
  refine ⟨sound.nodup, ?_, sound.root_mem, sound.reaches, ?_, ?_⟩
  · rw [empty, List.append_nil]
  · exact fun target member => sound.closed target (edges.mem_iff.mp member)
  · intro node
    rw [edges.count_eq]
    exact sound.counted node

/-- **Reached nodes.** The survey finds exactly the nodes that paths from the root
lead to. -/
theorem mem_reached (descending : graph.Descending) {root node : Nat} :
    node ∈ graph.reached root ↔ graph.Reaches root node := by
  have sound := survey_sound descending root
  rw [reached, List.mem_toFinset]
  refine ⟨sound.reaches node, fun path => ?_⟩
  induction path with
  | refl => exact sound.root_mem
  | tail _ edge ih =>
      exact sound.closed _ (List.mem_flatMap.mpr ⟨_, ih, edge⟩)

/-- **Counted edges.** The survey counts the edges of reached nodes that lead to a
node. -/
theorem survey_dependencies (descending : graph.Descending) (root node : Nat) :
    ((graph.survey root).dependencies.get? node).getD 0 =
      graph.inflow (graph.reached root) node := by
  have sound := survey_sound descending root
  rw [sound.counted node, count_targets sound.nodup, reached]

/-- In a descending graph, no reached node leads to the root. -/
theorem inflow_root (descending : graph.Descending) (root : Nat) :
    graph.inflow (graph.reached root) root = 0 := by
  refine Finset.sum_eq_zero fun source member => List.count_eq_zero.mpr fun edge => ?_
  have below := descending.le_of_reaches ((mem_reached descending).mp member)
  have above := descending source root edge
  omega

/-- Every reached node but the root is led to by a reached node. -/
theorem inflow_pos (descending : graph.Descending) {root node : Nat}
    (member : node ∈ graph.reached root) (other : node ≠ root) :
    0 < graph.inflow (graph.reached root) node := by
  rcases ((mem_reached descending).mp member).cases_tail with same | ⟨source, path, edge⟩
  · exact absurd same other
  · have lower := inflow_lt (Finset.empty_subset _) ((mem_reached descending).mpr path)
      (Finset.notMem_empty source) edge
    rw [inflow, Finset.sum_empty] at lower
    exact lower

end Graph

end Atomistic
