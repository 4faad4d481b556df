import Atomistic.Proofs.Autograd.Survey

/-!
# The order of a sweep

In a graph whose edges lead to smaller numbers, a sweep visits every reached node
once, and only after all reached nodes with an edge to it, whatever gradients the
rules pass on or leave out.  No counter of unused edges falls below zero on the
way, also when a rule fails, and the sweep ends because no node is left
(`Atomistic.Graph.Descending.orderly`).

The proof follows the edges that have been used.  `Atomistic.Sweep.Sound` splits
the edges of the visited nodes into those that have been used and those that are
left; the counter of a node and the edges used for it always add up to the number
of edges that lead to it.
-/

namespace Atomistic

namespace Sweep

variable {Gradient Leaf Fault α β : Type}

/-- The state in which a part of a sweep ended or failed. -/
def Result.state : Result Gradient Leaf Fault (Sweep Gradient Leaf) → Sweep Gradient Leaf
  | .ok sweep => sweep
  | .error (_, sweep) => sweep

/-- A part of a sweep ends with a value of one kind or fails in a state of
another. -/
def Result.Leaves (ended : α → Prop) (failed : Sweep Gradient Leaf → Prop) :
    Result Gradient Leaf Fault α → Prop
  | .ok value => ended value
  | .error (_, sweep) => failed sweep

/-- What one part leaves, the next one starts from. -/
theorem Result.Leaves.bind {middle : α → Prop} {ended : β → Prop}
    {failed : Sweep Gradient Leaf → Prop} {result : Result Gradient Leaf Fault α}
    {next : α → Result Gradient Leaf Fault β} (first : result.Leaves middle failed)
    (second : ∀ value, middle value → (next value).Leaves ended failed) :
    (result >>= next).Leaves ended failed := by
  cases result with
  | error fault => exact first
  | ok value => exact second value first

/-- What holds of both endings holds of the state that is left. -/
theorem Result.Leaves.state {ended failed : Sweep Gradient Leaf → Prop}
    {result : Result Gradient Leaf Fault (Sweep Gradient Leaf)}
    (leaves : result.Leaves ended failed)
    (weaker : ∀ sweep, ended sweep → failed sweep) : failed result.state := by
  cases result with
  | error fault => exact leaves
  | ok sweep => exact weaker sweep leaves

/-- Two things that are left are left together. -/
theorem Result.Leaves.and {ended other : α → Prop} {failed broken : Sweep Gradient Leaf → Prop}
    {result : Result Gradient Leaf Fault α} (first : result.Leaves ended failed)
    (second : result.Leaves other broken) :
    result.Leaves (fun value => ended value ∧ other value)
      (fun sweep => failed sweep ∧ broken sweep) := by
  cases result with
  | error fault => exact ⟨first, second⟩
  | ok value => exact ⟨first, second⟩

/-- What is left can be said with less. -/
theorem Result.Leaves.weaken {ended other : α → Prop} {failed broken : Sweep Gradient Leaf → Prop}
    {result : Result Gradient Leaf Fault α} (leaves : result.Leaves ended failed)
    (ends : ∀ value, ended value → other value) (fails : ∀ sweep, failed sweep → broken sweep) :
    result.Leaves other broken := by
  cases result with
  | error fault => exact fails _ leaves
  | ok value => exact ends _ leaves

/-- A computation that fails leaves the sweep as it is. -/
theorem attempt_leaves {failed : Sweep Gradient Leaf → Prop} {sweep : Sweep Gradient Leaf}
    (result : Except Fault α) (sound : failed sweep) :
    (sweep.attempt result).Leaves (fun value => result = .ok value) failed := by
  cases result with
  | error fault => exact sound
  | ok value => exact rfl

end Sweep

/-- What holds of a sweep after some visits, when some edges of the visited nodes
have been used and the others are left. -/
structure Sweep.Sound {Gradient Leaf Fault : Type} (graph : Graph Gradient Leaf Fault)
    (root : Nat) (visited used left : List Nat) (sweep : Sweep Gradient Leaf) : Prop where
  same : sweep.visited = visited
  parted : visited.flatMap graph.targets = used ++ left
  nodup : (visited ++ sweep.ready).Nodup
  reached : ∀ node ∈ visited ++ sweep.ready, node ∈ graph.reached root
  counted : ∀ node, (sweep.dependencies.get? node).getD 0 + used.count node =
    graph.inflow (graph.reached root) node
  available : ∀ node ∈ graph.reached root,
    node ∈ visited ++ sweep.ready ↔ (sweep.dependencies.get? node).getD 0 = 0
  waiting : ∀ node, (sweep.pending.get? node).isSome → node ∈ graph.reached root ∧ node ∉ visited
  ordered : ∀ before node after, visited = before ++ node :: after →
    ∀ source ∈ graph.reached root, graph.Leads source node → source ∈ before

/-- A sweep between two visits, when all edges of the visited nodes have been used. -/
def Sweep.Settled {Gradient Leaf Fault : Type} (graph : Graph Gradient Leaf Fault) (root : Nat)
    (visited : List Nat) (sweep : Sweep Gradient Leaf) : Prop :=
  sweep.Sound graph root visited (visited.flatMap graph.targets) []

/-- A sweep at any moment. -/
def Sweep.Underway {Gradient Leaf Fault : Type} (graph : Graph Gradient Leaf Fault) (root : Nat)
    (sweep : Sweep Gradient Leaf) : Prop :=
  ∃ visited used left, sweep.Sound graph root visited used left

namespace Sweep

variable {Gradient Leaf Fault : Type} {graph : Graph Gradient Leaf Fault} {root : Nat}
  {visited used left : List Nat} {sweep : Sweep Gradient Leaf}

private theorem Sound.underway (sound : sweep.Sound graph root visited used left) :
    sweep.Underway graph root := ⟨visited, used, left, sound⟩

private theorem Sound.visited_subset (sound : sweep.Sound graph root visited used left) :
    visited.toFinset ⊆ graph.reached root := fun _ member =>
  sound.reached _ (List.mem_append_left _ (List.mem_toFinset.mp member))

private theorem Sound.visited_nodup (sound : sweep.Sound graph root visited used left) :
    visited.Nodup :=
  (List.nodup_append.mp sound.nodup).1

/-- The edges of visited nodes are edges of reached nodes. -/
theorem Sound.within (sound : sweep.Sound graph root visited used left) (node : Nat) :
    used.count node + left.count node ≤ graph.inflow (graph.reached root) node := by
  rw [← List.count_append, ← sound.parted, Graph.count_targets sound.visited_nodup]
  exact Graph.inflow_mono sound.visited_subset node

private theorem Sound.counter_nonneg (sound : sweep.Sound graph root visited used left)
    (node : Nat) :
    0 ≤ (sweep.dependencies.get? node).getD 0 := by
  have counted := sound.counted node
  have within := sound.within node
  omega

/-- The node that an unused edge leads to has a positive counter. -/
theorem Sound.exists_counter {target : Nat}
    (sound : sweep.Sound graph root visited used (target :: left)) :
    ∃ count : Int, sweep.dependencies.get? target = some count ∧ 0 < count := by
  have counted := sound.counted target
  have within := sound.within target
  rw [List.count_cons_self] at within
  cases stored : sweep.dependencies.get? target with
  | none =>
      rw [stored, Option.getD_none] at counted
      omega
  | some count =>
      rw [stored, Option.getD_some] at counted
      exact ⟨count, rfl, by omega⟩

private theorem Sound.target_reached (descending : graph.Descending) {target : Nat}
    (sound : sweep.Sound graph root visited used (target :: left)) :
    target ∈ graph.reached root := by
  have member : target ∈ visited.flatMap graph.targets := by
    rw [sound.parted]
    exact List.mem_append_right _ List.mem_cons_self
  obtain ⟨source, entered, edge⟩ := List.mem_flatMap.mp member
  have path := (Graph.mem_reached descending).mp
    (sound.reached source (List.mem_append_left _ entered))
  exact (Graph.mem_reached descending).mpr (path.tail edge)

private theorem Sound.target_waits (descending : graph.Descending) {target : Nat}
    (sound : sweep.Sound graph root visited used (target :: left)) :
    target ∉ visited ++ sweep.ready := by
  obtain ⟨count, stored, positive⟩ := sound.exists_counter
  rw [sound.available target (sound.target_reached descending), stored, Option.getD_some]
  exact positive.ne'

/-- Using an edge keeps a sweep sound. -/
theorem Sound.arrive (descending : graph.Descending) {target : Nat}
    (sound : sweep.Sound graph root visited used (target :: left)) :
    (sweep.arrive target).Sound graph root visited (used ++ [target]) left := by
  obtain ⟨count, stored, positive⟩ := sound.exists_counter
  have reached := sound.target_reached descending
  have waits := sound.target_waits descending
  have arrived : sweep.arrive target =
      { sweep with
        dependencies := sweep.dependencies.set target (count - 1)
        ready := if count - 1 = 0 then sweep.ready ++ [target] else sweep.ready } := by
    rw [Sweep.arrive, stored]
  have member : ∀ node, node ∈ visited ++ (sweep.arrive target).ready ↔
      node ∈ visited ++ sweep.ready ∨ (node = target ∧ count - 1 = 0) := by
    intro node
    rw [arrived]
    by_cases last : count - 1 = 0
    · simp [last, or_assoc]
    · simp [last]
  refine ⟨?_, ?_, ?_, ?_, ?_, ?_, ?_, sound.ordered⟩
  · rw [arrived]
    exact sound.same
  · rw [List.append_assoc]
    exact sound.parted
  · rw [arrived]
    by_cases last : count - 1 = 0
    · simp only [if_pos last]
      rw [← List.append_assoc]
      refine List.nodup_append.mpr ⟨sound.nodup, List.nodup_singleton _, ?_⟩
      intro node old other new same
      rw [same, List.mem_singleton.mp new] at old
      exact waits old
    · simp only [if_neg last]
      exact sound.nodup
  · intro node present
    rcases (member node).mp present with old | ⟨same, _⟩
    · exact sound.reached node old
    · rw [same]
      exact reached
  · intro node
    have counted := sound.counted node
    rw [arrived, Table.get?_set, List.count_append]
    by_cases same : node = target
    · subst same
      rw [stored, Option.getD_some] at counted
      rw [if_pos rfl, Option.getD_some, List.count_singleton_self]
      omega
    · rw [if_neg same, List.count_singleton, if_neg (by simpa using Ne.symm same)]
      exact counted
  · intro node inside
    rw [member node, sound.available node inside, arrived, Table.get?_set]
    by_cases same : node = target
    · subst same
      rw [if_pos rfl, stored, Option.getD_some, Option.getD_some]
      omega
    · rw [if_neg same]
      simp [same]
  · rw [arrived]
    exact sound.waiting

/-- A sweep stays sound when a gradient is left at a node that is not visited yet. -/
theorem Sound.setPending (sound : sweep.Sound graph root visited used left) {target : Nat}
    (reached : target ∈ graph.reached root) (waits : target ∉ visited) (gradient : Gradient) :
    ({ sweep with pending := sweep.pending.set target gradient }).Sound graph root visited
      used left where
  same := sound.same
  parted := sound.parted
  nodup := sound.nodup
  reached := sound.reached
  counted := sound.counted
  available := sound.available
  ordered := sound.ordered
  waiting node present := by
    rw [Table.get?_set] at present
    by_cases same : node = target
    · rw [same]
      exact ⟨reached, waits⟩
    · rw [if_neg same] at present
      exact sound.waiting node present

private theorem Sound.setDelivered (sound : sweep.Sound graph root visited used left)
    (delivered : List (Leaf × Gradient)) :
    ({ sweep with delivered }).Sound graph root visited used left :=
  ⟨sound.same, sound.parted, sound.nodup, sound.reached, sound.counted, sound.available,
    sound.waiting, sound.ordered⟩

private theorem Sound.gather (descending : graph.Descending) {target : Nat}
    (sound : sweep.Sound graph root visited used (target :: left)) (gradient : Gradient) :
    (graph.gather sweep target gradient).Leaves
      (fun after => after.Sound graph root visited used (target :: left))
      (Underway graph root) := by
  have reached := sound.target_reached descending
  have waits : target ∉ visited := fun member =>
    sound.target_waits descending (List.mem_append_left _ member)
  have stored : ∀ total, (pure { sweep with pending := sweep.pending.set target total } :
      Result Gradient Leaf Fault (Sweep Gradient Leaf)).Leaves
        (fun after => after.Sound graph root visited used (target :: left))
        (Underway graph root) :=
    fun total => sound.setPending reached waits total
  rw [Graph.gather]
  cases sweep.pending.get? target with
  | none => exact stored gradient
  | some old =>
      exact (attempt_leaves (graph.meet target old gradient) sound.underway).bind
        fun total _ => stored total

private theorem Sound.follow (descending : graph.Descending) (edge : Edge Leaf)
    (gradient : Option Gradient)
    (sound : sweep.Sound graph root visited used (edge.target?.toList ++ left)) :
    (graph.follow sweep edge gradient).Leaves
      (fun after => after.Sound graph root visited (used ++ edge.target?.toList) left)
      (Underway graph root) := by
  cases edge with
  | untracked =>
      rw [show (Edge.untracked : Edge Leaf).target?.toList = [] from rfl, List.append_nil]
      exact sound
  | leaf leaf =>
      rw [show (Edge.leaf leaf).target?.toList = [] from rfl, List.append_nil]
      cases gradient with
      | none => exact sound
      | some gradient =>
          exact (attempt_leaves (graph.accept leaf gradient) sound.underway).bind
            fun _ _ => sound.setDelivered _
  | node target =>
      cases gradient with
      | none => exact sound.arrive descending
      | some gradient =>
          exact (sound.gather descending gradient).bind fun _ after => after.arrive descending

private theorem targets_cons (edge : Edge Leaf) (edges : List (Edge Leaf)) :
    (edge :: edges).filterMap Edge.target? =
      edge.target?.toList ++ edges.filterMap Edge.target? := by
  rw [List.filterMap_cons]
  cases edge.target? <;> rfl

private theorem Sound.followAll (descending : graph.Descending) (edges : List (Edge Leaf)) :
    ∀ {used : List Nat} {sweep : Sweep Gradient Leaf} (gradients : List (Option Gradient)),
      sweep.Sound graph root visited used (edges.filterMap Edge.target?) →
      (graph.followAll edges gradients sweep).Leaves
        (fun after => after.Sound graph root visited (used ++ edges.filterMap Edge.target?) [])
        (Underway graph root) := by
  induction edges with
  | nil =>
      intro used sweep gradients sound
      rw [List.filterMap_nil, List.append_nil]
      exact sound
  | cons edge rest ih =>
      intro used sweep gradients sound
      rw [targets_cons] at sound ⊢
      rw [← List.append_assoc]
      exact (sound.follow descending edge gradients.head?.join).bind fun _ after =>
        ih gradients.tail after

/-- All edges that lead to a node with an exhausted counter come from visited
nodes. -/
theorem Settled.sources_visited (settled : sweep.Settled graph root visited) {node : Nat}
    (exhausted : (sweep.dependencies.get? node).getD 0 = 0) {source : Nat}
    (reached : source ∈ graph.reached root) (edge : graph.Leads source node) :
    source ∈ visited := by
  by_contra missing
  have counted := settled.counted node
  have less := Graph.inflow_lt settled.visited_subset reached
    (fun member => missing (List.mem_toFinset.mp member)) edge
  rw [Graph.count_targets settled.visited_nodup, exhausted] at counted
  omega

/-- The counter of a node is exhausted when all its sources are visited. -/
theorem Settled.exhausted (settled : sweep.Settled graph root visited) {node : Nat}
    (sources : ∀ source ∈ graph.reached root, graph.Leads source node → source ∈ visited) :
    (sweep.dependencies.get? node).getD 0 = 0 := by
  have counted := settled.counted node
  have within : graph.inflow (graph.reached root) node ≤ graph.inflow visited.toFinset node := by
    refine Finset.sum_le_sum_of_ne_zero fun source reached counts => ?_
    have edge : graph.Leads source node := List.count_pos_iff.mp (Nat.pos_of_ne_zero counts)
    exact List.mem_toFinset.mpr (sources source reached edge)
  rw [Graph.count_targets settled.visited_nodup] at counted
  have nonneg := settled.counter_nonneg node
  omega

/-- Taking the next node of the queue keeps a sweep sound. -/
theorem Settled.enter (settled : sweep.Settled graph root visited) {node : Nat}
    {rest : List Nat} (next : sweep.ready = node :: rest) :
    ({ sweep with
        ready := rest
        pending := sweep.pending.erase node
        visited := sweep.visited ++ [node] }).Sound graph root (visited ++ [node])
      (visited.flatMap graph.targets) (graph.targets node) := by
  have moved : (visited ++ [node]) ++ rest = visited ++ sweep.ready := by
    rw [List.append_assoc, next, List.singleton_append]
  have member : node ∈ visited ++ sweep.ready := by
    rw [next]
    exact List.mem_append_right _ List.mem_cons_self
  refine ⟨?_, ?_, ?_, ?_, settled.counted, ?_, ?_, ?_⟩
  · rw [settled.same]
  · rw [List.flatMap_append, List.flatMap_singleton]
  · rw [moved]
    exact settled.nodup
  · rw [moved]
    exact settled.reached
  · rw [moved]
    exact settled.available
  · intro other present
    rw [Table.get?_erase] at present
    by_cases same : other = node
    · rw [if_pos same] at present
      exact absurd present Bool.false_ne_true
    · rw [if_neg same] at present
      refine ⟨(settled.waiting other present).1, fun entered => ?_⟩
      rcases List.mem_append.mp entered with old | new
      · exact (settled.waiting other present).2 old
      · exact same (List.mem_singleton.mp new)
  · intro before other after entered source reached edge
    -- the node either is the new one, or has its place among the nodes visited before
    rcases List.eq_nil_or_concat after with empty | ⟨init, last, concat⟩
    · rw [empty] at entered
      obtain ⟨same, equal⟩ := List.append_inj' entered rfl
      rw [← same]
      rw [← List.singleton_inj.mp equal] at edge
      have exhausted := (settled.available node (settled.reached node member)).mp member
      exact settled.sources_visited exhausted reached edge
    · rw [concat, List.concat_eq_append, ← List.cons_append, ← List.append_assoc] at entered
      exact settled.ordered before other init (List.append_inj' entered rfl).1 source reached edge

/-- A visit leaves a sweep between two visits again. -/
theorem Settled.visit (descending : graph.Descending)
    (settled : sweep.Settled graph root visited) {node : Nat} {rest : List Nat}
    (next : sweep.ready = node :: rest) :
    (graph.visit { sweep with ready := rest } node).Leaves
      (fun after => after.Settled graph root (visited ++ [node])) (Underway graph root) := by
  have entered := settled.enter next
  refine (attempt_leaves _ entered.underway).bind fun gradients _ => ?_
  have all := Sound.followAll descending (graph.edges node) gradients entered
  have edges : (visited ++ [node]).flatMap graph.targets =
      visited.flatMap graph.targets ++ graph.targets node := by
    rw [List.flatMap_append, List.flatMap_singleton]
  simp only [Settled, edges]
  exact all

/-- **A run of visits.** Visits keep a sweep between two visits, and no node is left
after as many of them as there are nodes that have not been visited. -/
theorem Settled.drain (descending : graph.Descending) (fuel : Nat) :
    ∀ {visited : List Nat} {sweep : Sweep Gradient Leaf}, sweep.Settled graph root visited →
      (graph.drain fuel sweep).Leaves
        (fun after => ∃ all, after.Settled graph root all ∧
          ((graph.reached root).card ≤ visited.length + fuel → after.ready = []))
        (Underway graph root) := by
  induction fuel with
  | zero =>
      intro visited sweep settled
      refine ⟨visited, settled, fun enough => ?_⟩
      have subset : (visited ++ sweep.ready).toFinset ⊆ graph.reached root := fun node member =>
        settled.reached node (List.mem_toFinset.mp member)
      have bound := Finset.card_le_card subset
      rw [List.toFinset_card_of_nodup settled.nodup, List.length_append] at bound
      exact List.eq_nil_of_length_eq_zero (by omega)
  | succ fuel ih =>
      intro visited sweep settled
      rw [Graph.drain]
      split
      next empty => exact ⟨visited, settled, fun _ => empty⟩
      next node rest next =>
        refine (settled.visit descending next).bind fun after later => ?_
        have run := ih later
        rw [List.length_append, List.length_singleton, Nat.add_assoc, Nat.add_comm 1] at run
        exact run

/-- In a descending graph, a sweep starts settled, before any visit. -/
theorem start_settled (descending : graph.Descending) (root : Nat) (seed : Gradient) :
    (graph.start root seed).Settled graph root [] := by
  have root_reached : root ∈ graph.reached root :=
    (Graph.mem_reached descending).mpr Relation.ReflTransGen.refl
  have counted := Graph.survey_dependencies descending root
  refine ⟨rfl, rfl, List.nodup_singleton root, ?_, ?_, ?_, ?_, ?_⟩
  · intro node member
    rw [List.mem_singleton.mp member]
    exact root_reached
  · intro node
    exact (Int.add_zero _).trans (counted node)
  · intro node reached
    rw [Graph.start, counted node, List.nil_append, List.mem_singleton, Int.natCast_eq_zero]
    constructor
    · intro same
      rw [same, Graph.inflow_root descending]
    · intro none
      by_contra other
      exact (Graph.inflow_pos descending reached other).ne' none
  · intro node present
    rw [Graph.start, Table.get?_singleton] at present
    by_cases same : node = root
    · rw [same]
      exact ⟨root_reached, List.not_mem_nil⟩
    · rw [if_neg same] at present
      exact absurd present Bool.false_ne_true
  · intro before node after impossible
    exact absurd impossible.symm (List.append_ne_nil_of_right_ne_nil before (List.cons_ne_nil _ _))

/-- When no node is left, all reached nodes have been visited. -/
theorem Settled.complete (descending : graph.Descending)
    (settled : sweep.Settled graph root visited) (empty : sweep.ready = []) {node : Nat}
    (member : node ∈ graph.reached root) : node ∈ visited := by
  -- nodes with an edge to this one are nearer to the root
  induction distance : root - node using Nat.strong_induction_on generalizing node with
  | _ distance ih =>
      have exhausted := settled.exhausted fun source reached edge => by
        have lower := descending source node edge
        have upper := descending.le_of_reaches ((Graph.mem_reached descending).mp reached)
        exact ih (root - source) (by omega) reached rfl
      have done := (settled.available node member).mpr exhausted
      rw [empty, List.append_nil] at done
      exact done

end Sweep

namespace Graph

variable {Gradient Leaf Fault : Type} {graph : Graph Gradient Leaf Fault}

/-- A run of visits that ended because no node is left does not go on. -/
theorem drain_add (fuel extra : Nat) :
    ∀ sweep : Sweep Gradient Leaf,
      (graph.drain fuel sweep).Leaves (fun after => after.ready = []) (fun _ => True) →
        graph.drain (fuel + extra) sweep = graph.drain fuel sweep := by
  induction fuel with
  | zero =>
      intro sweep ended
      have empty : sweep.ready = [] := ended
      rw [Nat.zero_add]
      cases extra with
      | zero => rfl
      | succ extra => simp only [drain, empty]
  | succ fuel ih =>
      intro sweep ended
      rw [Nat.add_right_comm, drain, drain]
      rw [drain] at ended
      cases next : sweep.ready with
      | nil => rfl
      | cons node rest =>
          rw [next] at ended
          cases visited : graph.visit { sweep with ready := rest } node with
          | error fault => simp only [visited]; rfl
          | ok after =>
              simp only [visited] at ended ⊢
              exact ih after ended

/-- What a sweep of a graph from a root does, whatever its rules give. -/
structure Orderly (graph : Graph Gradient Leaf Fault) (root : Nat) (seed : Gradient) : Prop where
  /-- The survey looks at all nodes that it finds. -/
  surveyed : (graph.survey root).stack = []
  /-- The sweep does not end because it ran out of visits. -/
  finished : ∀ extra, graph.drain ((graph.survey root).reached.length + extra)
    (graph.start root seed) = graph.drain (graph.survey root).reached.length (graph.start root seed)
  /-- After any number of visits, also after a failure, no counter is negative. -/
  counters : ∀ visits node, 0 ≤
    ((graph.drain visits (graph.start root seed)).state.dependencies.get? node).getD 0
  /-- Without a failure, exactly the reached nodes are visited, each once. -/
  visited : (graph.sweep root seed).1 = .ok () → (graph.sweep root seed).2.ready = [] ∧
    (graph.sweep root seed).2.visited.Nodup ∧
      ∀ node, node ∈ (graph.sweep root seed).2.visited ↔ graph.Reaches root node
  /-- A node is visited after all reached nodes with an edge to it. -/
  ordered : ∀ before node after, (graph.sweep root seed).2.visited = before ++ node :: after →
    ∀ source, graph.Reaches root source → graph.Leads source node → source ∈ before

/-- The state that a sweep leaves is that in which its last visit ended. -/
theorem sweep_snd (graph : Graph Gradient Leaf Fault) (root : Nat) (seed : Gradient) :
    (graph.sweep root seed).2 =
      (graph.drain (graph.survey root).reached.length (graph.start root seed)).state := by
  rw [sweep]
  cases graph.drain (graph.survey root).reached.length (graph.start root seed) <;> rfl

/-- A sweep that succeeds has run all its visits. -/
theorem drain_of_sweep_ok {root : Nat} {seed : Gradient}
    (success : (graph.sweep root seed).1 = .ok ()) :
    graph.drain (graph.survey root).reached.length (graph.start root seed) =
      .ok (graph.sweep root seed).2 := by
  rw [sweep] at success ⊢
  cases ended : graph.drain (graph.survey root).reached.length (graph.start root seed) with
  | ok after => rfl
  | error failure =>
      rw [ended] at success
      cases success

private theorem reached_card_le (graph : Graph Gradient Leaf Fault) (root : Nat) :
    (graph.reached root).card ≤ ([] : List Nat).length + (graph.survey root).reached.length := by
  rw [List.length_nil, Nat.zero_add, reached]
  exact List.toFinset_card_le _

/-- A sweep that succeeds ends with all nodes visited and none left. -/
theorem Descending.sweep_settled (descending : graph.Descending) {root : Nat} {seed : Gradient}
    (success : (graph.sweep root seed).1 = .ok ()) :
    (graph.sweep root seed).2.Settled graph root (graph.sweep root seed).2.visited ∧
      (graph.sweep root seed).2.ready = [] := by
  have run := (Sweep.start_settled descending root seed).drain descending
    (graph.survey root).reached.length
  rw [drain_of_sweep_ok success] at run
  obtain ⟨all, settled, empty⟩ := run
  rw [settled.same]
  exact ⟨settled, empty (reached_card_le graph root)⟩

/-- **Sweeps are orderly.** -/
theorem Descending.orderly (descending : graph.Descending) (root : Nat) (seed : Gradient) :
    graph.Orderly root seed := by
  have settled := Sweep.start_settled descending root seed
  have underway : ∀ visits,
      (graph.drain visits (graph.start root seed)).state.Underway graph root := fun visits =>
    (settled.drain descending visits).state fun _ ⟨_, last, _⟩ => last.underway
  refine ⟨survey_stack descending root, fun extra => ?_, ?_, fun success => ?_, ?_⟩
  · refine drain_add _ extra _ ?_
    have run := settled.drain descending (graph.survey root).reached.length
    cases ended : graph.drain (graph.survey root).reached.length (graph.start root seed) with
    | error failure => trivial
    | ok after =>
        rw [ended] at run
        obtain ⟨_, _, empty⟩ := run
        exact empty (reached_card_le graph root)
  · intro visits node
    obtain ⟨_, _, _, sound⟩ := underway visits
    exact sound.counter_nonneg node
  · obtain ⟨last, empty⟩ := descending.sweep_settled success
    refine ⟨empty, last.visited_nodup, fun node => ?_⟩
    rw [← mem_reached descending]
    exact ⟨fun member => last.reached node (List.mem_append_left _ member),
      fun member => last.complete descending empty member⟩
  · intro before node after visited source path edge
    obtain ⟨_, _, _, sound⟩ := underway (graph.survey root).reached.length
    rw [sweep_snd, sound.same] at visited
    exact sound.ordered before node after visited source ((mem_reached descending).mpr path) edge

end Graph

end Atomistic
