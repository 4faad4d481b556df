import Atomistic.Proofs.Autograd.Marks

/-!
# What outlasts all steps

Steps add nodes to a tape and change none, and the output of a node stays the output of that
node (`Atomistic.Tape.Steps.continues`).  A node whose rule fails stops a sweep without
delivering anything (`Atomistic.Graph.visit_fails`), so that a sweep which starts with such a
node changes no tensor (`Atomistic.Tape.backward_fails`).
-/

namespace Atomistic

namespace Graph

variable {Gradient Leaf Fault : Type} {graph : Graph Gradient Leaf Fault} {node : Nat}
  {gradient : Gradient} {fault : Fault}

/-- A visit fails when the rule does, and then delivers nothing. -/
theorem visit_fails {sweep : Sweep Gradient Leaf}
    (waiting : sweep.pending.get? node = some gradient)
    (failed : graph.rule node gradient = .error fault) :
    ∃ stopped, graph.visit sweep node = .error (fault, stopped) ∧
      stopped.delivered = sweep.delivered := by
  rw [visit, waiting, passOn, failed]
  exact ⟨_, rfl, rfl⟩

/-- A sweep is over at once if its root fails. -/
theorem Descending.sweep_fails (descending : graph.Descending)
    (failed : graph.rule node gradient = .error fault) :
    ∃ stopped, graph.sweep node gradient = (.error fault, stopped) ∧ stopped.delivered = [] := by
  -- The root is among the reached nodes, so there is a visit for it.
  have member : node ∈ (graph.survey node).reached :=
    List.mem_toFinset.mp ((mem_reached descending).mpr .refl)
  have waiting : (graph.start node gradient).pending.get? node = some gradient :=
    (Table.get?_singleton node gradient node).trans (if_pos rfl)
  obtain ⟨visits, count⟩ := Nat.exists_eq_succ_of_ne_zero (List.length_pos_of_mem member).ne'
  obtain ⟨stopped, visited, same⟩ := @visit_fails _ _ _ graph node gradient fault
    { graph.start node gradient with ready := [] } waiting failed
  have drained : graph.drain (graph.survey node).reached.length (graph.start node gradient) =
      .error (fault, stopped) := by
    rw [count]
    change (graph.visit { graph.start node gradient with ready := [] } node >>= _) = _
    rw [visited]
    rfl
  exact ⟨stopped, by rw [sweep, drained], same⟩

end Graph

namespace Tape

variable {D : Type} {tape after last : Tape D}

/-- All nodes are still there, and all outputs of nodes still are their outputs. -/
structure Continues (tape after : Tape D) : Prop where
  nodes : ∀ {number : Nat} {node : Node D}, tape.nodes[number]? = some node →
    after.nodes[number]? = some node
  produced : ∀ {tensor number : Nat}, (tape.state tensor).gradFn = some number →
    (after.state tensor).gradFn = some number

/-- A tape continues itself. -/
theorem Continues.refl (tape : Tape D) : Continues tape tape := ⟨id, id⟩

/-- Tapes continue one another in turn. -/
theorem Continues.trans (first : Continues tape after) (second : Continues after last) :
    Continues tape last :=
  ⟨fun stored => second.nodes (first.nodes stored),
    fun produced => second.produced (first.produced produced)⟩

private theorem Continues.of_marks (nodes : after.nodes = tape.nodes)
    (marks : after.marks = tape.marks) :
    Continues tape after where
  nodes stored := nodes ▸ stored
  produced produced := (gradFn_of_marks marks _).trans produced

/-- A tape goes on when the state of a tensor that no node produced is replaced. -/
theorem Continues.setState {number : Nat} (leaf : ¬ (tape.state number).gradFn.isSome)
    (state : GradState D) : Continues tape (tape.setState number state) where
  nodes := id
  produced {tensor producer} produced := by
    have other : tensor ≠ number := fun same => leaf (by rw [← same, produced]; rfl)
    rw [state_setState, if_neg other]
    exact produced

private theorem Continues.pushNode (tape : Tape D) (node : Node D) :
    Continues tape { tape with nodes := tape.nodes.push node } where
  nodes {number stored} present := by
    have inside : number < tape.nodes.size := (Array.getElem?_eq_some_iff.mp present).1
    rw [Array.getElem?_push, if_neg inside.ne]
    exact present
  produced := id

variable [TensorData D]

private theorem nodes_deliverAll (delivered : List (Tensor D × View D)) :
    ∀ tape : Tape D, (tape.deliverAll delivered).nodes = tape.nodes := by
  induction delivered with
  | nil => exact fun _ => rfl
  | cons entry rest ih => exact fun tape => ih (tape.deliver entry.1 entry.2)

/-- A pass makes no nodes. -/
theorem nodes_backward (tape : Tape D) (root : Tensor D) (seed : View D) :
    (tape.backward root seed).2.nodes = tape.nodes := by
  rw [Tape.backward]
  split
  · cases accept tape.sweeps root seed <;> rfl
  · exact nodes_deliverAll _ { tape with sweeps := tape.sweeps + 1 }

private theorem Step.continues (step : Step tape after) : Continues tape after := by
  cases step with
  | place outcome => exact .of_marks rfl rfl
  | zeroGrad known => exact .of_marks rfl (tape.marks_setGrad _ none)
  | setRequiresGrad known changed =>
      rw [Tape.setRequiresGrad] at changed
      split at changed
      · cases changed
      next leaf =>
        rw [← Except.ok.inj changed]
        exact .setState leaf _
  | @attach _ _ output node _ _ _ attached =>
      rw [Tape.attach] at attached
      split at attached
      · cases attached
      next free =>
        rw [← Except.ok.inj attached]
        have leaf : ¬ (tape.state output.number).gradFn.isSome := fun found =>
          free (Bool.or_eq_true_iff.mpr (.inr found))
        let longer : Tape D := { tape with nodes := tape.nodes.push node }
        exact (Continues.pushNode tape node).trans (@Continues.setState _ longer _ leaf _)
  | @backward root _ seed =>
      exact .of_marks (tape.nodes_backward root seed) (tape.marks_backward root seed)

/-- **Nodes and their outputs are for good.** -/
theorem Steps.continues (steps : Steps tape after) : Continues tape after := by
  induction steps with
  | refl => exact .refl tape
  | tail _ step ih => exact ih.trans step.continues

variable {number : Nat} {node : Node D} {gradient : View D} {fault : TensorError}

/-- The graph fails at a node as its rule does. -/
theorem graph_rule_fails (stored : tape.nodes[number]? = some node)
    (failed : node.rule node.context gradient = .error fault) :
    tape.graph.rule number gradient = .error fault := by
  simp only [graph, stored, failed]
  rfl

/-- What a node passes on is not complained about if it has an edge for every gradient. -/
theorem passOn_eq_rule (stored : tape.nodes[number]? = some node)
    (counted : ∀ outcomes, node.rule node.context gradient = .ok outcomes →
      outcomes.length = node.edges.length) :
    tape.graph.passOn number (some gradient) = tape.graph.rule number gradient := by
  simp only [Graph.passOn, graph, stored]
  cases ruled : node.rule node.context gradient with
  | error fault => rfl
  | ok outcomes =>
      have same := counted outcomes ruled
      change (if _ ∧ _ then _ else _) = _
      rw [if_neg]
      · rfl
      · simp [same]

/-- Carrying a gradient back to a node that fails changes no tensor. -/
theorem backward_fails (sound : tape.Sound) {root : Tensor D}
    (produced : (tape.state root.number).gradFn = some number)
    (stored : tape.nodes[number]? = some node)
    (failed : node.rule node.context gradient = .error fault) :
    tape.backward root gradient = (.error fault, { tape with sweeps := tape.sweeps + 1 }) := by
  obtain ⟨stopped, swept, nothing⟩ := sound.descending.sweep_fails (graph_rule_fails stored failed)
  rw [Tape.backward, produced]
  dsimp only
  rw [swept]
  dsimp only
  rw [nothing]
  rfl

end Tape

end Atomistic
