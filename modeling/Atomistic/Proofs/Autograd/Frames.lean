import Atomistic.Proofs.Autograd.Applied
import Atomistic.Proofs.Autograd.PathSum
import Atomistic.Proofs.Autograd.Permanence

/-!
# What a pass leaves alone

A pass from a root changes nothing but the gradients of the leaves that the root feeds
(`Atomistic.Tape.Sound.state_of_not_feeds`), also when it fails.  A leaf that a node leads to
may have become the output of another node since, but only of a later one
(`Atomistic.Tape.Steps.aged`).
-/

namespace Atomistic

namespace Tape

variable {D : Type} {tape after : Tape D}

/-- The nodes that lead to a leaf are older than the node that made it their output, if one
did. -/
def Aged (tape : Tape D) : Prop :=
  ∀ (number : Nat) (node : Node D), tape.nodes[number]? = some node →
    ∀ leaf, .leaf leaf ∈ node.edges →
      ∀ maker, (tape.state leaf.number).gradFn = some maker → number < maker

/-- The empty tape has no nodes. -/
theorem Aged.start : ({} : Tape D).Aged := fun number node present => by simp at present

private theorem Aged.of_gradFn (aged : tape.Aged) (nodes : after.nodes = tape.nodes)
    (gradFn : ∀ number, (after.state number).gradFn = (tape.state number).gradFn) : after.Aged := by
  intro number node present leaf member maker produced
  rw [nodes] at present
  rw [gradFn] at produced
  exact aged number node present leaf member maker produced

/-- A leaf that becomes the output of a node is older than the node, and the new node leads to
no output of its own. -/
theorem Aged.attach (aged : tape.Aged) {inputs : List (Tensor D)} {output : Tensor D}
    {node : Node D} (edges : node.edges = inputs.map tape.edgeTo)
    (attached : Attached tape after output node) : after.Aged := by
  intro number other present leaf member maker produced
  rw [attached.nodes, Array.getElem?_push] at present
  by_cases new : number = tape.nodes.size
  · rw [if_pos new] at present
    rw [← Option.some.inj present, edges] at member
    obtain ⟨input, _, edge⟩ := List.mem_map.mp member
    obtain ⟨rfl, tracked, none⟩ := edgeTo_eq_leaf_iff.mp edge
    have apart : leaf.number ≠ output.number := by
      intro same
      rw [same, attached.untracked] at tracked
      cases tracked
    rw [attached.others _ apart, none] at produced
    cases produced
  · rw [if_neg new] at present
    by_cases same : leaf.number = output.number
    · rw [same, attached.placed] at produced
      rw [← Option.some.inj produced]
      exact (Array.getElem?_eq_some_iff.mp present).1
    · rw [attached.others _ same] at produced
      exact aged number other present leaf member maker produced

variable [TensorData D]

private theorem Step.aged (step : Step tape after) (aged : tape.Aged) : after.Aged := by
  cases step with
  | place outcome => exact aged.of_gradFn rfl fun _ => rfl
  | zeroGrad known => exact aged.of_gradFn rfl (gradFn_of_marks (tape.marks_setGrad _ none))
  | setRequiresGrad known changed =>
      rw [Tape.setRequiresGrad] at changed
      split at changed
      · cases changed
      · rw [← Except.ok.inj changed]
        exact aged.of_gradFn rfl (tape.gradFn_setFlag _ _)
  | attach _ _ edges attached => exact aged.attach edges (attached_of_attach attached)
  | @backward root _ seed =>
      exact aged.of_gradFn (tape.nodes_backward root seed)
        (gradFn_of_marks (tape.marks_backward root seed))

/-- **Leaves become outputs only of later nodes.** -/
theorem Steps.aged (steps : Steps tape after) (aged : tape.Aged) : after.Aged := by
  induction steps with
  | refl => exact aged
  | tail _ step ih => exact step.aged ih

/-- The leaves that a pass from a root can add gradients to: the root itself if no node
produced it, and the leaves that edges lead to from nodes which paths from the root lead to. -/
inductive Feeds (tape : Tape D) (root : Tensor D) : Tensor D → Prop
  | root (leaf : (tape.state root.number).gradFn = none) : Feeds tape root root
  | edge {first number : Nat} {leaf : Tensor D}
      (produced : (tape.state root.number).gradFn = some first)
      (path : tape.graph.Reaches first number) (edge : .leaf leaf ∈ tape.graph.edges number) :
      Feeds tape root leaf

/-- Everything that a sweep delivers goes to leaves that the root feeds. -/
theorem Sound.feeds_delivered (sound : tape.Sound) {root : Tensor D} {node : Nat}
    (produced : (tape.state root.number).gradFn = some node) (seed : View D) :
    ∀ entry ∈ (tape.graph.sweep node seed).2.delivered, tape.Feeds root entry.1 := by
  intro entry member
  obtain ⟨⟨source, reached, edge⟩, _⟩ := sound.descending.sweep_delivered node seed entry member
  exact .edge produced ((Graph.mem_reached sound.descending).mp reached) edge

/-- **A pass changes only leaves that its root feeds**, also when it fails. -/
theorem Sound.state_of_not_feeds (sound : tape.Sound) {root : Tensor D} (seed : View D)
    {number : Nat} (apart : ∀ leaf, tape.Feeds root leaf → leaf.number ≠ number) :
    (tape.backward root seed).2.state number = tape.state number := by
  cases produced : (tape.state root.number).gradFn with
  | none =>
      have other := (apart root (.root produced)).symm
      rw [Tape.backward, produced]
      dsimp only
      cases accept tape.sweeps root seed with
      | error fault => rfl
      | ok gradient =>
          exact deliver_state { tape with sweeps := tape.sweeps + 1 } root gradient other
  | some node =>
      rw [backward_node produced]
      refine deliverAll_state number _ _ fun entry member => ?_
      exact apart entry.1 (sound.feeds_delivered produced seed entry member)

/-- A leaf that is fed and is the output of a node was led to by an older node. -/
theorem Feeds.older (aged : tape.Aged) {root leaf : Tensor D} (feeds : tape.Feeds root leaf)
    {maker : Nat} (made : (tape.state leaf.number).gradFn = some maker) :
    ∃ first number, (tape.state root.number).gradFn = some first ∧
      tape.graph.Reaches first number ∧ .leaf leaf ∈ tape.graph.edges number ∧ number < maker := by
  cases feeds with
  | root none =>
      rw [none] at made
      cases made
  | @edge first number _ produced path edge =>
      obtain ⟨node, stored, member⟩ := exists_node edge
      exact ⟨first, number, produced, path, edge, aged number node stored leaf member maker made⟩

end Tape

end Atomistic
