import Atomistic.Proofs.Autograd.Visits

/-!
# What a sweep delivers

Everything that a sweep delivers, also when it fails, is a gradient that a leaf
accepted at an edge of a reached node (`Atomistic.Graph.Descending.sweep_delivered`).
-/

namespace Atomistic

namespace Graph

variable {Gradient Leaf Fault : Type} (graph : Graph Gradient Leaf Fault)

/-- A gradient as a leaf accepted it, at an edge of one of some nodes. -/
def Accepted (nodes : Finset Nat) (entry : Leaf × Gradient) : Prop :=
  (∃ node ∈ nodes, Edge.leaf entry.1 ∈ graph.edges node) ∧
    ∃ raw, graph.accept entry.1 raw = .ok entry.2

/-- A sweep that has delivered only accepted gradients. -/
def Delivers (nodes : Finset Nat) (sweep : Sweep Gradient Leaf) : Prop :=
  ∀ entry ∈ sweep.delivered, graph.Accepted nodes entry

variable {graph} {nodes : Finset Nat}

private theorem Delivers.arrive {sweep : Sweep Gradient Leaf}
    (delivers : graph.Delivers nodes sweep)
    (node : Nat) : graph.Delivers nodes (sweep.arrive node) := by
  rw [Sweep.arrive]
  split <;> exact delivers

private theorem Delivers.gather {sweep : Sweep Gradient Leaf}
    (delivers : graph.Delivers nodes sweep)
    (node : Nat) (gradient : Gradient) :
    (graph.gather sweep node gradient).Leaves (graph.Delivers nodes) (graph.Delivers nodes) := by
  rw [Graph.gather]
  cases sweep.pending.get? node with
  | none => exact delivers
  | some old =>
      exact (Sweep.attempt_leaves (graph.meet node old gradient) delivers).bind
        fun _ _ => delivers

private theorem Delivers.follow {sweep : Sweep Gradient Leaf}
    (delivers : graph.Delivers nodes sweep)
    {node : Nat} (present : node ∈ nodes) {edge : Edge Leaf} (member : edge ∈ graph.edges node)
    (gradient : Option Gradient) :
    (graph.follow sweep edge gradient).Leaves (graph.Delivers nodes) (graph.Delivers nodes) := by
  cases edge with
  | untracked => exact delivers
  | leaf leaf =>
      cases gradient with
      | none => exact delivers
      | some gradient =>
          refine (Sweep.attempt_leaves (graph.accept leaf gradient) delivers).bind
            fun taken accepted => ?_
          intro entry listed
          rcases List.mem_append.mp listed with old | new
          · exact delivers entry old
          · rw [List.mem_singleton.mp new]
            exact ⟨⟨node, present, member⟩, gradient, accepted⟩
  | node target =>
      cases gradient with
      | none => exact delivers.arrive target
      | some gradient =>
          exact (delivers.gather target gradient).bind fun _ after => after.arrive target

private theorem Delivers.followAll {node : Nat} (present : node ∈ nodes)
    (edges : List (Edge Leaf)) :
    ∀ {sweep : Sweep Gradient Leaf} (gradients : List (Option Gradient)),
      (∀ edge ∈ edges, edge ∈ graph.edges node) → graph.Delivers nodes sweep →
      (graph.followAll edges gradients sweep).Leaves (graph.Delivers nodes)
        (graph.Delivers nodes) := by
  induction edges with
  | nil =>
      intro sweep gradients _ delivers
      exact delivers
  | cons edge rest ih =>
      intro sweep gradients members delivers
      exact (delivers.follow present (members edge List.mem_cons_self) _).bind fun _ after =>
        ih gradients.tail (fun other member => members other (List.mem_cons_of_mem _ member)) after

private theorem Delivers.visit {sweep : Sweep Gradient Leaf} (delivers : graph.Delivers nodes sweep)
    {node : Nat} (present : node ∈ nodes) :
    (graph.visit sweep node).Leaves (graph.Delivers nodes) (graph.Delivers nodes) := by
  rw [Graph.visit]
  have entered : graph.Delivers nodes { sweep with
      pending := sweep.pending.erase node
      visited := sweep.visited ++ [node] } := delivers
  exact (Sweep.attempt_leaves _ entered).bind fun gradients _ =>
    Delivers.followAll present (graph.edges node) gradients (fun _ member => member) entered

private theorem Delivers.drain (descending : graph.Descending) {root : Nat} (fuel : Nat) :
    ∀ {visited : List Nat} {sweep : Sweep Gradient Leaf}, sweep.Settled graph root visited →
      graph.Delivers (graph.reached root) sweep →
      (graph.drain fuel sweep).Leaves (graph.Delivers (graph.reached root))
        (graph.Delivers (graph.reached root)) := by
  induction fuel with
  | zero =>
      intro visited sweep _ delivers
      exact delivers
  | succ fuel ih =>
      intro visited sweep settled delivers
      rw [Graph.drain]
      cases next : sweep.ready with
      | nil => exact delivers
      | cons node rest =>
          have entered : graph.Delivers (graph.reached root) { sweep with ready := rest } :=
            delivers
          have present : node ∈ graph.reached root := settled.reached node (by simp [next])
          have step := (settled.visit descending next).and (entered.visit present)
          exact (step.weaken (fun _ both => both) (fun _ both => both.2)).bind
            fun _ both => ih both.1 both.2

/-- **Deliveries.** Everything that a sweep delivers was accepted at an edge of a
reached node. -/
theorem Descending.sweep_delivered (descending : graph.Descending) (root : Nat)
    (seed : Gradient) : graph.Delivers (graph.reached root) (graph.sweep root seed).2 := by
  have empty : graph.Delivers (graph.reached root) (graph.start root seed) := fun _ member =>
    absurd member List.not_mem_nil
  have run := Delivers.drain descending (graph.survey root).reached.length
    (Sweep.start_settled descending root seed) empty
  rw [sweep_snd]
  exact run.state fun _ delivers => delivers

end Graph

end Atomistic
