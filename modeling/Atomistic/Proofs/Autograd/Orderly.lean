import Atomistic.Proofs.Autograd.Passes

/-!
# Passes are orderly

A pass is refused before it starts, or its root takes the seed because no node produced it, or it
is the sweep from the node that produced the root (`Atomistic.Tensor.Course`).  No run makes a
cycle in the graph of nodes, so each of these sweeps ends, and visits what the root is computed
from in an order in which every node has the whole of its gradient
(`Atomistic.Run.sweeps_orderly`).

A rule is any function here, so nothing is said about what it computes, or whether it ends.
-/

namespace Atomistic

open Workspace

/-- No edges are made or lost. -/
theorem Workspace.Gains.edges {before after : Workspace} (gains : Gains before after) :
    after.tape.graph.edges = before.tape.graph.edges := by
  obtain ⟨made, rfl⟩ := gains
  rfl

/-- Paths depend only on the edges of a graph. -/
theorem Graph.leads_congr {Gradient Leaf Fault : Type} {graph other : Graph Gradient Leaf Fault}
    (edges : other.edges = graph.edges) : other.Leads = graph.Leads := by
  funext node target
  rw [Leads, Leads, targets, targets, edges]

namespace Tensor

variable {before middle : Workspace} {root : Tensor} {gradient : Option Tensor}

/-- The sweep of a pass over the graph that the pass found: it is orderly, it visits nodes after
all that lead to them, and unless a node fails it visits exactly the nodes that paths lead to,
each once. -/
structure Visits (before middle : Workspace) (node : Nat) (seed : View) : Prop where
  orderly : middle.tape.graph.Orderly node seed
  ordered : ∀ first number rest,
    (middle.tape.graph.sweep node seed).2.visited = first ++ number :: rest →
      ∀ source, before.tape.graph.Reaches node source → before.tape.graph.Leads source number →
        source ∈ first
  complete : (middle.tape.graph.sweep node seed).1 = .ok () →
    (middle.tape.graph.sweep node seed).2.visited.Nodup ∧
      ∀ number, number ∈ (middle.tape.graph.sweep node seed).2.visited ↔
        before.tape.graph.Reaches node number

/-- How a pass from a root ends, and what it leaves. -/
inductive Course (before : Workspace) (root : Tensor) (gradient : Option Tensor) :
    Except TensorError Unit × Workspace → Prop
  | refused {fault : TensorError} {after : Workspace} (refuses : Refuses before root gradient fault)
      (gains : before.Gains after) : Course before root gradient (.error fault, after)
  /-- A leaf can not take the seed. -/
  | unfit {seed : Tensor} {middle : Workspace} {fault : TensorError} (tracked : before.Tracks root)
      (made : root.seedData (gradient.map fun tensor => tensor.data) = .ok seed.data)
      (gains : before.Gains middle) (produced : (before.tape.state root.number).gradFn = none)
      (failed : Tape.accept middle.tape.sweeps root seed.toView = .error fault) :
      Course before root gradient (.error fault, middle)
  /-- A leaf takes the seed. -/
  | leaf {seed : Tensor} {middle : Workspace} {taken : View} (tracked : before.Tracks root)
      (made : root.seedData (gradient.map fun tensor => tensor.data) = .ok seed.data)
      (gains : before.Gains middle) (produced : (before.tape.state root.number).gradFn = none)
      (accepted : Tape.accept middle.tape.sweeps root seed.toView = .ok taken) :
      Course before root gradient (.ok (), { middle with
        tape := { middle.tape with sweeps := middle.tape.sweeps + 1 }.deliver root taken })
  /-- The outcome of the sweep is the outcome of the pass, and what it delivered is added up, also
  when it failed. -/
  | swept {seed : Tensor} {middle : Workspace} {node : Nat} (tracked : before.Tracks root)
      (made : root.seedData (gradient.map fun tensor => tensor.data) = .ok seed.data)
      (gains : before.Gains middle) (produced : (before.tape.state root.number).gradFn = some node)
      (visits : Visits before middle node seed.toView) :
      Course before root gradient ((middle.tape.graph.sweep node seed.toView).1, { middle with
        tape := { middle.tape with sweeps := middle.tape.sweeps + 1 }.deliverAll
          (middle.tape.graph.sweep node seed.toView).2.delivered })

/-- Tensors that are made first lead nowhere. -/
theorem visits_of_gains (gains : before.Gains middle) (sound : before.tape.Sound) (node : Nat)
    (seed : View) : Visits before middle node seed := by
  have orderly := (gains.steps.sound sound).descending.orderly node seed
  have leads := Graph.leads_congr gains.edges
  refine ⟨orderly, fun first number rest visited source path edge => ?_, fun success => ?_⟩
  · rw [Graph.Reaches, ← leads] at path
    rw [← leads] at edge
    exact orderly.ordered first number rest visited source path edge
  · obtain ⟨_, once, reached⟩ := orderly.visited success
    refine ⟨once, fun number => (reached number).trans ?_⟩
    rw [Graph.Reaches, Graph.Reaches, leads]

/-- Every pass takes its course. -/
theorem backward_course (sound : before.tape.Sound) (root : Tensor) (gradient : Option Tensor) :
    Course before root gradient ((root.backward gradient).exec before) := by
  by_cases refused : ∃ fault, Refuses before root gradient fault
  · obtain ⟨fault, refuses⟩ := refused
    obtain ⟨after, ran, gains⟩ := backward_refused refuses
    rw [ran]
    exact .refused refuses gains
  · have accepted := not_exists.mp refused
    have tracked : before.Tracks root :=
      not_not.mp fun untracked => accepted .noGrad (.untracked untracked)
    obtain ⟨seed, middle, made, gains, _, ran⟩ := backward_starts accepted
    rw [ran]
    cases produced : (before.tape.state root.number).gradFn with
    | none =>
        have leaf : (middle.tape.state root.number).gradFn = none := by
          rw [gains.state, produced]
        rw [Tape.backward, leaf]
        cases taken : Tape.accept middle.tape.sweeps root seed.toView with
        | error fault => exact .unfit tracked made gains produced taken
        | ok gradient => exact .leaf tracked made gains produced taken
    | some node =>
        have output : (middle.tape.state root.number).gradFn = some node := by
          rw [gains.state, produced]
        rw [Tape.backward_node output]
        exact .swept tracked made gains produced (visits_of_gains gains sound node seed.toView)

end Tensor

namespace Run

variable {workspace : Workspace}

/-- **Runs make no cycles.** In the graph of nodes that any run leaves, no path leads
back to its start.  When a pass begins at any root, after its seed is made, a sweep from
any node ends, keeps its counters from falling below zero and, if no node fails, visits
every node that it reaches once and after all reached nodes with an edge to it.  Every
pass that is not refused, and whose root a node produced, is the sweep from that node. -/
theorem sweeps_orderly {allowed : Dense → Prop} (run : Run allowed {} workspace) :
    (∀ node, ¬ Relation.TransGen workspace.tape.graph.Leads node node) ∧
      (∀ (root : Tensor) (gradient : Option Tensor) node seed,
        ((root.seed gradient).exec workspace).2.tape.graph.Orderly node seed) ∧
      ∀ (root : Tensor) (gradient : Option Tensor),
        root.Course workspace gradient ((root.backward gradient).exec workspace) := by
  refine ⟨run.sound.descending.acyclic, fun root gradient node seed => ?_,
    Tensor.backward_course run.sound⟩
  have seed_made := @seed_within (fun _ => True) workspace Dense.kind_any root gradient
    (fun _ => trivial) fun _ _ _ => trivial
  have seeded : ((root.seed gradient).exec workspace).2.tape.Sound :=
    Tape.Steps.sound seed_made.moved.steps run.sound
  exact seeded.descending.orderly node seed

/-- The single element one, its sum, and the sum of the sum. -/
def sumTwice : Workspace :=
  let one : Tensor := ⟨⟨.full [] .one .float64 .cpu, .ofTensor 0⟩, 0⟩
  let total : Tensor := ⟨⟨one.data.sum, .ofTensor 1⟩, 1⟩
  let made := ((Session.create one.data : Session TensorError Tensor).exec {}).2
  let marked := ((one.setRequiresGrad true).exec made).2
  let summed := (one.sum.exec marked).2
  (total.sum.exec summed).2

/-- The sum of the sum. -/
def sumTwiceTotal : Tensor :=
  ⟨⟨(Dense.full [] .one .float64 .cpu).sum.sum, .ofTensor 2⟩, 2⟩

/-- The sum of a sum is swept from its node down to the first one. -/
theorem sweeps_orderly_sumTwice :
    Run (fun _ => True) {} sumTwice ∧ sumTwice.tape.graph.Leads 1 0 ∧
      ((sumTwiceTotal.backward none).exec sumTwice).1 = .ok () ∧
      (sumTwice.tape.graph.sweep 1 sumTwiceTotal.toView).2.visited = [1, 0] ∧
      (∀ node, ¬ Relation.TransGen sumTwice.tape.graph.Leads node node) ∧
      (∀ (root : Tensor) (gradient : Option Tensor) node seed,
        ((root.seed gradient).exec sumTwice).2.tape.graph.Orderly node seed) ∧
      ∀ (root : Tensor) (gradient : Option Tensor),
        root.Course sumTwice gradient ((root.backward gradient).exec sumTwice) := by
  have run : Run (fun _ => True) {} sumTwice := by
    refine .trans (.create {} trivial)
      (.trans (.setRequiresGrad ?_ true) (.trans (.sum ?_) (.sum ?_)))
    · rfl
    · rfl
    · rfl
  exact ⟨run, List.mem_singleton_self 0, rfl, rfl, run.sweeps_orderly⟩

end Run

end Atomistic
