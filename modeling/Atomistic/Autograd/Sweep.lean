import Atomistic.Table

/-!
# Backward sweeps

A sweep carries gradients through a graph of numbered nodes, from a root down to
the leaves.  The edges of a node lead to leaves and to other nodes.  The nodes
that paths from the root lead to are surveyed first, and the edges that lead to
each are counted.  A node is visited once every edge that leads to it from a
reached node has been used, and it is then given the sum of the gradients that
came along those edges.

The sweep is written over any type of gradients.  It changes nothing by itself:
what reaches the leaves is listed, in the order in which it arrives, also when a
rule fails half way.
-/

namespace Atomistic

/-- Where the gradient for one input of a node goes. -/
inductive Edge (Leaf : Type)
  | untracked
  | leaf (leaf : Leaf)
  | node (number : Nat)

/-- The node that an edge leads to, if it leads to one. -/
def Edge.target? {Leaf : Type} : Edge Leaf → Option Nat
  | .node number => some number
  | _ => none

/-- What a sweep needs to know of a graph. -/
structure Graph (Gradient Leaf Fault : Type) where
  /-- The edges of a node, one for each of its inputs. -/
  edges : Nat → List (Edge Leaf)
  /-- The gradients that a node passes on, one for each edge or none at all. -/
  rule : Nat → Gradient → Except Fault (List (Option Gradient))
  /-- The sum of two gradients that meet at a node. -/
  meet : Nat → Gradient → Gradient → Except Fault Gradient
  /-- A gradient as a leaf takes it. -/
  accept : Leaf → Gradient → Except Fault Gradient
  /-- The complaint about a node that passed on a wrong number of gradients. -/
  miscount : (node expected actual : Nat) → Fault

/-- What a survey has found so far. -/
structure Survey where
  /-- The reached nodes whose edges have not been looked at; the first is next. -/
  stack : List Nat
  /-- All reached nodes. -/
  reached : List Nat
  /-- How many of the edges looked at lead to each node. -/
  dependencies : Table Int := {}

namespace Survey

/-- Count an edge that leads to a node, and put the node on the stack if it was
not reached before. -/
def follow (survey : Survey) (target : Nat) : Survey :=
  let dependencies :=
    survey.dependencies.set target ((survey.dependencies.get? target).getD 0 + 1)
  if target ∈ survey.reached then { survey with dependencies }
  else { stack := target :: survey.stack, reached := survey.reached ++ [target], dependencies }

end Survey

/-- The state of a sweep. -/
structure Sweep (Gradient Leaf : Type) where
  /-- The nodes that can be visited now, in the order in which they became
  ready. -/
  ready : List Nat
  /-- The gradient that waits at a node. -/
  pending : Table Gradient
  /-- How many edges that lead to each node have not been used. -/
  dependencies : Table Int
  /-- The nodes visited so far. -/
  visited : List Nat := []
  /-- What has reached the leaves so far. -/
  delivered : List (Leaf × Gradient) := []

/-- The result of a part of a sweep.  A part that fails keeps the state in which it
failed. -/
abbrev Sweep.Result (Gradient Leaf Fault α : Type) := Except (Fault × Sweep Gradient Leaf) α

namespace Sweep

variable {Gradient Leaf Fault α : Type}

/-- The result of a computation that does not change the sweep. -/
def attempt (sweep : Sweep Gradient Leaf) (result : Except Fault α) :
    Result Gradient Leaf Fault α :=
  result.mapError fun fault => (fault, sweep)

/-- Use up an edge that leads to a node; after the last one the node is ready. -/
def arrive (sweep : Sweep Gradient Leaf) (node : Nat) : Sweep Gradient Leaf :=
  match sweep.dependencies.get? node with
  | none => sweep
  | some count =>
    { sweep with
      dependencies := sweep.dependencies.set node (count - 1)
      ready := if count - 1 = 0 then sweep.ready ++ [node] else sweep.ready }

end Sweep

namespace Graph

variable {Gradient Leaf Fault : Type}

/-- The nodes that the edges of a node lead to. -/
def targets (graph : Graph Gradient Leaf Fault) (node : Nat) : List Nat :=
  (graph.edges node).filterMap Edge.target?

/-- Look at the edges of nodes from the stack until it is empty, for at most as
many nodes as the first argument says. -/
def explore (graph : Graph Gradient Leaf Fault) : Nat → Survey → Survey
  | 0, survey => survey
  | fuel + 1, survey =>
    match survey.stack with
    | [] => survey
    | node :: rest =>
      explore graph fuel ((graph.targets node).foldl Survey.follow { survey with stack := rest })

/-- The nodes that paths from a root lead to, the root included, and how many
edges of these nodes lead to each.  Where edges lead to smaller numbers, there
are at most as many nodes as the number of the root says. -/
def survey (graph : Graph Gradient Leaf Fault) (root : Nat) : Survey :=
  graph.explore (root + 1) { stack := [root], reached := [root] }

/-- Leave a gradient at a node, added to the one that already waits there. -/
def gather (graph : Graph Gradient Leaf Fault) (sweep : Sweep Gradient Leaf) (node : Nat)
    (gradient : Gradient) : Sweep.Result Gradient Leaf Fault (Sweep Gradient Leaf) := do
  let total ← match sweep.pending.get? node with
    | some old => sweep.attempt (graph.meet node old gradient)
    | none => pure gradient
  return { sweep with pending := sweep.pending.set node total }

/-- Use one edge, with the gradient that a rule gave for it. -/
def follow (graph : Graph Gradient Leaf Fault) (sweep : Sweep Gradient Leaf) :
    Edge Leaf → Option Gradient → Sweep.Result Gradient Leaf Fault (Sweep Gradient Leaf)
  | .untracked, _ => pure sweep
  | .leaf _, none => pure sweep
  | .leaf leaf, some gradient => do
    let accepted ← sweep.attempt (graph.accept leaf gradient)
    return { sweep with delivered := sweep.delivered ++ [(leaf, accepted)] }
  | .node node, none => pure (sweep.arrive node)
  | .node node, some gradient => do
    return (← graph.gather sweep node gradient).arrive node

/-- Use all edges of a node.  Edges for which no gradient is left get none. -/
def followAll (graph : Graph Gradient Leaf Fault) :
    List (Edge Leaf) → List (Option Gradient) → Sweep Gradient Leaf →
      Sweep.Result Gradient Leaf Fault (Sweep Gradient Leaf)
  | [], _, sweep => pure sweep
  | edge :: edges, gradients, sweep => do
    followAll graph edges gradients.tail (← graph.follow sweep edge gradients.head?.join)

/-- The gradients that a visited node passes on: its rule on the gradient that
waits for it, or none. -/
def passOn (graph : Graph Gradient Leaf Fault) (node : Nat) :
    Option Gradient → Except Fault (List (Option Gradient))
  | none => .ok []
  | some gradient => do
    let gradients ← graph.rule node gradient
    let expected := (graph.edges node).length
    if gradients ≠ [] ∧ gradients.length ≠ expected then
      throw (graph.miscount node expected gradients.length)
    return gradients

/-- Visit a node: take the gradient that waits for it, and use its edges. -/
def visit (graph : Graph Gradient Leaf Fault) (sweep : Sweep Gradient Leaf) (node : Nat) :
    Sweep.Result Gradient Leaf Fault (Sweep Gradient Leaf) := do
  let entered :=
    { sweep with
      pending := sweep.pending.erase node
      visited := sweep.visited ++ [node] }
  let gradients ← entered.attempt (graph.passOn node (sweep.pending.get? node))
  graph.followAll (graph.edges node) gradients entered

/-- Visit ready nodes until none is left, at most as many as the first argument
says. -/
def drain (graph : Graph Gradient Leaf Fault) :
    Nat → Sweep Gradient Leaf → Sweep.Result Gradient Leaf Fault (Sweep Gradient Leaf)
  | 0, sweep => pure sweep
  | fuel + 1, sweep =>
    match sweep.ready with
    | [] => pure sweep
    | node :: rest => do drain graph fuel (← graph.visit { sweep with ready := rest } node)

/-- The state in which a sweep starts. -/
def start (graph : Graph Gradient Leaf Fault) (root : Nat) (seed : Gradient) :
    Sweep Gradient Leaf :=
  { ready := [root]
    pending := ⟨[(root, seed)]⟩
    dependencies := (graph.survey root).dependencies }

/-- The sweep from a root with a gradient for it.  Every reached node is visited
at most once, so there are enough visits for all of them. -/
def sweep (graph : Graph Gradient Leaf Fault) (root : Nat) (seed : Gradient) :
    Except Fault Unit × Sweep Gradient Leaf :=
  match graph.drain (graph.survey root).reached.length (graph.start root seed) with
  | .ok sweep => (.ok (), sweep)
  | .error (fault, sweep) => (.error fault, sweep)

end Graph

end Atomistic
