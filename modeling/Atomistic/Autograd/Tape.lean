import Atomistic.Autograd.Sweep
import Atomistic.Tensor.Basic

/-!
# The tape

All state of automatic differentiation is one value, the tape: the tensors and the
nodes of the graph in the order in which they were made, and for each tensor
whether it requires a gradient, which node produced it and the gradient
accumulated for it.  A tensor without a state is a leaf that requires no gradient.

The tape is written over any type of data.
-/

namespace Atomistic

/-- What an operation keeps for its backward rule. -/
structure Context (D : Type := Dense) where
  /-- The tensors that were saved, outside of any graph. -/
  saved : List (View D)
  /-- Which differentiable inputs required a gradient. -/
  needs : List Bool

/-- Whether an input required a gradient when the operation was applied. -/
def Context.needsGrad {D : Type} (context : Context D) (input : Nat) : Bool :=
  context.needs.getD input false

/-- A backward rule: the gradients for the differentiable inputs, from what was
kept and the gradient of the output.  No gradients at all stand for none for any
input. -/
abbrev Rule (D : Type := Dense) :=
  Context D → View D → Except TensorError (List (Option (Outcome D)))

/-- A node of the graph: one application of an operation. -/
structure Node (D : Type := Dense) where
  name : String
  context : Context D
  rule : Rule D
  edges : List (Edge (Tensor D))

/-- What the tape knows about a tensor. -/
structure GradState (D : Type := Dense) where
  requiresGrad : Bool := false
  /-- The node that produced the tensor; a leaf has none. -/
  gradFn : Option Nat := none
  /-- The gradient accumulated so far. -/
  grad : Option (Tensor D) := none

/-- The state of automatic differentiation. -/
structure Tape (D : Type := Dense) where
  /-- All tensors that have been made, each at the place of its number. -/
  tensors : Array (View D) := #[]
  /-- How many sweeps have been run. -/
  sweeps : Nat := 0
  nodes : Array (Node D) := #[]
  states : Table (GradState D) := {}

namespace Tape

variable {D : Type}

/-- The state of a tensor. -/
def state (tape : Tape D) (tensor : Nat) : GradState D := (tape.states.get? tensor).getD {}

/-- The tape with another state for one tensor. -/
def setState (tape : Tape D) (tensor : Nat) (state : GradState D) : Tape D :=
  { tape with states := tape.states.set tensor state }

/-- A new tensor for an outcome, in a buffer of its own if it has none. -/
def place (tape : Tape D) (outcome : Outcome D) : Tensor D × Tape D :=
  let number := tape.tensors.size
  let view := outcome.place (.ofTensor number)
  ({ toView := view, number }, { tape with tensors := tape.tensors.push view })

/-- Change whether a leaf requires a gradient. -/
def setRequiresGrad (tape : Tape D) (tensor : Nat) (requiresGrad : Bool) :
    Except TensorError (Tape D) :=
  let state := tape.state tensor
  if state.gradFn.isSome then .error .notALeaf
  else .ok (tape.setState tensor { state with requiresGrad })

/-- Forget the gradient accumulated for a tensor. -/
def zeroGrad (tape : Tape D) (tensor : Nat) : Tape D :=
  tape.setState tensor { tape.state tensor with grad := none }

/-- Where the gradient for an input goes: nowhere if the input requires none, to
the node that produced it, or else to the input itself. -/
def edgeTo (tape : Tape D) (input : Tensor D) : Edge (Tensor D) :=
  let state := tape.state input.number
  if state.requiresGrad then
    match state.gradFn with
    | some node => .node node
    | none => .leaf input
  else .untracked

/-- Make a tensor the output of a new node.  A tensor that already requires a
gradient has its place in a graph and is refused. -/
def attach (tape : Tape D) (output : Tensor D) (node : Node D) : Except TensorError (Tape D) :=
  let state := tape.state output.number
  if state.requiresGrad || state.gradFn.isSome then .error (.alreadyInGraph node.name)
  else
    let attached := { state with requiresGrad := true, gradFn := some tape.nodes.size }
    .ok ({ tape with nodes := tape.nodes.push node }.setState output.number attached)

/-- Add an accepted gradient to the one that a leaf holds. -/
def deliver [TensorData D] (tape : Tape D) (leaf : Tensor D) (gradient : View D) : Tape D :=
  let state := tape.state leaf.number
  let total : Outcome D :=
    match state.grad with
    | none => gradient.keep
    | some old =>
      match TensorData.add old.data gradient.data with
      | .ok data => ⟨data, none⟩
      | .error _ => old.keep
  let (grad, tape) := tape.place total
  tape.setState leaf.number { state with grad := some grad }

/-- Add all gradients that a sweep delivered, in order. -/
def deliverAll [TensorData D] (tape : Tape D) (delivered : List (Tensor D × View D)) : Tape D :=
  delivered.foldl (fun tape entry => tape.deliver entry.1 entry.2) tape

variable [TensorData D]

/-- A gradient as a leaf takes it: of the leaf's shape, and converted to its
element type and device. -/
def accept (sweep : Nat) (leaf : Tensor D) (gradient : View D) : Except TensorError (View D) := do
  let shape := TensorData.shape leaf.data
  if TensorData.shape gradient.data ≠ shape then
    throw (.shapeMismatch shape (TensorData.shape gradient.data))
  let converted ← gradient.convert (TensorData.dtype leaf.data) (TensorData.device leaf.data)
  return converted.place (.ofArrival sweep leaf.number)

/-- The graph that a sweep runs on. -/
def graph (tape : Tape D) : Graph (View D) (Tensor D) TensorError where
  edges node := (tape.nodes[node]?.map Node.edges).getD []
  rule number gradient :=
    match tape.nodes[number]? with
    | none => .ok []
    | some node => do
      let outcomes ← node.rule node.context gradient
      return outcomes.mapIdx fun slot outcome =>
        outcome.map fun outcome => outcome.place (.ofSlot tape.sweeps number slot)
  meet node old new := do
    return ⟨← TensorData.add old.data new.data, .ofMeeting tape.sweeps node⟩
  accept := accept tape.sweeps
  miscount number expected actual :=
    .backward ((tape.nodes[number]?.map Node.name).getD "") (.gradientCount expected actual)

/-- Carry a gradient back from a root, and add up what reaches the leaves, also
when a rule fails half way.  A root that is a leaf takes the gradient itself. -/
def backward (tape : Tape D) (root : Tensor D) (seed : View D) :
    Except TensorError Unit × Tape D :=
  match (tape.state root.number).gradFn with
  | none =>
    match accept tape.sweeps root seed with
    | .error fault => (.error fault, tape)
    | .ok accepted =>
      (.ok (), { tape with sweeps := tape.sweeps + 1 }.deliver root accepted)
  | some node =>
    let (outcome, sweep) := tape.graph.sweep node seed
    (outcome, { tape with sweeps := tape.sweeps + 1 }.deliverAll sweep.delivered)

end Tape

end Atomistic
