import Atomistic.Session

/-!
# Applying differentiable operations

`Operation.apply` runs the forward half of an operation, and if one of its
differentiable inputs requires a gradient, attaches a node to the tensor that
the forward half returned.  That tensor is attached in place: whoever else holds
it then sees it as part of the graph.
-/

namespace Atomistic

/-- A differentiable operation, with its handwritten backward rule. -/
structure Operation where
  name : String
  rule : Rule

/-- What the forward half of an operation gives: its output, and the tensors that
the backward rule needs. -/
structure Forward where
  output : Tensor
  saved : List Tensor := []

namespace Operation

variable {Fault : Type}

/-- Attach the node of an application to its output. -/
def record (operation : Operation) (inputs : List Tensor) (needs : List Bool)
    (forward : Forward) : Session TensorError Unit := do
  let tape ← Session.tape
  let node : Node :=
    { name := operation.name
      context := ⟨forward.saved.map Tensor.toView, needs⟩
      rule := operation.rule
      edges := inputs.map tape.edgeTo }
  Session.setTape (← Session.ofExcept (tape.attach forward.output node))
  Session.note .trace "mlsys_tensor::autograd"
    ("registered " ++ operation.name ++ " in the graph")

/-- Run the forward half of an operation on its inputs, and register the backward
rule if one of the differentiable inputs requires a gradient. -/
def apply (operation : Operation) (inject : TensorError → Fault) (inputs : List Tensor)
    (forward : Session Fault Forward) : Session Fault Tensor := do
  let needs ← inputs.mapM Session.requiresGrad
  let forward ← forward
  if needs.any id then
    ExceptT.adapt inject (operation.record inputs needs forward)
  return forward.output

end Operation

end Atomistic
