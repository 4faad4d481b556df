import Atomistic.Autograd.Apply
import Atomistic.Decimal.Layout

/-!
# Operations on tensors

Conversions, sums and gradients of tensors.  A sum and a cast to a floating
point type are differentiable.
-/

namespace Atomistic

namespace Operation

/-- The sum of all elements.  Each element gets the gradient of the sum. -/
def sum : Operation where
  name := "SumBackward"
  rule := fun context gradient => do
    match context.saved with
    | [] => return []
    | input :: _ =>
      let data := input.data
      if data.device.isMeta then return [some ⟨.onMeta data.shape data.dtype, none⟩]
      return [some ⟨.full data.shape (← gradient.data.item) data.dtype data.device, none⟩]

/-- A cast or a move.  The gradient is converted back. -/
def toCopy : Operation where
  name := "ToCopyBackward"
  rule := fun context gradient => do
    match context.saved with
    | [] => return []
    | input :: _ => return [some (← gradient.convert input.data.dtype input.data.device)]

end Operation

namespace Tensor

/-- The same data outside of any graph. -/
def detach (t : Tensor) {Fault : Type} : Session Fault Tensor := Session.place t.keep

/-- Cast and move, without looking at gradients. -/
def convert (t : Tensor) (dtype : DType) (device : Device) : Session TensorError Tensor := do
  Session.place (← Session.ofExcept (t.toView.convert dtype device))

/-- Cast to an element type and move to a device, where given.  If that changes
nothing the result is the tensor itself. -/
def transfer (t : Tensor) (dtype : Option DType) (device : Option Device) :
    Session TensorError Tensor := do
  let dtype := dtype.getD t.dtype
  let device := device.getD t.device
  if dtype = t.dtype ∧ device = t.device then return t
  if (← Session.requiresGrad t) && dtype.isFloating then
    Operation.toCopy.apply id [t] do
      return { output := ← t.convert dtype device, saved := [t] }
  else t.convert dtype device

/-- The sum of all elements, as a tensor without axes. -/
def sum (t : Tensor) : Session TensorError Tensor := do
  if ← Session.requiresGrad t then
    Operation.sum.apply id [t] do
      return { output := ← Session.create t.data.sum, saved := [t] }
  else Session.create t.data.sum

/-- Change whether a leaf requires a gradient; only floating point tensors
can. -/
def setRequiresGrad (t : Tensor) (requiresGrad : Bool) : Session TensorError Unit := do
  if requiresGrad && !t.dtype.isFloating then throw (.nonFloatGrad t.dtype)
  let tape ← Session.tape
  Session.setTape (← Session.ofExcept (tape.setRequiresGrad t.number requiresGrad))

/-- Forget the accumulated gradient. -/
def zeroGrad (t : Tensor) {Fault : Type} : Session Fault Unit := do
  Session.setTape ((← Session.tape).zeroGrad t.number)

/-- The gradient that a backward pass starts from: the given one in the element
type and on the device of the root, or one for a root with a single element. -/
def seed (root : Tensor) : Option Tensor → Session TensorError Tensor
  | some gradient => do
    if gradient.shape ≠ root.shape then throw (.shapeMismatch root.shape gradient.shape)
    (← gradient.detach).convert root.dtype root.device
  | none => do
    if root.data.count ≠ 1 then throw (.implicitGradient root.shape)
    Session.create (.full root.shape .one root.dtype root.device)

/-- Run the backward pass of the graph that ends at a tensor.  The gradient may
be left out for a tensor with a single element. -/
def backward (root : Tensor) (gradient : Option Tensor) : Session TensorError Unit := do
  if !(← Session.requiresGrad root) then throw .noGrad
  let seed ← root.seed gradient
  let (outcome, tape) := (← Session.tape).backward root seed.toView
  Session.setTape tape
  Session.ofExcept outcome

/-- The name of the function that produced a tensor. -/
def gradFnName (t : Tensor) (tape : Tape) : Option String :=
  (tape.state t.number).gradFn.bind fun node => tape.nodes[node]?.map Node.name

/-- The values in the form shown for debugging. -/
def debugValues : Values → String
  | .integers values => "[" ++ ", ".intercalate (values.map fun i => toString i) ++ "]"
  | .floats values => "[" ++ ", ".intercalate (values.map Layout.debug.text) ++ "]"
  | .absent => "\"<meta>\""

/-- A tensor in the form shown for debugging. -/
def debugText (t : Tensor) (tape : Tape) : String :=
  let grad :=
    match t.gradFnName tape with
    | some name => ", grad_fn: \"" ++ name ++ "\""
    | none => if (tape.state t.number).requiresGrad then ", requires_grad: true" else ""
  "Tensor \x7b shape: " ++ t.shape.text ++ ", dtype: " ++ t.dtype.debugName ++
    ", device: " ++ t.device.debugName ++ ", values: " ++ debugValues t.data.values ++ grad ++
    " \x7d"

end Tensor

end Atomistic
