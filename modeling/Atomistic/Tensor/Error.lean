import Atomistic.DType
import Atomistic.Device
import Atomistic.Shape

/-!
# Tensor errors

What can go wrong with a tensor, one constructor for each cause, and the text of
each.
-/

namespace Atomistic

/-- The two kinds of data that a constructor takes. -/
inductive Payload
  | floating
  | integer
deriving DecidableEq

/-- The ways to read the data of a tensor. -/
inductive Reading
  | floats
  | integers
  | booleans
deriving DecidableEq

/-- What a differentiation rule can object to. -/
inductive RuleFault
  | gradientCount (expected actual : Nat)
  | sampleTable (shape : Shape)
  | gradientShape (pairs : Nat) (shape : Shape)
  | atomIndex (atom : Int) (atoms : Nat)
  | other (text : String)
deriving DecidableEq

/-- What can go wrong with a tensor. -/
inductive TensorError
  | dataLength (shape : Shape) (expected actual : Nat)
  | shapeOverflow (shape : Shape)
  | shapeMismatch (left right : Shape)
  | wrongPayload (dtype : DType) (payload : Payload)
  | unknownDType (name : String)
  | unknownDevice (name : String)
  | metaData (reading : Reading)
  | copyOutOfMeta (device : Device)
  | nonFloatGrad (dtype : DType)
  | notALeaf
  | noGrad
  | alreadyInGraph (function : String)
  | implicitGradient (shape : Shape)
  | backward (function : String) (fault : RuleFault)
deriving DecidableEq

namespace Payload

def text : Payload → String
  | floating => "floating point"
  | integer => "integer"

end Payload

namespace Reading

def text : Reading → String
  | floats => "to_f64_vec"
  | integers => "to_i64_vec"
  | booleans => "to_bool_vec"

end Reading

namespace RuleFault

def text : RuleFault → String
  | gradientCount expected actual => s!"expected {expected} gradients, got {actual}"
  | sampleTable shape => "expected a [n_pairs, 5] sample table, got " ++ shape.text
  | gradientShape pairs shape =>
    s!"expected a gradient for {pairs} distance vectors, got shape " ++ shape.text
  | atomIndex atom atoms => s!"atom index {atom} is out of bounds for {atoms} atoms"
  | other text => text

end RuleFault

namespace TensorError

/-- The message of an error. -/
def message : TensorError → String
  | dataLength shape expected actual =>
    s!"expected {expected} values for a tensor of shape " ++ shape.text ++ s!", got {actual}"
  | shapeOverflow shape =>
    "the number of elements in shape " ++ shape.text ++ " does not fit in usize"
  | shapeMismatch left right => "shape mismatch: " ++ left.text ++ " and " ++ right.text
  | wrongPayload dtype payload => dtype.name ++ " can not hold " ++ payload.text ++ " data"
  | unknownDType name => s!"unknown dtype name '{name}'"
  | unknownDevice name => s!"unknown device name '{name}'"
  | metaData reading => "tensors on the meta device have no data (" ++ reading.text ++ ")"
  | copyOutOfMeta device =>
    "can not copy data from a tensor on the meta device to " ++ device.name
  | nonFloatGrad dtype =>
    "only floating point tensors can require gradients, got " ++ dtype.name
  | notALeaf => "can not change requires_grad of a tensor which is not a leaf of the graph"
  | noGrad => "this tensor does not require grad and has no grad_fn"
  | alreadyInGraph function =>
    s!"the output of {function} is already part of a computational graph"
  | implicitGradient shape =>
    "gradient can only be implicitly created for tensors with a single element, got shape " ++
      shape.text
  | backward function fault => s!"backward of {function}: " ++ fault.text

end TensorError

/-- The element type with a name, or the error that there is none. -/
def DType.ofName (text : String) : Except TensorError DType :=
  match DType.ofName? text with
  | some dtype => .ok dtype
  | none => .error (.unknownDType text)

/-- The device with a name, or the error that there is none. -/
def Device.ofName (text : String) : Except TensorError Device :=
  match Device.ofName? text with
  | some device => .ok device
  | none => .error (.unknownDevice text)

end Atomistic
