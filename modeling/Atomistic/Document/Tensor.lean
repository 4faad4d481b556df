import Atomistic.Document.Access
import Atomistic.Tensor.Dense

/-!
# Tensors in documents

A tensor is an object with its element type, its sizes and its values in
row-major order.  It is always read onto the CPU.
-/

namespace Atomistic

namespace Document

/-- The values of a tensor.  Values that are not finite have no number. -/
def valuesToJson (data : Dense) : Except TensorError (List Json) := do
  if data.dtype.isFloating then return (← data.toFloats).map Json.ofBinary64
  else return (← data.toIntegers).map Json.integer

/-- The object for a tensor.  Booleans are not stored. -/
def tensorToJson (data : Dense) : Except Error Json := do
  if data.dtype = .bool then throw .booleanTensor
  let values ← (valuesToJson data).mapError Error.tensor
  return .object
    [ ("dtype", .string data.dtype.name),
      ("sizes", .ofSizes data.shape),
      ("values", .array values) ]

/-- Compare the number of values with the sizes. -/
def checkCount (sizes : Shape) (actual : Nat) : Except Error Unit :=
  match sizes.checkedCount with
  | some expected =>
    if expected = actual then .ok () else .error (.elementCount expected actual)
  | none => .error (.sizesOverflow sizes)

/-- The data of a tensor with given values. -/
def readValues (dtype : DType) (sizes : Shape) (values : List Json) : Except Error Dense := do
  let what := "a " ++ dtype.name ++ " tensor"
  if dtype.isFloating then
    match values.mapM Json.number? with
    | some values => (Dense.ofFloats values sizes dtype).mapError Error.tensor
    | none => throw (.wrongValue "values" what "numbers")
  else
    match values.mapM Json.integer? with
    | some values => (Dense.ofIntegers values sizes dtype).mapError Error.tensor
    | none => throw (.wrongValue "values" what "integers")

/-- The data of a tensor from its object. -/
def tensorOfJson (value : Json) : Except Error Dense := do
  let some fields := value.object? | throw (.notAnObject "tensor")
  let some name := (Registry.find? fields "dtype").bind Json.string?
    | throw (.keyMissing "dtype" "tensor")
  let dtype ← (DType.ofName name).mapError Error.tensor
  let sizes ← field fields "sizes" "tensor"
  let some sizes := sizes.array?.bind fun sizes => sizes.mapM Json.natural?
    | throw (.wrongValue "sizes" "tensor" "an array of positive integers")
  let values ← field fields "values" "tensor"
  let some values := values.array? | throw (.wrongValue "values" "tensor" "an array")
  checkCount sizes values.length
  readValues dtype sizes values

end Document

end Atomistic
