import Atomistic.Binary64.Arithmetic
import Atomistic.Tensor.Error

/-!
# Dense data

`Dense` is the data of a tensor: a shape, an element type, a device and the
values in row-major order.  Values never change; every operation makes new data.
The values of every integral type are integers, those of both floating point
types are doubles, and on the meta device there are none.
-/

namespace Atomistic

/-- The values of a tensor, in row-major order. -/
inductive Values
  | integers (values : List Int)
  | floats (values : List Binary64)
  | absent
deriving DecidableEq

/-- The data of a tensor. -/
structure Dense where
  shape : Shape
  dtype : DType
  device : Device
  values : Values
deriving DecidableEq

namespace Dense

/-- Compare a number of values with a shape. -/
def checkLength (shape : Shape) (actual : Nat) : Except TensorError Unit :=
  match shape.checkedCount with
  | none => .error (.shapeOverflow shape)
  | some expected =>
    if expected = actual then .ok () else .error (.dataLength shape expected actual)

/-- Data of a floating point type, rounded to its precision. -/
def ofFloats (values : List Binary64) (shape : Shape) (dtype : DType) :
    Except TensorError Dense := do
  if !dtype.isFloating then throw (.wrongPayload dtype .floating)
  checkLength shape values.length
  return ⟨shape, dtype, .cpu, .floats (values.map dtype.round)⟩

/-- Data of an integral type, wrapped into its range. -/
def ofIntegers (values : List Int) (shape : Shape) (dtype : DType) :
    Except TensorError Dense := do
  if dtype.isFloating then throw (.wrongPayload dtype .integer)
  checkLength shape values.length
  return ⟨shape, dtype, .cpu, .integers (values.map dtype.wrap)⟩

/-- A `float64` table with three columns. -/
def ofRows (rows : List (Vec3 Binary64)) : Dense :=
  ⟨[rows.length, 3], .float64, .cpu, .floats (Vec3.flatten rows)⟩

/-- Data with the same value everywhere.  An integral type takes the integer
part of the value. -/
def full (shape : Shape) (value : Binary64) (dtype : DType) (device : Device) : Dense :=
  let values :=
    if device.isMeta then .absent
    else if dtype.isFloating then .floats (List.replicate shape.count (dtype.round value))
    else .integers (List.replicate shape.count (dtype.wrap value.toInt64))
  ⟨shape, dtype, device, values⟩

/-- Zero everywhere. -/
def zeros (shape : Shape) (dtype : DType) (device : Device) : Dense :=
  full shape .zero dtype device

/-- A shape and an element type on the meta device. -/
def onMeta (shape : Shape) (dtype : DType) : Dense := ⟨shape, dtype, .metadata, .absent⟩

/-- The number of elements that the shape makes. -/
def count (d : Dense) : Nat := d.shape.count

/-- The number of axes. -/
def dim (d : Dense) : Nat := d.shape.length

/-- The extent along an axis, zero past the last. -/
def size (d : Dense) (axis : Nat) : Nat := d.shape.getD axis 0

/-- The values as doubles. -/
def toFloats (d : Dense) : Except TensorError (List Binary64) :=
  match d.values with
  | .floats values => .ok values
  | .integers values => .ok (values.map Binary64.ofInt)
  | .absent => .error (.metaData .floats)

/-- The values as integers; floating point values lose their fraction. -/
def toIntegers (d : Dense) : Except TensorError (List Int) :=
  match d.values with
  | .floats values => .ok (values.map Binary64.toInt64)
  | .integers values => .ok values
  | .absent => .error (.metaData .integers)

/-- Which values differ from zero. -/
def toBooleans (d : Dense) : Except TensorError (List Bool) :=
  match d.values with
  | .floats values => .ok (values.map fun x => !x.equal .zero)
  | .integers values => .ok (values.map fun i => decide (i ≠ 0))
  | .absent => .error (.metaData .booleans)

/-- The value of data with a single element. -/
def item (d : Dense) : Except TensorError Binary64 := do
  if d.count ≠ 1 then throw (.shapeMismatch d.shape [])
  return (← d.toFloats).headD .zero

/-- Equality of shape, element type, device and values, where floating point
values are compared as numbers. -/
def equal (d e : Dense) : Bool :=
  d.shape == e.shape && d.dtype == e.dtype && d.device == e.device &&
    match d.values, e.values with
    | .floats xs, .floats ys =>
      xs.length == ys.length && (xs.zip ys).all fun (x, y) => x.equal y
    | .integers xs, .integers ys => xs == ys
    | .absent, .absent => true
    | _, _ => false

/-- Equality down to the last bit. -/
def bitEqual (d e : Dense) : Bool := d == e

/-- Values converted from one element type to another. -/
def castValues (values : Values) (dtype : DType) : Values :=
  match values with
  | .absent => .absent
  | .integers xs =>
    if dtype.isFloating then .floats (xs.map fun i => dtype.round (.ofInt i))
    else .integers (xs.map dtype.wrap)
  | .floats xs =>
    if dtype.isFloating then .floats (xs.map dtype.round)
    else if dtype = .bool then .integers (xs.map fun x => if x.equal .zero then 0 else 1)
    else .integers (xs.map fun x => dtype.wrap x.toInt64)

/-- Cast to an element type and move to a device.  Everything can be converted,
except that nothing can leave the meta device. -/
def convert (d : Dense) (dtype : DType) (device : Device) : Except TensorError Dense :=
  if device.isMeta then .ok (onMeta d.shape dtype)
  else if d.values = .absent then .error (.copyOutOfMeta device)
  else
    let values := if dtype = d.dtype then d.values else castValues d.values dtype
    .ok ⟨d.shape, dtype, device, values⟩

/-- The sum of all elements, without axes.  Integers are summed as `int64`. -/
def sum (d : Dense) : Dense :=
  match d.values with
  | .floats xs => full [] (Binary64.sum xs) d.dtype d.device
  | .integers xs =>
    let total := xs.foldl (fun total i => DType.int64.wrap (total + i)) 0
    ⟨[], .int64, d.device, .integers [total]⟩
  | .absent => onMeta [] d.dtype

/-- The elementwise sum, in the element type and on the device of the first. -/
def add (d e : Dense) : Except TensorError Dense := do
  if d.shape ≠ e.shape then throw (.shapeMismatch d.shape e.shape)
  let e ← e.convert d.dtype d.device
  let values :=
    match d.values, e.values with
    | .floats xs, .floats ys => .floats (List.zipWith (fun x y => d.dtype.round (x.add y)) xs ys)
    | .integers xs, .integers ys =>
      .integers (List.zipWith (fun i j => d.dtype.wrap (DType.int64.wrap (i + j))) xs ys)
    | _, _ => .absent
  return ⟨d.shape, d.dtype, d.device, values⟩

end Dense

end Atomistic
