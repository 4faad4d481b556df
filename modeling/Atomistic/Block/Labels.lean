import Atomistic.Error
import Atomistic.Tensor.Operations

/-!
# Labels

Labels name the entries along one axis of a block: a table of `int32` values
with one row for each entry and one column for each name.
-/

namespace Atomistic

instance : MonadLift (Session TensorError) (Session Error) := ⟨ExceptT.adapt Error.tensor⟩

/-- Named integer metadata for one axis of a block. -/
structure Labels where
  names : List String
  values : Tensor
deriving DecidableEq

/-- Letters and digits of ASCII. -/
def isAlphanumeric (c : Char) : Bool := c.isAlpha || c.isDigit

namespace Labels

/-- Whether a column can have a name: letters and digits of ASCII and
underscores. -/
def validName (name : String) : Bool :=
  name != "" && name.toList.all fun c => isAlphanumeric c || c == '_'

/-- Whether every name occurs once. -/
def distinct : List String → Bool
  | [] => true
  | name :: names => !names.contains name && distinct names

/-- Labels with given names and values. -/
def ofTensor (names : List String) (values : Tensor) : Except Error Labels := do
  match names.find? fun name => !validName name with
  | some name => throw (.labelName name)
  | none => pure ()
  if !distinct names then throw (.repeatedNames names)
  if values.dim ≠ 2 then throw (.labelsDimension values.dim)
  if values.size 1 ≠ names.length then throw (.labelsWidth (values.size 1) names.length)
  if values.dtype ≠ .int32 then throw (.labelsDType values.dtype)
  return ⟨names, values⟩

/-- Labels from values in row-major order. -/
def ofFlat (names : List String) (values : List Int) : Session Error Labels := do
  if names = [] then throw .noNames
  let width := names.length
  if values.length % width ≠ 0 then throw (.raggedRows values.length width)
  let shape := [values.length / width, width]
  let data ← Session.ofExcept ((Dense.ofIntegers values shape .int32).mapError Error.tensor)
  let values ← Session.create data
  Session.ofExcept (ofTensor names values)

/-- The integers from zero up to a bound. -/
def counting (bound : Int) : List Int := (List.range bound.toNat).map Int.ofNat

/-- Labels with one name and the entries `0, 1, …`, as many as the count says
after it has been brought into the range of `int32`. -/
def range (name : String) (count : Nat) : Session Error Labels :=
  ofFlat [name] (counting (DType.int32.wrap count))

/-- The number of entries. -/
def count (labels : Labels) : Nat := labels.values.size 0

def device (labels : Labels) : Device := labels.values.device

/-- Move to a device. -/
def transfer (labels : Labels) (device : Device) : Session TensorError Labels :=
  return ⟨labels.names, ← labels.values.transfer none (some device)⟩

/-- Equality of names and values. -/
def equal (a b : Labels) : Bool := a.names == b.names && a.values.equal b.values

end Labels

end Atomistic
