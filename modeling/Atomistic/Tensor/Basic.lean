import Atomistic.Tensor.Dense

/-!
# Tensors

A tensor is data with an identity.  Two tensors may hold the same buffer; the
buffer of data is told by the place where the data was computed.  Whether a
tensor takes part in a graph of gradients is not part of the handle: it is kept
on the tape, under the number of the tensor.
-/

namespace Atomistic

/-- A buffer, named by where its data was computed. -/
inductive Buffer
  /-- Data made together with a tensor. -/
  | ofTensor (number : Nat)
  /-- Data that the rule of a node made for one of its inputs during a sweep. -/
  | ofSlot (sweep node slot : Nat)
  /-- The sum of the gradients that met at a node during a sweep. -/
  | ofMeeting (sweep node : Nat)
  /-- A gradient converted for the leaf that it reached during a sweep. -/
  | ofArrival (sweep leaf : Nat)
deriving DecidableEq

/-- What the state of automatic differentiation needs to know of the data of
tensors.  It is written over any such data, so that it can be read over doubles,
with rounding, and over exact numbers. -/
class TensorData (D : Type) where
  shape : D → Shape
  dtype : D → DType
  device : D → Device
  /-- The data cast to an element type and moved to a device. -/
  convert : D → DType → Device → Except TensorError D
  /-- The elementwise sum, in the element type and on the device of the first. -/
  add : D → D → Except TensorError D

instance : TensorData Dense where
  shape := Dense.shape
  dtype := Dense.dtype
  device := Dense.device
  convert := Dense.convert
  add := Dense.add

/-- Data in a buffer. -/
structure View (D : Type := Dense) where
  data : D
  buffer : Buffer
deriving DecidableEq

/-- Data in a buffer that exists already, or else data that was just computed
and has no buffer yet. -/
structure Outcome (D : Type := Dense) where
  data : D
  buffer : Option Buffer := none
deriving DecidableEq

/-- A tensor: data in a buffer, under a number of its own. -/
structure Tensor (D : Type := Dense) extends View D where
  number : Nat
deriving DecidableEq

namespace Outcome

/-- Place the data in its buffer, which is the given one if it has none. -/
def place {D : Type} (outcome : Outcome D) (fresh : Buffer) : View D :=
  ⟨outcome.data, outcome.buffer.getD fresh⟩

end Outcome

namespace View

variable {D : Type}

/-- The data as it is, in its buffer. -/
def keep (view : View D) : Outcome D := ⟨view.data, some view.buffer⟩

variable [TensorData D]

/-- Cast and move.  Data that keeps its element type stays in its buffer, except
on the way to the meta device. -/
def convert (view : View D) (dtype : DType) (device : Device) :
    Except TensorError (Outcome D) := do
  let data ← TensorData.convert view.data dtype device
  let shared := dtype == TensorData.dtype view.data && !device.isMeta
  return ⟨data, if shared then some view.buffer else none⟩

end View

namespace Tensor

def shape (t : Tensor) : Shape := t.data.shape

def dtype (t : Tensor) : DType := t.data.dtype

def device (t : Tensor) : Device := t.data.device

/-- The number of axes. -/
def dim (t : Tensor) : Nat := t.data.dim

/-- The extent along an axis, zero past the last. -/
def size (t : Tensor) (axis : Nat) : Nat := t.data.size axis

/-- Whether two handles refer to the same tensor. -/
def sameAs (t u : Tensor) : Bool := t.number == u.number

/-- Whether two tensors hold the same buffer. -/
def sharesStorage (t u : Tensor) : Bool := t.buffer == u.buffer

/-- Equality of the data, compared as numbers. -/
def equal (t u : Tensor) : Bool := t.data.equal u.data

/-- Equality of the data down to the last bit. -/
def bitEqual (t u : Tensor) : Bool := t.data.bitEqual u.data

end Tensor

end Atomistic
