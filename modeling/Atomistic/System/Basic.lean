import Atomistic.NeighborList.Layout

/-!
# Systems

A system is what a model of interatomic potentials takes as input: the types of
the atoms, their positions, the periodic cell and the directions in which it is
periodic, with the neighbor lists and the custom data attached to them.

The four tensors are on one device.  The types are `int32`, one for each atom;
the positions have three columns and a floating point type; the cell has the
same type and three rows; the periodicity is three booleans.  The cell vector
of a direction that is not periodic is zero when a system is created and when
its periodicity is replaced.
-/

namespace Atomistic

/-- Atoms in a cell, with neighbor lists and custom data in the order of their
keys. -/
structure System where
  types : Tensor
  positions : Tensor
  cell : Tensor
  pbc : Tensor
  neighborLists : List (NeighborListOptions × Block) := []
  data : List (String × Block) := []

namespace System

/-- Check that the cell vector of every direction that is not periodic is zero.
On the meta device there is nothing to look at. -/
def checkCell (cell pbc : Dense) : Except Error Unit := do
  if pbc.device.isMeta then return
  let periodic ← pbc.toBooleans.mapError Error.tensor
  let vectors := Vec3.rows (← cell.toFloats.mapError Error.tensor)
  let zero := fun (v : Vec3 Binary64) => v.toList.all fun x => x.equal .zero
  if (periodic.zip vectors).any fun (periodic, v) => !periodic && !zero v then
    throw .cellNotZero

/-- Check the axes of a tensor and that it has three columns, one row for each
atom or each direction. -/
def checkTable (stage : Stage) (field : Field) (table : Tensor) (rows : Nat) :
    Except Error Unit := do
  if table.dim ≠ 2 then throw (.dimension stage field table.dim)
  if table.size 0 ≠ rows ∨ table.size 1 ≠ 3 then throw (.tableShape stage field table.shape)

/-- A system without neighbor lists and data.  Types that can be cast to `int32`
are converted. -/
def create (types positions cell pbc : Tensor) : Session Error System := do
  let device := types.device
  if positions.device ≠ device ∨ cell.device ≠ device ∨ pbc.device ≠ device then
    throw (.mixedDevices device positions.device cell.device pbc.device)
  if types.dim ≠ 1 then throw (.dimension .created .types types.dim)
  if !types.dtype.canCast .int32 then throw (.elementType .created .types types.dtype)
  let types ← types.transfer (some .int32) none
  Session.ofExcept (checkTable .created .positions positions (types.size 0))
  if !positions.dtype.isFloating then
    throw (.elementType .created .positions positions.dtype)
  Session.ofExcept (checkTable .created .cell cell 3)
  if cell.dtype ≠ positions.dtype then throw (.cellDType cell.dtype positions.dtype)
  if pbc.dim ≠ 1 then throw (.dimension .created .pbc pbc.dim)
  if pbc.size 0 ≠ 3 then throw (.entryCount .created .pbc 3 (pbc.size 0))
  if pbc.dtype ≠ .bool then throw (.elementType .created .pbc pbc.dtype)
  Session.ofExcept (checkCell cell.data pbc.data)
  return { types, positions, cell, pbc }

/-- The number of atoms. -/
def size (system : System) : Nat := system.types.size 0

def device (system : System) : Device := system.types.device

/-- The element type of the positions and the cell. -/
def dtype (system : System) : DType := system.positions.dtype

/-- The tensor of a field. -/
def get (system : System) : Field → Tensor
  | .types => system.types
  | .positions => system.positions
  | .cell => system.cell
  | .pbc => system.pbc

/-- Check that a new tensor is on the device of a system. -/
def checkDevice (system : System) (field : Field) (tensor : Tensor) : Except Error Unit := do
  if tensor.device ≠ system.device then
    throw (.otherDevice field tensor.device system.device)

/-- Check that a new tensor has the element type of a system. -/
def checkDType (system : System) (field : Field) (tensor : Tensor) : Except Error Unit := do
  if tensor.dtype ≠ system.dtype then throw (.otherDType field tensor.dtype system.dtype)

/-- Replace the types.  They are converted first. -/
def assignTypes (types : Tensor) : InPlace System Error (StateM Workspace) Unit := do
  let system ← InPlace.held
  InPlace.ofExcept (system.checkDevice .types types)
  if types.dim ≠ 1 then throw (.dimension .replaced .types types.dim)
  if types.size 0 ≠ system.size then
    throw (.entryCount .replaced .types system.size (types.size 0))
  if !types.dtype.canCast .int32 then throw (.elementType .replaced .types types.dtype)
  let types ← InPlace.ofSession (types.transfer (some .int32) none)
  modify fun system => { system with types }

/-- Replace the positions. -/
def assignPositions (positions : Tensor) : InPlace System Error Id Unit := do
  let system ← InPlace.held
  InPlace.ofExcept (system.checkDevice .positions positions)
  InPlace.ofExcept (system.checkDType .positions positions)
  InPlace.ofExcept (checkTable .replaced .positions positions system.size)
  modify fun system => { system with positions }

/-- Replace the cell, whatever the periodicity is. -/
def assignCell (cell : Tensor) : InPlace System Error Id Unit := do
  let system ← InPlace.held
  InPlace.ofExcept (system.checkDevice .cell cell)
  InPlace.ofExcept (system.checkDType .cell cell)
  InPlace.ofExcept (checkTable .replaced .cell cell 3)
  modify fun system => { system with cell }

/-- Replace the periodicity, if the cell agrees with it. -/
def assignPbc (pbc : Tensor) : InPlace System Error Id Unit := do
  let system ← InPlace.held
  InPlace.ofExcept (system.checkDevice .pbc pbc)
  if pbc.dtype ≠ .bool then throw (.elementType .replaced .pbc pbc.dtype)
  if pbc.dim ≠ 1 then throw (.dimension .replaced .pbc pbc.dim)
  if pbc.size 0 ≠ 3 then throw (.entryCount .replaced .pbc 3 (pbc.size 0))
  InPlace.ofExcept (checkCell system.cell.data pbc.data)
  modify fun system => { system with pbc }

/-- Replace the tensor of a field. -/
def assign (field : Field) (tensor : Tensor) : InPlace System Error (StateM Workspace) Unit :=
  match field with
  | .types => assignTypes tensor
  | .positions => (assignPositions tensor).inSession
  | .cell => (assignCell tensor).inSession
  | .pbc => (assignPbc tensor).inSession

/-- A copy of a system in which the tensor of a field is replaced. -/
def set (system : System) (field : Field) (tensor : Tensor) : Session Error System :=
  (assign field tensor).copiedIn system

/-- A description in one line. -/
def display (system : System) : String :=
  let cell :=
    match system.cell.data.toFloats with
    | .error _ => "cell on the meta device"
    | .ok cell =>
      if cell.all fun x => x.equal .zero then "non periodic"
      else "periodic cell: [" ++ ", ".intercalate (cell.map Layout.plain.text) ++ "]"
  "System with " ++ toString system.size ++ " atoms, " ++ cell

end System

end Atomistic
