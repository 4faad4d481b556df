import Atomistic.System.Basic

/-!
# Neighbor lists and custom data of a system

Neighbor lists are kept under their options, custom data under a name.  What is
attached has the device and the element type of the system.
-/

namespace Atomistic

namespace System

/-- The warning about a list that is added outside of the graph that its system is in. -/
def untrackedList : String :=
  "This system's positions or cell requires grad, but the neighbors does not. " ++
    "You should use `register_autograd_neighbors()` to make sure the neighbors " ++
    "distance vectors are integrated in the computational graph."

/-- What is noted about a list that is added. -/
def addedList (options : NeighborListOptions) (list : Block) : String :=
  "adding neighbor list with " ++ toString (list.values.size 0) ++ " pairs for " ++ options.display

/-- Attach a neighbor list.  It has the layout of a neighbor list and no
gradients, and no list with the same options is present. -/
def attachNeighborList (options : NeighborListOptions) (list : Block) :
    InPlace System Error (StateM Workspace) Unit := do
  let system ← InPlace.held
  InPlace.ofExcept (NeighborList.checkLayout list)
  if list.gradients.length ≠ 0 then throw .listGradients
  let values := list.values
  if values.device ≠ system.device then throw (.listDevice values.device system.device)
  if values.dtype ≠ system.dtype then throw (.listDType values.dtype system.dtype)
  let positionsGrad ← InPlace.ofSession (Session.requiresGrad system.positions)
  let cellGrad ← InPlace.ofSession (Session.requiresGrad system.cell)
  let valuesGrad ← InPlace.ofSession (Session.requiresGrad values)
  if (positionsGrad || cellGrad) && !valuesGrad then
    InPlace.ofSession (Session.note .warn "mlsys_system::system" untrackedList)
  if Registry.contains system.neighborLists options then throw (.listPresent options)
  InPlace.ofSession (Session.note .debug "mlsys_system::system" (addedList options list))
  modify fun system =>
    { system with neighborLists := Registry.insert options list system.neighborLists }

/-- A copy of a system to which a neighbor list is attached. -/
def addNeighborList (system : System) (options : NeighborListOptions) (list : Block) :
    Session Error System :=
  (attachNeighborList options list).copiedIn system

/-- The neighbor list with some options. -/
def neighborList (system : System) (options : NeighborListOptions) : Except Error Block :=
  match Registry.find? system.neighborLists options with
  | some list => .ok list
  | none => .error (.listMissing options)

/-- The options of every neighbor list, in order. -/
def knownNeighborLists (system : System) : List NeighborListOptions :=
  system.neighborLists.map Prod.fst

/-- The names that custom data can not have, in any case. -/
def reservedNames : List String :=
  ["types", "positions", "position", "cell", "neighbors", "neighbor"]

/-- Whether custom data can have a name: letters and digits of ASCII, underscores
and hyphens. -/
def validDataName (name : String) : Bool :=
  name != "" && name.toList.all fun c => isAlphanumeric c || c == '_' || c == '-'

/-- Check that a name is not reserved. -/
def checkReserved (name : String) : Except Error Unit := do
  if reservedNames.contains (Text.fold name) then throw (.dataReserved name)

/-- Attach custom data under a name.  Data that is present is replaced only on
request. -/
def attachData (name : String) (block : Block) (overwrite : Bool) :
    InPlace System Error Id Unit := do
  let system ← InPlace.held
  if !validDataName name then throw (.dataName name)
  InPlace.ofExcept (checkReserved name)
  if !overwrite && Registry.contains system.data name then throw (.dataPresent name)
  let values := block.values
  if values.device ≠ system.device then throw (.dataDevice name values.device system.device)
  if values.dtype ≠ system.dtype then throw (.dataDType name values.dtype system.dtype)
  modify fun system => { system with data := Registry.insert name block system.data }

/-- A copy of a system to which custom data is attached. -/
def addData (system : System) (name : String) (block : Block) (overwrite : Bool) :
    Except Error System :=
  (attachData name block overwrite).copied system

/-- The custom data with a name. -/
def getData (system : System) (name : String) : Except Error Block := do
  checkReserved name
  match Registry.find? system.data name with
  | some block => return block
  | none => throw (.dataMissing name)

/-- The names of all custom data, in order. -/
def knownData (system : System) : List String := system.data.map Prod.fst

/-- Attach neighbor lists, each cast and moved. -/
def addConverted (dtype : Option DType) (device : Option Device) (system : System)
    (lists : List (NeighborListOptions × Block)) : Session Error System :=
  lists.foldlM (fun system entry => do
    system.addNeighborList entry.1 (← entry.2.transfer dtype device)) system

/-- Attach custom data, each block cast and moved. -/
def addConvertedData (dtype : Option DType) (device : Option Device) (system : System)
    (data : List (String × Block)) : Session Error System :=
  data.foldlM (fun system entry => do
    Session.ofExcept (system.addData entry.1 (← entry.2.transfer dtype device) false)) system

/-- Cast the positions, the cell and everything attached to an element type, and
move everything to a device, where given.  The types and the periodicity keep
their element types. -/
def transfer (system : System) (dtype : Option DType) (device : Option Device) :
    Session Error System := do
  let types ← system.types.transfer none device
  let positions ← system.positions.transfer dtype device
  let cell ← system.cell.transfer dtype device
  let pbc ← system.pbc.transfer none device
  let converted ← create types positions cell pbc
  let converted ← addConverted dtype device converted system.neighborLists
  addConvertedData dtype device converted system.data

end System

end Atomistic
