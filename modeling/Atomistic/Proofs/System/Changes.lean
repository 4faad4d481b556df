import Atomistic.Proofs.InPlace
import Atomistic.System.Attachments

/-!
# Calls that change a system

A program holds a system and calls its setters and `add` operations, which change it in place.
Each checks everything before it changes anything, so a call changes the system to what it makes
of a copy, or not at all (`Atomistic.System.Change.exec_apply`).
-/

namespace Atomistic

namespace System

open InPlace

/-- The steps of setting the types, which may have to be converted. -/
theorem set_types (system : System) (types : Tensor) : system.set .types types = do
    Session.ofExcept (system.checkDevice .types types)
    if types.dim ≠ 1 then throw (.dimension .replaced .types types.dim)
    if types.size 0 ≠ system.size then
      throw (.entryCount .replaced .types system.size (types.size 0))
    if !types.dtype.canCast .int32 then throw (.elementType .replaced .types types.dtype)
    return { system with types := ← types.transfer (some .int32) none } := by
  simp only [set, assign, assignTypes, copiedIn_held_bind, copiedIn_ofExcept_bind, copiedIn_ite,
    copiedIn_throw_bind, copiedIn_ofSession_bind, copiedIn_modify]
  rfl

/-- The steps of setting the positions. -/
theorem assignPositions_copied (system : System) (positions : Tensor) :
    (assignPositions positions).copied system = do
      system.checkDevice .positions positions
      system.checkDType .positions positions
      checkTable .replaced .positions positions system.size
      return { system with positions } := by
  simp only [assignPositions, copied_held_bind, copied_ofExcept_bind, copied_modify]
  rfl

/-- The steps of setting the cell. -/
theorem assignCell_copied (system : System) (cell : Tensor) : (assignCell cell).copied system = do
    system.checkDevice .cell cell
    system.checkDType .cell cell
    checkTable .replaced .cell cell 3
    return { system with cell } := by
  simp only [assignCell, copied_held_bind, copied_ofExcept_bind, copied_modify]
  rfl

/-- The steps of setting the periodic directions. -/
theorem assignPbc_copied (system : System) (pbc : Tensor) : (assignPbc pbc).copied system = do
    system.checkDevice .pbc pbc
    if pbc.dtype ≠ .bool then throw (.elementType .replaced .pbc pbc.dtype)
    if pbc.dim ≠ 1 then throw (.dimension .replaced .pbc pbc.dim)
    if pbc.size 0 ≠ 3 then throw (.entryCount .replaced .pbc 3 (pbc.size 0))
    checkCell system.cell.data pbc.data
    return { system with pbc } := by
  simp only [assignPbc, copied_held_bind, copied_ofExcept_bind, copied_modify, copied_ite,
    copied_throw_bind]
  rfl

/-- A copy with other positions. -/
theorem set_positions (system : System) (positions : Tensor) :
    system.set .positions positions =
      Session.ofExcept ((assignPositions positions).copied system) :=
  copiedIn_inSession system _

/-- A copy with another cell. -/
theorem set_cell (system : System) (cell : Tensor) :
    system.set .cell cell = Session.ofExcept ((assignCell cell).copied system) :=
  copiedIn_inSession system _

/-- A copy with other periodic directions. -/
theorem set_pbc (system : System) (pbc : Tensor) :
    system.set .pbc pbc = Session.ofExcept ((assignPbc pbc).copied system) :=
  copiedIn_inSession system _

/-- The steps of adding a list, which are checks until it is registered. -/
theorem addNeighborList_steps (system : System) (options : NeighborListOptions) (list : Block) :
    system.addNeighborList options list = do
      Session.ofExcept (NeighborList.checkLayout list)
      if list.gradients.length ≠ 0 then throw .listGradients
      let values := list.values
      if values.device ≠ system.device then throw (.listDevice values.device system.device)
      if values.dtype ≠ system.dtype then throw (.listDType values.dtype system.dtype)
      let positionsGrad ← Session.requiresGrad system.positions
      let cellGrad ← Session.requiresGrad system.cell
      let valuesGrad ← Session.requiresGrad values
      if (positionsGrad || cellGrad) && !valuesGrad then
        Session.note .warn "mlsys_system::system" untrackedList
      if Registry.contains system.neighborLists options then throw (.listPresent options)
      Session.note .debug "mlsys_system::system" (addedList options list)
      return { system with
        neighborLists := Registry.insert options list system.neighborLists } := by
  simp only [addNeighborList, attachNeighborList, copiedIn_held_bind, copiedIn_ofExcept_bind,
    copiedIn_ite, copiedIn_throw_bind, copiedIn_ofSession_bind, copiedIn_modify]
  rfl

/-- The steps of adding a block of data, which are checks until it is stored. -/
theorem addData_steps (system : System) (name : String) (block : Block) (overwrite : Bool) :
    system.addData name block overwrite = do
      if !validDataName name then throw (.dataName name)
      checkReserved name
      if !overwrite && Registry.contains system.data name then throw (.dataPresent name)
      let values := block.values
      if values.device ≠ system.device then throw (.dataDevice name values.device system.device)
      if values.dtype ≠ system.dtype then throw (.dataDType name values.dtype system.dtype)
      return { system with data := Registry.insert name block system.data } := by
  simp only [addData, attachData, copied_held_bind, copied_ofExcept_bind, copied_modify,
    copied_ite, copied_throw_bind]
  rfl

/-! ### All or nothing -/

private theorem assignTypes_allOrNothing (types : Tensor) : (assignTypes types).AllOrNothing := by
  refine looks_held.bind fun system => (looks_ofExcept _).bind fun _ => ?_
  refine .check (.check (.check ?_))
  exact (looks_ofSession _).bind fun _ => allOrNothing_modify _

private theorem assignPositions_allOrNothing (positions : Tensor) :
    (assignPositions positions).inSession.AllOrNothing := by
  simp only [assignPositions, inSession_bind, inSession_held, inSession_ofExcept, inSession_modify]
  refine looks_held.bind fun system => (looks_ofExcept _).bind fun _ => ?_
  exact (looks_ofExcept _).bind fun _ => (looks_ofExcept _).bind fun _ => allOrNothing_modify _

private theorem assignCell_allOrNothing (cell : Tensor) :
    (assignCell cell).inSession.AllOrNothing := by
  simp only [assignCell, inSession_bind, inSession_held, inSession_ofExcept, inSession_modify]
  refine looks_held.bind fun system => (looks_ofExcept _).bind fun _ => ?_
  exact (looks_ofExcept _).bind fun _ => (looks_ofExcept _).bind fun _ => allOrNothing_modify _

private theorem assignPbc_allOrNothing (pbc : Tensor) : (assignPbc pbc).inSession.AllOrNothing := by
  simp only [assignPbc, inSession_bind, inSession_held, inSession_ofExcept, inSession_throw,
    inSession_ite, inSession_modify]
  refine looks_held.bind fun system => (looks_ofExcept _).bind fun _ => ?_
  refine .check (.check (.check ?_))
  exact (looks_ofExcept _).bind fun _ => allOrNothing_modify _

/-- A setter checks everything before it changes a system. -/
theorem assign_allOrNothing (field : Field) (tensor : Tensor) :
    (assign field tensor).AllOrNothing := by
  cases field with
  | types => exact assignTypes_allOrNothing tensor
  | positions => exact assignPositions_allOrNothing tensor
  | cell => exact assignCell_allOrNothing tensor
  | pbc => exact assignPbc_allOrNothing tensor

private theorem attachNeighborList_allOrNothing (options : NeighborListOptions) (list : Block) :
    (attachNeighborList options list).AllOrNothing := by
  refine looks_held.bind fun system => (looks_ofExcept _).bind fun _ => ?_
  refine .check (.check (.check ?_))
  refine (looks_ofSession _).bind fun _ => (looks_ofSession _).bind fun _ =>
    (looks_ofSession _).bind fun _ => ?_
  exact (looks_ofSession _).when (.check ((looks_ofSession _).bind fun _ => allOrNothing_modify _))

private theorem attachData_allOrNothing (name : String) (block : Block) (overwrite : Bool) :
    (attachData name block overwrite).inSession.AllOrNothing := by
  simp only [attachData, inSession_bind, inSession_held, inSession_ofExcept, inSession_throw,
    inSession_ite, inSession_modify]
  refine looks_held.bind fun system => .check ((looks_ofExcept _).bind fun _ => ?_)
  exact .check (.check (.check (allOrNothing_modify _)))

/-- The calls that change a system in place. -/
inductive Change
  | set (field : Field) (tensor : Tensor)
  | addNeighborList (options : NeighborListOptions) (list : Block)
  | addData (name : String) (block : Block) (overwrite : Bool)

namespace Change

/-- What a call does to the system that it is called on. -/
def apply : Change → InPlace System Error (StateM Workspace) Unit
  | set field tensor => assign field tensor
  | addNeighborList options list => attachNeighborList options list
  | addData name block overwrite => (attachData name block overwrite).inSession

/-- What a call makes of a copy of a system. -/
def made (system : System) : Change → Session Error System
  | set field tensor => system.set field tensor
  | addNeighborList options list => system.addNeighborList options list
  | addData name block overwrite => Session.ofExcept (system.addData name block overwrite)

/-- A change in place makes of a copy what the constructing session makes. -/
theorem apply_copiedIn (system : System) (change : Change) :
    change.apply.copiedIn system = change.made system := by
  cases change with
  | set field tensor => rfl
  | addNeighborList options list => rfl
  | addData name block overwrite => exact copiedIn_inSession system _

/-- A change that fails leaves the system as it was. -/
theorem apply_allOrNothing (change : Change) : change.apply.AllOrNothing := by
  cases change with
  | set field tensor => exact assign_allOrNothing field tensor
  | addNeighborList options list => exact attachNeighborList_allOrNothing options list
  | addData name block overwrite => exact attachData_allOrNothing name block overwrite

/-- **A call changes a system to what it makes of a copy, or not at all.** -/
theorem exec_apply (change : Change) (system : System) (workspace : Workspace) :
    change.apply.exec system workspace =
      match (change.made system).exec workspace with
      | (.ok made, after) => ((.ok (), made), after)
      | (.error fault, after) => ((.error fault, system), after) := by
  rw [change.apply_allOrNothing.exec_eq, apply_copiedIn]
  rcases (change.made system).exec workspace with ⟨_ | made, after⟩ <;> rfl

end Change

end System

end Atomistic
