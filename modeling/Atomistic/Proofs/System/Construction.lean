import Atomistic.Proofs.NeighborList.Options
import Atomistic.Proofs.Registries
import Atomistic.Proofs.System.Cell
import Atomistic.Proofs.System.Changes
import Atomistic.Proofs.Tensor.Transfer

/-!
# What a system is made of

Four tensors of the right shapes, together on one device, make a system exactly if the
positions are of a floating point type and the cell agrees with the periodicity
(`Atomistic.System.create_decides`).  A neighbor list or custom data that fits the system is
attached to it behind what has smaller keys.
-/

namespace Atomistic

namespace System

open Session Workspace

variable {workspace : Workspace}

section Creation

variable {types positions cell pbc : Tensor}

/-- A table with three columns passes the check for its number of rows. -/
theorem checkTable_eq {stage : Stage} {field : Field} {table : Tensor} {rows : Nat}
    (shape : table.shape = [rows, 3]) : checkTable stage field table rows = .ok () := by
  have dim : table.dim = 2 := congrArg List.length shape
  have height : table.size 0 = rows := congrArg (fun shape : Shape => shape.getD 0 0) shape
  have width : table.size 1 = 3 := congrArg (fun shape : Shape => shape.getD 1 0) shape
  rw [checkTable, if_neg (not_not.mpr dim), if_neg (by simp [height, width])]
  rfl

/-- On the meta device every cell agrees with every periodicity. -/
theorem cellAgrees_of_meta {cell pbc : Dense} (valid : pbc.Valid) (gone : pbc.device = .metadata) :
    CellAgrees cell pbc := by
  intro periodic vectors read
  rw [Dense.toBooleans, valid.absent_iff.mpr gone] at read
  cases read

/-- What the check of a cell finds out, for a cell and a periodicity of the right shapes. -/
theorem checkCell_agrees {cell pbc : Dense} (cell_valid : cell.Valid) (pbc_valid : pbc.Valid)
    (cell_shape : cell.shape = [3, 3]) (pbc_shape : pbc.shape = [3])
    (together : cell.device = pbc.device) : checkCell cell pbc = .ok () ↔ CellAgrees cell pbc := by
  by_cases gone : pbc.device = .metadata
  · refine iff_of_true ?_ (cellAgrees_of_meta pbc_valid gone)
    rw [checkCell, if_pos (by rw [gone]; rfl)]
    rfl
  · have cell_present : cell.device ≠ .metadata := fun absent => gone (together.symm.trans absent)
    obtain ⟨vectors, cell_read, nine⟩ := cell_valid.toFloats_ok cell_present
    obtain ⟨periodic, pbc_read, three⟩ := pbc_valid.toBooleans_ok gone
    rw [cell_shape] at nine
    rw [pbc_shape] at three
    have count : vectors.length = 3 * periodic.length := by
      have nine := Option.some.inj nine
      have three := Option.some.inj three
      omega
    exact checkCell_iff gone pbc_read cell_read count

private theorem checkCell_decides (cell_valid : cell.data.Valid) (pbc_valid : pbc.data.Valid)
    (cell_shape : cell.shape = [3, 3]) (pbc_shape : pbc.shape = [3])
    (together : cell.device = pbc.device) :
    (Session.ofExcept (checkCell cell.data pbc.data)).Decides Grows
      (CellAgrees cell.data pbc.data) workspace fun _ after => after = workspace := by
  have agrees := checkCell_agrees cell_valid pbc_valid cell_shape pbc_shape together
  exact (Session.Decides.ofExcept_iff agrees.mpr (fun _ passed => agrees.mp passed)
    (Grows.refl _)).weaken fun _ _ _ ended => ended.2

/-- **A system is made of tensors of the right kinds** exactly if the positions are of a
floating point type and the cell agrees with the periodicity. -/
theorem create_decides {atoms : Nat} {home : Device}
    (devices : ∀ tensor ∈ [types, positions, cell, pbc], tensor.device = home)
    (types_kind : types.shape = [atoms] ∧ types.dtype = .int32)
    (positions_shape : positions.shape = [atoms, 3])
    (cell_kind : cell.shape = [3, 3] ∧ cell.dtype = positions.dtype)
    (pbc_kind : pbc.shape = [3] ∧ pbc.dtype = .bool)
    (cell_valid : cell.data.Valid) (pbc_valid : pbc.data.Valid) :
    (create types positions cell pbc).Decides Grows
      (positions.dtype.isFloating ∧ CellAgrees cell.data pbc.data) workspace fun made _ =>
        made = { types, positions, cell, pbc } := by
  simp only [List.forall_mem_cons] at devices
  obtain ⟨types_device, positions_device, cell_device, pbc_device, _⟩ := devices
  have types_dim : types.dim = 1 := congrArg List.length types_kind.1
  have pbc_dim : pbc.dim = 1 := congrArg List.length pbc_kind.1
  have pbc_size : pbc.size 0 = 3 := congrArg (fun shape : Shape => shape.getD 0 0) pbc_kind.1
  have atoms_eq : types.size 0 = atoms :=
    congrArg (fun shape : Shape => shape.getD 0 0) types_kind.1
  have kept : (types.transfer (some .int32) none).exec workspace = (.ok types, workspace) := by
    rw [Tensor.transfer]
    dsimp only [Option.getD]
    rw [if_pos ⟨types_kind.2.symm, rfl⟩]
    rfl
  have converted : (types.transfer (some .int32) none : Session TensorError Tensor).Decides Grows
      True workspace fun made after => made = types ∧ after = workspace :=
    .gives kept trivial (Grows.refl _) ⟨rfl, rfl⟩
  rw [create]
  refine .pass (by simp [types_device, positions_device, cell_device, pbc_device])
    (.pass (not_not.mpr types_dim) (.pass (by rw [types_kind.2]; decide) ?_))
  apply converted.adapt.follow
  rintro new one _ ⟨rfl, rfl⟩
  apply (Session.Decides.ofExcept_ok (checkTable_eq (atoms_eq.symm ▸ positions_shape))
    (Grows.refl _)).follow
  rintro _ two _ ⟨_, rfl⟩
  refine .check (by simp) fun _ => ?_
  apply (Session.Decides.ofExcept_ok (checkTable_eq cell_kind.1) (Grows.refl _)).follow
  rintro _ three _ ⟨_, rfl⟩
  refine .pass (not_not.mpr cell_kind.2) (.pass (not_not.mpr pbc_dim)
    (.pass (not_not.mpr pbc_size) (.pass (not_not.mpr pbc_kind.2) ?_)))
  apply (checkCell_decides cell_valid pbc_valid cell_kind.1 pbc_kind.1
    (cell_device.trans pbc_device.symm)).settle
  intro _ last _ stays
  exact .gives rfl trivial (Grows.refl _) rfl

end Creation

variable {system : System}

/-- A block that can be a neighbor list of a system: it has the layout of one and no
gradients, and the device and the element type of the system. -/
structure Accepts (system : System) (list : Block) : Prop where
  layout : NeighborList.checkLayout list = .ok ()
  plain : list.gradients = []
  device : list.values.device = system.device
  dtype : list.values.dtype = system.dtype

/-- A list that can be added is added unless there is one with equal options, and then the
error says so.  No tensor is touched. -/
theorem addNeighborList_exec {list : Block} (accepts : system.Accepts list)
    (options : NeighborListOptions) (workspace : Workspace) :
    ∃ after, (system.addNeighborList options list).exec workspace =
        (if Registry.contains system.neighborLists options then .error (.listPresent options)
         else .ok { system with
           neighborLists := Registry.insert options list system.neighborLists }, after) ∧
      after.tape = workspace.tape := by
  obtain ⟨layout, plain, device, dtype⟩ := accepts
  rw [addNeighborList_steps, exec_bind, exec_ofExcept, layout]
  dsimp only
  rw [if_neg (not_not.mpr (by rw [plain]; rfl)), if_neg (not_not.mpr device),
    if_neg (not_not.mpr dtype)]
  simp only [exec_bind, exec_requiresGrad]
  cases present : Registry.contains system.neighborLists options with
  | true =>
      simp only [if_true]
      split
      · exact ⟨_, rfl, rfl⟩
      · exact ⟨_, rfl, rfl⟩
  | false =>
      simp only [Bool.false_eq_true, if_false]
      split
      · exact ⟨_, rfl, rfl⟩
      · exact ⟨_, rfl, rfl⟩

/-- A list that can be added is attached behind those with smaller options. -/
theorem addNeighborList_appends {options : NeighborListOptions} {list : Block}
    (accepts : system.Accepts list)
    (greater : ∀ entry ∈ system.neighborLists, compare entry.1 options = .lt) :
    (system.addNeighborList options list).Decides Grows True workspace fun made _ =>
      made = { system with neighborLists := system.neighborLists ++ [(options, list)] } := by
  obtain ⟨after, ran, same⟩ := addNeighborList_exec accepts options workspace
  rw [Registry.contains_greater greater, Registry.insert_greater greater] at ran
  exact .gives ran trivial ⟨by rw [same], by rw [same]⟩ rfl

section Data

variable {name : String} {block : Block} (valid : validDataName name)
  (free : checkReserved name = .ok ()) (device : block.values.device = system.device)
  (dtype : block.values.dtype = system.dtype)

include valid free device dtype

/-- Custom data with a name that it can have and the device and the element type of the
system is stored unless something is there that is not to be replaced. -/
theorem addData_stores {overwrite : Bool}
    (replaceable : (!overwrite && Registry.contains system.data name) = false) :
    system.addData name block overwrite =
      .ok { system with data := Registry.insert name block system.data } := by
  rw [addData_steps, if_neg (by simp [valid]), free]
  dsimp only [bind, Except.bind]
  rw [replaceable, if_neg (by decide), if_neg (not_not.mpr device), if_neg (not_not.mpr dtype)]
  rfl

/-- Custom data is attached behind what has smaller names. -/
theorem addData_appends (greater : ∀ entry ∈ system.data, compare entry.1 name = .lt) :
    system.addData name block false =
      .ok { system with data := system.data ++ [(name, block)] } := by
  rw [← Registry.insert_greater greater]
  exact addData_stores valid free device dtype (Registry.contains_greater greater)

end Data

end System

end Atomistic
