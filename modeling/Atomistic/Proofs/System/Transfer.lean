import Atomistic.Proofs.Block.Fitted
import Atomistic.Proofs.System.Construction
import Atomistic.Proofs.System.Sound

/-!
# When a system can be cast and moved

A system that is cast and moved is created anew, and everything attached to it is attached
again.  What is attached always can be, so that only the element type, the meta device and
the directions that are not periodic decide whether it succeeds
(`Atomistic.System.transfer_decides`).
-/

namespace Atomistic

open Session Workspace

/-- The element type that a tensor of a system is cast to.  The types and the periodicity
keep theirs. -/
def Field.cast : Field → Option DType → Option DType
  | .types, _ => none
  | .positions, dtype => dtype
  | .cell, dtype => dtype
  | .pbc, _ => none

namespace System

variable {workspace : Workspace} {system : System}

/-- What lets a system be cast and moved: a floating point type, a device that its own can
reach, and a cell that agrees with the periodicity when it has been cast and moved. -/
structure Convertible (system : System) (dtype : Option DType) (device : Option Device) : Prop where
  floating : (dtype.getD system.dtype).isFloating
  reaches : system.device.Reaches (device.getD system.device)
  agrees : CellAgrees (system.cell.data.recast dtype device) (system.pbc.data.recast none device)

/-- A block that was cast and moved, under the key that it had. -/
structure Moved {κ : Type} (dtype : Option DType) (device : Option Device) (entry new : κ × Block) :
    Prop where
  key : new.1 = entry.1
  bare : new.2.bare = entry.2.recast dtype device
  ran : ∃ before after, (entry.2.transfer dtype device).exec before = (.ok new.2, after)

/-- What is made of a system that is cast and moved. -/
structure Recast (dtype : Option DType) (device : Option Device) (system made : System) : Prop where
  fields : ∀ field, (made.get field).data =
    (system.get field).data.recast (field.cast dtype) device
  lists : List.Forall₂ (Moved dtype device) system.neighborLists made.neighborLists
  data : List.Forall₂ (Moved dtype device) system.data made.data

/-- What is to be attached again to a system when it has been cast and moved to another. -/
structure Movable (home : Device) (made : System) (dtype : Option DType) (device : Option Device)
    (block : Block) : Prop where
  at_home : block.Home home
  reaches : home.Reaches (device.getD home)
  cast : dtype.getD block.values.dtype = made.dtype
  moved : device.getD home = made.device

namespace Movable

variable {home : Device} {made : System} {dtype : Option DType} {device : Option Device}
  {block new : Block}

/-- A block that was cast and moved has the element type and the device of the new system. -/
theorem kind (movable : Movable home made dtype device block)
    (moved : new.bare = block.recast dtype device) :
    new.values.dtype = made.dtype ∧ new.values.device = made.device := by
  obtain ⟨at_home, reaches, cast, placed_there⟩ := movable
  obtain ⟨valid, placed, _, _⟩ := at_home
  subst placed
  have held : new.values.data = block.values.data.recast dtype device :=
    congrArg (fun tensor : Tensor => tensor.data) ((Block.bare_values new).symm.trans
      ((congrArg Block.values moved).trans (Block.recast_values block dtype device)))
  obtain ⟨_, new_dtype, new_device⟩ := @Dense.Valid.recast_kind _ valid dtype device reaches
  exact ⟨(congrArg Dense.dtype held).trans (new_dtype.trans cast),
    (congrArg Dense.device held).trans (new_device.trans placed_there)⟩

/-- A neighbor list that was cast and moved can be a neighbor list of the new system. -/
theorem accepts (movable : Movable home made dtype device block)
    (layout : NeighborList.checkLayout block = .ok ()) (plain : block.gradients = [])
    (moved : new.bare = block.recast dtype device) : made.Accepts new := by
  obtain ⟨new_dtype, new_device⟩ := movable.kind moved
  have same_layout := @NeighborList.checkLayout_recast _ _ movable.at_home dtype _ movable.reaches
    layout
  rw [← moved, NeighborList.checkLayout_bare] at same_layout
  have bare : new.bare.gradients = [] := by
    rw [moved, Block.recast_gradients, plain, List.map_nil]
  rw [Block.bare_gradients, List.map_eq_nil_iff] at bare
  exact ⟨same_layout, bare, new_device, new_dtype⟩

end Movable

variable {dtype : Option DType} {device : Option Device} {home : Device}

/-- Blocks that are attached again in the order of their keys, each cast and moved. -/
theorem foldlM_appends {κ : Type} [Ord κ] {attach : System → κ × Block → Session Error System}
    {extend : List (κ × Block) → System} {entries : List (κ × Block)}
    (each : ∀ entry ∈ entries, ∀ (stored : List (κ × Block)) (workspace : Workspace),
      workspace.Clean → (∀ other ∈ stored, compare other.1 entry.1 = .lt) →
        (attach (extend stored) entry).Decides Cleanly True workspace fun made _ =>
          ∃ new, Moved dtype device entry new ∧ made = extend (stored ++ [new]))
    (clean : workspace.Clean) {stored : List (κ × Block)} (start : system = extend stored)
    (sorted : Registry.Sorted entries)
    (greater : ∀ other ∈ stored, ∀ entry ∈ entries, compare other.1 entry.1 = .lt) :
    (entries.foldlM attach system).Decides Cleanly True workspace fun made _ =>
      ∃ new, made = extend (stored ++ new) ∧ List.Forall₂ (Moved dtype device) entries new := by
  induction entries generalizing workspace system stored with
  | nil =>
      subst start
      refine .gives rfl trivial id ⟨[], ?_, .nil⟩
      rw [List.append_nil]
  | cons entry rest ih =>
      obtain ⟨least, later⟩ := List.pairwise_cons.mp sorted
      obtain ⟨first, others⟩ := List.forall_mem_cons.mp each
      subst start
      rw [List.foldlM_cons]
      apply (first stored workspace clean fun other member =>
        greater other member entry List.mem_cons_self).follow
      rintro _ middle kept ⟨new, moved, rfl⟩
      have further := @ih middle _ others (kept clean) (stored ++ [new]) rfl later
        fun other member next present => by
          rcases List.mem_append.mp member with old | last
          · exact greater other old next (List.mem_cons_of_mem _ present)
          · rw [List.mem_singleton.mp last, moved.key]
            exact least next present
      apply further.weaken
      rintro _ _ _ ⟨more, rfl, all⟩
      refine ⟨new :: more, ?_, .cons moved all⟩
      rw [List.append_assoc]
      rfl

/-- Neighbor lists are attached again, in order, each cast and moved. -/
theorem addConverted_decides {lists : List (NeighborListOptions × Block)} (clean : workspace.Clean)
    (none : system.neighborLists = [])
    (movable : ∀ entry ∈ lists, Movable home system dtype device entry.2 ∧
      NeighborList.checkLayout entry.2 = .ok () ∧ entry.2.gradients = [])
    (sorted : Registry.Sorted lists) :
    (addConverted dtype device system lists).Decides Cleanly True workspace fun made _ =>
      ∃ new, made = { system with neighborLists := new } ∧
        List.Forall₂ (Moved dtype device) lists new := by
  exact @foldlM_appends workspace system dtype device _ _
    (fun system entry => do system.addNeighborList entry.1 (← entry.2.transfer dtype device))
    (fun stored => { system with neighborLists := stored }) lists
    (fun entry member stored workspace clean greater => by
      obtain ⟨entry_movable, layout, plain⟩ := movable entry member
      have block := (Block.transfer_recasts entry_movable.at_home clean dtype device).congr
        (iff_of_true trivial entry_movable.reaches)
      apply block.ran.adapt.follow
      rintro list after _ ⟨moved, ran⟩
      obtain ⟨same_layout, bare, new_device, new_dtype⟩ := entry_movable.accepts layout plain moved
      have accepts : { system with neighborLists := stored }.Accepts list :=
        ⟨same_layout, bare, new_device, new_dtype⟩
      apply (addNeighborList_appends accepts greater).cleanly.weaken
      intro made _ _ same
      exact ⟨(entry.1, list), ⟨rfl, moved, _, _, ran⟩, same⟩)
    clean [] (by rw [← none]) sorted (List.forall_mem_nil _)

/-- Custom data is attached again, in order, each block cast and moved. -/
theorem addConvertedData_decides {data : List (String × Block)} (clean : workspace.Clean)
    (none : system.data = [])
    (movable : ∀ entry ∈ data, Movable home system dtype device entry.2 ∧
      validDataName entry.1 ∧ checkReserved entry.1 = .ok ())
    (sorted : Registry.Sorted data) :
    (addConvertedData dtype device system data).Decides Cleanly True workspace fun made _ =>
      ∃ new, made = { system with data := new } ∧ List.Forall₂ (Moved dtype device) data new := by
  exact @foldlM_appends workspace system dtype device _ _
    (fun system entry => do
      Session.ofExcept (system.addData entry.1 (← entry.2.transfer dtype device) false))
    (fun stored => { system with data := stored }) data
    (fun entry member stored workspace clean greater => by
      obtain ⟨entry_movable, valid, free⟩ := movable entry member
      have block := (Block.transfer_recasts entry_movable.at_home clean dtype device).congr
        (iff_of_true trivial entry_movable.reaches)
      apply block.ran.adapt.follow
      rintro new after _ ⟨moved, ran⟩
      obtain ⟨new_dtype, new_device⟩ := entry_movable.kind moved
      have added := @addData_appends { system with data := stored } _ new valid free new_device
        new_dtype greater
      exact .gives (by rw [exec_ofExcept, added]) trivial id
        ⟨(entry.1, new), ⟨rfl, moved, _, _, ran⟩, rfl⟩)
    clean [] (by rw [← none]) sorted (List.forall_mem_nil _)

section Conversion

variable {tape : Tape} (sound : system.Sound tape) (holds : tape.Holds Dense.Valid)
  (reaches : system.device.Reaches (device.getD system.device))

include sound holds reaches

/-- The tensors of a system keep their shapes, are cast unless they keep their types, and are
moved together. -/
theorem recast_kinds (field : Field) :
    ((system.get field).data.recast (field.cast dtype) device).shape = (system.get field).shape ∧
    ((system.get field).data.recast (field.cast dtype) device).dtype =
      (field.cast dtype).getD (system.get field).dtype ∧
    ((system.get field).data.recast (field.cast dtype) device).device =
      device.getD system.device := by
  have placed : (system.get field).data.device = system.device := sound.together field
  have kinds := @Dense.Valid.recast_kind _ (holds.knows (sound.known field))
    (field.cast dtype) device (placed ▸ reaches)
  rw [placed] at kinds
  exact kinds

/-- The data of a system stays valid when it is moved. -/
theorem recast_valid (field : Field) :
    ((system.get field).data.recast (field.cast dtype) device).Valid := by
  refine (holds.knows (sound.known field)).recast ?_
  rw [show (system.get field).data.device = system.device from sound.together field]
  exact reaches

/-- A system is made of the tensors of another that are cast and moved exactly if that is
convertible. -/
theorem create_recast_decides {made : System} (bare : made.neighborLists = [] ∧ made.data = [])
    (fields : ∀ field, (made.get field).data =
      (system.get field).data.recast (field.cast dtype) device) :
    (create made.types made.positions made.cell made.pbc).Decides Grows
      (system.Convertible dtype device) workspace fun new _ => new = made := by
  have kinds (field : Field) : (made.get field).shape = (system.get field).shape ∧
      (made.get field).dtype = (field.cast dtype).getD (system.get field).dtype ∧
      (made.get field).device = device.getD system.device := by
    rw [Tensor.shape, Tensor.dtype, Tensor.device, fields field]
    exact recast_kinds sound holds reaches field
  have valid (field : Field) : (made.get field).data.Valid := by
    rw [fields field]
    exact recast_valid sound holds reaches field
  have devices : ∀ tensor ∈ [made.types, made.positions, made.cell, made.pbc],
      tensor.device = device.getD system.device := by
    simp only [List.forall_mem_cons]
    exact ⟨(kinds .types).2.2, (kinds .positions).2.2, (kinds .cell).2.2, (kinds .pbc).2.2,
      List.forall_mem_nil _⟩
  have cell_dtype : made.cell.dtype = made.positions.dtype :=
    (kinds .cell).2.1.trans ((congrArg dtype.getD sound.cell.2).trans (kinds .positions).2.1.symm)
  have created := @create_decides workspace made.types made.positions made.cell made.pbc system.size
    _ devices ⟨(kinds .types).1.trans sound.types.1, (kinds .types).2.1.trans sound.types.2⟩
    ((kinds .positions).1.trans sound.positions.1)
    ⟨(kinds .cell).1.trans sound.cell.1, cell_dtype⟩
    ⟨(kinds .pbc).1.trans sound.pbc.1, (kinds .pbc).2.1.trans sound.pbc.2⟩ (valid .cell)
      (valid .pbc)
  have parts : system.Convertible dtype device ↔ made.positions.dtype.isFloating ∧
      CellAgrees made.cell.data made.pbc.data := by
    rw [show made.positions.dtype = dtype.getD system.dtype from (kinds .positions).2.1,
      show made.cell.data = system.cell.data.recast dtype device from fields .cell,
      show made.pbc.data = system.pbc.data.recast none device from fields .pbc]
    exact ⟨fun convertible => ⟨convertible.floating, convertible.agrees⟩,
      fun both => ⟨both.1, reaches, both.2⟩⟩
  apply (created.congr parts).weaken
  rintro new _ _ rfl
  obtain ⟨types, positions, cell, pbc, lists, data⟩ := made
  obtain ⟨rfl, rfl⟩ := bare
  rfl

/-- What is attached to a system can be attached again to what is made of its tensors. -/
theorem Attached.movable {made : System} {block : Block} (attached : Attached tape system block)
    (positions : made.positions.data = system.positions.data.recast dtype device)
    (types : made.types.data = system.types.data.recast none device) :
    Movable system.device made dtype device block := by
  refine ⟨attached.device ▸ attached.sound.home holds, reaches, ?_, ?_⟩
  · obtain ⟨_, cast, _⟩ := @recast_kinds system dtype device tape sound holds reaches .positions
    rw [attached.dtype]
    exact cast.symm.trans (congrArg Dense.dtype positions).symm
  · obtain ⟨_, _, moved⟩ := @recast_kinds system dtype device tape sound holds reaches .types
    exact moved.symm.trans (congrArg Dense.device types).symm

end Conversion

/-- **A system is cast and moved exactly if it is convertible**, and then everything in it is
cast and moved by itself. -/
theorem transfer_decides {tape : Tape} (sound : system.Sound tape) (holds : tape.Holds Dense.Valid)
    (clean : workspace.Clean) (dtype : Option DType) (device : Option Device) :
    (system.transfer dtype device).Decides Cleanly (system.Convertible dtype device) workspace
      fun made _ => system.Recast dtype device made := by
  have tensor (field : Field) {middle : Workspace} (clean : middle.Clean) :
      ((system.get field).transfer (field.cast dtype) device).Decides Cleanly
        (system.device.Reaches (device.getD system.device)) middle
        fun made _ => made.data = (system.get field).data.recast (field.cast dtype) device := by
    rw [← sound.together field]
    exact Tensor.transfer_recasts clean (holds.knows (sound.known field)) (field.cast dtype) device
  rw [transfer]
  by_cases reaches : system.device.Reaches (device.getD system.device)
  · have moved (field : Field) {middle : Workspace} (clean : middle.Clean) :=
      (tensor field clean).congr (iff_of_true trivial reaches)
    apply (moved .types clean).adapt.follow
    intro types one first types_held
    have clean := first clean
    apply (moved .positions clean).adapt.follow
    intro positions two second positions_held
    have clean := second clean
    apply (moved .cell clean).adapt.follow
    intro cell three third cell_held
    have clean := third clean
    apply (moved .pbc clean).adapt.follow
    intro pbc four fourth pbc_held
    have clean := fourth clean
    let created : System := { types, positions, cell, pbc }
    have fields (field : Field) : (created.get field).data =
        (system.get field).data.recast (field.cast dtype) device := by
      cases field with
      | types => exact types_held
      | positions => exact positions_held
      | cell => exact cell_held
      | pbc => exact pbc_held
    apply (@create_recast_decides four system dtype device tape sound holds reaches created
      ⟨rfl, rfl⟩ fields).cleanly.settle
    rintro new five fifth rfl
    have clean := fifth clean
    have movable {block : Block} (attached : Attached tape system block) :
        Movable system.device created dtype device block :=
      attached.movable sound holds reaches positions_held types_held
    have lists := @addConverted_decides five created dtype device system.device system.neighborLists
      clean rfl (fun entry member =>
        have listed := (sound.lists entry member).2
        ⟨movable listed.toAttached, listed.layout, listed.plain⟩) sound.sorted
    apply lists.follow
    rintro _ six sixth ⟨new_lists, rfl, all_lists⟩
    have clean := sixth clean
    have data := @addConvertedData_decides six { created with neighborLists := new_lists } dtype
      device system.device system.data clean rfl (fun entry member =>
        have again := movable (sound.data entry member)
        ⟨⟨again.at_home, again.reaches, again.cast, again.moved⟩, sound.named entry member⟩)
      sound.ordered
    apply data.weaken
    rintro _ _ _ ⟨new_data, rfl, all_data⟩
    refine ⟨fun field => ?_, all_lists, all_data⟩
    rw [← fields field]
    cases field <;> rfl
  · exact (tensor .types clean).adapt.stop reaches fun convertible => convertible.reaches

end System

end Atomistic
