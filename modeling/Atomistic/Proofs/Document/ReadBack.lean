import Atomistic.Proofs.Document.Store
import Atomistic.Proofs.System.Construction

/-!
# Reading systems back

The document of a system is read exactly if all numbers in it are finite and the cell
agrees with the periodicity; what is read has the contents of the system, on the CPU,
and nothing tracks it (`Atomistic.Document.systemOfJson_decides`).
-/

namespace Atomistic

open Workspace

variable {workspace : Workspace}

namespace Document

private theorem field_eq {fields : List (String × Json)} {key what : String} {value : Json}
    (found : Registry.find? fields key = some value) : field fields key what = .ok value := by
  rw [field, found]

/-- What is stored for finite data is read back. -/
theorem ofExcept_tensorOfJson {d : Dense} (storable : d.Storable) :
    (Session.ofExcept (tensorOfJson (stored d))).Decides Grows d.Finite workspace
      fun made after => made = d.onCpu ∧ after = workspace :=
  .ofExcept_iff (tensorOfJson_stored storable) (fun _ read => finite_of_tensorOfJson storable read)
    (Grows.refl _)

private theorem listOfJson_decides (clean : workspace.Clean) {list : Block} {pairs : Nat}
    (complete : NeighborList.Complete list pairs) :
    (listOfJson (listFields list)).Decides Grows list.values.data.Finite workspace
      fun made after =>
        NeighborList.Contents made list.samples.values.data.onCpu list.values.data.onCpu ∧
          ∀ tensor ∈ made.values :: made.axes.map Labels.values, after.Blank tensor := by
  have found {key : String} {value : Json} (member : (key, value) ∈ listFields list) :
      Registry.find? (listFields list) key = some value :=
    (listFields_sorted list).find?_mem member
  have samples := found (List.mem_cons_self :
    ("samples", stored list.samples.values.data) ∈ listFields list)
  have values : Registry.find? (listFields list) "values" = some (stored list.values.data) :=
    found (by simp [listFields])
  have samples_finite : list.samples.values.data.Finite := by
    refine complete.samples.valid.finite ?_
    rw [show list.samples.values.data.dtype = .int32 from complete.samples_dtype]
    rfl
  rw [listOfJson, field_eq samples, field_eq values]
  apply (Session.Decides.ofExcept_ok rfl (Grows.refl _)).follow
  rintro _ zero _ ⟨rfl, rfl⟩
  apply (Session.Decides.ofExcept_ok (tensorOfJson_stored complete.samples samples_finite)
    (Grows.refl _)).follow
  rintro data one _ ⟨rfl, rfl⟩
  apply (Session.create_decides clean _).follow
  rintro pairs_made two first ⟨pairs_held, pairs_blank⟩
  apply (Session.Decides.ofExcept_ok rfl (Grows.refl _)).follow
  rintro _ three _ ⟨rfl, rfl⟩
  apply (ofExcept_tensorOfJson complete.values).settle
  rintro data four _ ⟨rfl, rfl⟩
  apply (Session.create_decides (first.clean clean) _).follow
  rintro made five second ⟨made_held, made_blank⟩
  have assembled := @NeighborList.assemble_decides five (second.clean (first.clean clean))
    pairs_made made pairs (pairs_blank.grow second) made_blank
    ((congrArg Dense.shape pairs_held).trans complete.samples_shape)
    ((congrArg Dense.dtype pairs_held).trans complete.samples_dtype)
    (congrArg Dense.device pairs_held) ((congrArg Dense.shape made_held).trans complete.shape)
    (congrArg Dense.device made_held)
  rw [pairs_held, made_held] at assembled
  exact assembled

/-- What is read for a neighbor list and its options: the same, on the CPU, and nothing
tracks it. -/
structure EntryCopy (after : Workspace) (entry made : NeighborListOptions × Block) : Prop where
  options : made.1 = entry.1.anonymous
  contents : NeighborList.Contents made.2 entry.2.samples.values.data.onCpu
    entry.2.values.data.onCpu
  blank : ∀ tensor ∈ made.2.values :: made.2.axes.map Labels.values, after.Blank tensor

private theorem EntryCopy.grow {before after : Workspace} {entry made : NeighborListOptions × Block}
    (copied : EntryCopy before entry made) (grows : Grows before after) :
    EntryCopy after entry made :=
  ⟨copied.options, copied.contents, fun tensor member => (copied.blank tensor member).grow grows⟩

/-- What is stored for a list and its options is read back. -/
theorem entryOfJson_decides (clean : workspace.Clean) {entry : NeighborListOptions × Block}
    {pairs : Nat} (sound : entry.1.Sound) (complete : NeighborList.Complete entry.2 pairs) :
    (entryOfJson (.object (entryFields entry))).Decides Grows entry.2.values.data.Finite workspace
      fun made after => EntryCopy after entry made := by
  have found {key : String} {value : Json} (member : (key, value) ∈ entryFields entry) :
      (Json.object (entryFields entry)).get? key = some value :=
    (entryFields_sorted entry).find?_mem member
  have data := found (List.mem_cons_self :
      ("data", .object (listFields entry.2)) ∈ entryFields entry)
  have options : (Json.object (entryFields entry)).get? "options" = some (optionsToJson entry.1) :=
    found (by simp [entryFields])
  have kept : (some (optionsToJson entry.1)).filter (fun options => options.object?.isSome) =
      some (optionsToJson entry.1) := rfl
  have fields : (some (Json.object (listFields entry.2))).bind Json.object? =
      some (listFields entry.2) := rfl
  rw [entryOfJson, options, data, kept, fields]
  apply (Session.Decides.ofExcept_ok (optionsOfJson_optionsToJson sound) (Grows.refl _)).follow
  rintro options one _ ⟨rfl, rfl⟩
  apply (listOfJson_decides clean complete).settle
  intro made after _ held
  exact .gives rfl trivial (Grows.refl _) ⟨rfl, held.1, held.2⟩

/-- A note always succeeds, and the tape stays what it is. -/
theorem note_decides (level : Level) (target text : String) :
    (Session.note level target text : Session Error Unit).Decides Grows True workspace
      fun _ after => after.tape = workspace.tape :=
  .gives (Session.exec_note level target text workspace) trivial ⟨Nat.le_refl _, rfl⟩ rfl

/-- A list that fits a system is attached behind those with smaller options. -/
theorem addNeighborList_decides {system : System} {options : NeighborListOptions} {list : Block}
    {pairs distances : Dense} (contents : NeighborList.Contents list pairs distances)
    (present : distances.device ≠ .metadata) (device : distances.device = system.device)
    (dtype : distances.dtype = system.dtype)
    (greater : ∀ entry ∈ system.neighborLists, compare entry.1 options = .lt) :
    (system.addNeighborList options list).Decides Grows True workspace fun made _ =>
      made = { system with neighborLists := system.neighborLists ++ [(options, list)] } := by
  have same_device : list.values.device = system.device := by
    rw [← device, ← contents.values]
    rfl
  have same_dtype : list.values.dtype = system.dtype := by
    rw [← dtype, ← contents.values]
    rfl
  exact System.addNeighborList_appends
    ⟨contents.layout present, contents.plain, same_device, same_dtype⟩ greater

/-- The options of a copy are ordered like those of the original. -/
theorem compare_anonymous (options other : NeighborListOptions) :
    compare options other.anonymous = compare options other ∧
      compare options.anonymous other = compare options other := ⟨rfl, rfl⟩

private theorem attachEntry_decides (clean : workspace.Clean) {system : System}
    {entry : NeighborListOptions × Block} {pairs : Nat} (sound : entry.1.Sound)
    (complete : NeighborList.Complete entry.2 pairs) (device : system.device = .cpu)
    (dtype : entry.2.values.dtype = system.dtype)
    (greater : ∀ other ∈ system.neighborLists, compare other.1 entry.1 = .lt) :
    (attachEntry system (.object (entryFields entry))).Decides Grows entry.2.values.data.Finite
      workspace fun made after => ∃ copy, EntryCopy after entry copy ∧
        made = { system with neighborLists := system.neighborLists ++ [copy] } := by
  rw [attachEntry]
  apply (entryOfJson_decides clean sound complete).settle
  intro copy one _ copied
  apply (note_decides _ _ _).follow
  intro _ two grown _
  have placed : entry.2.values.data.onCpu.device ≠ .metadata := show Device.cpu ≠ .metadata by
      decide
  have still : ∀ other ∈ system.neighborLists, compare other.1 copy.1 = .lt := by
    rw [copied.options]
    exact greater
  apply (addNeighborList_decides copied.contents placed device.symm dtype still).weaken
  intro made after later same
  exact ⟨copy, (copied.grow grown).grow later, same⟩

/-- All lists of a system are read back, in order. -/
theorem attachAll_decides {entries : List (NeighborListOptions × Block)} (clean : workspace.Clean)
    {system : System} (device : system.device = .cpu)
    (fits : ∀ entry ∈ entries, entry.1.Sound ∧ entry.2.values.dtype = system.dtype ∧
      ∃ pairs, NeighborList.Complete entry.2 pairs)
    (sorted : Registry.Sorted entries)
    (greater : ∀ other ∈ system.neighborLists, ∀ entry ∈ entries, compare other.1 entry.1 = .lt) :
    ((entries.map fun entry => .object (entryFields entry)).foldlM attachEntry system).Decides Grows
      (∀ entry ∈ entries, entry.2.values.data.Finite) workspace fun made after =>
        ∃ copies, List.Forall₂ (EntryCopy after) entries copies ∧
          made = { system with neighborLists := system.neighborLists ++ copies } := by
  induction entries generalizing workspace system with
  | nil =>
      refine .gives rfl (List.forall_mem_nil _) (Grows.refl _) ⟨[], .nil, ?_⟩
      rw [List.append_nil]
  | cons entry rest ih =>
      obtain ⟨least, later⟩ := List.pairwise_cons.mp sorted
      obtain ⟨⟨sound, dtype, pairs, complete⟩, others⟩ := List.forall_mem_cons.mp fits
      have first := attachEntry_decides clean sound complete device dtype fun other member =>
        greater other member entry List.mem_cons_self
      rw [List.map_cons, List.foldlM_cons]
      refine Session.Decides.congr ?_ List.forall_mem_cons
      apply first.bind
      rintro made one grown ⟨copy, copied, rfl⟩
      let extended : System := { system with neighborLists := system.neighborLists ++ [copy] }
      refine (@ih one (grown.clean clean) extended device others later
        fun other member next present => ?_).weaken fun made after further reached => ?_
      · rcases List.mem_append.mp member with old | new
        · exact greater other old next (List.mem_cons_of_mem _ present)
        · rw [List.mem_singleton.mp new, copied.options, (compare_anonymous _ _).2]
          exact least next present
      · obtain ⟨copies, all, same⟩ := reached
        refine ⟨copy :: copies, .cons (copied.grow further) all, ?_⟩
        rw [same, List.append_assoc]
        rfl

/-- What is read for a tensor: the same data, on the CPU, and nothing tracks it. -/
structure Reads (d : Dense) (made : Tensor) (after : Workspace) : Prop where
  held : made.data = d.onCpu
  blank : after.Blank made

namespace Reads

variable {d : Dense} {made : Tensor} {before after : Workspace}

private theorem grow (reads : Reads d made before) (grows : Grows before after) :
    Reads d made after :=
  ⟨reads.held, reads.blank.grow grows⟩

private theorem shape (reads : Reads d made after) : made.shape = d.shape := by
  rw [Tensor.shape, reads.held]
  rfl

private theorem dtype (reads : Reads d made after) : made.dtype = d.dtype := by
  rw [Tensor.dtype, reads.held]
  rfl

private theorem device (reads : Reads d made after) :
    made.device = .cpu := congrArg Dense.device reads.held

private theorem valid (reads : Reads d made after) (valid : d.Valid)
    (present : d.device ≠ .metadata) :
    made.data.Valid := by
  rw [reads.held]
  exact valid.onCpu present

end Reads

private theorem systemTensor_decides (clean : workspace.Clean) {fields : List (String × Json)}
    {key : String}
    {d : Dense} (storable : d.Storable) (found : Registry.find? fields key = some (stored d)) :
    (systemTensor fields key).Decides Grows d.Finite workspace (Reads d) := by
  rw [systemTensor, field_eq found]
  apply (Session.Decides.ofExcept_ok rfl (Grows.refl _)).follow
  rintro _ one _ ⟨rfl, rfl⟩
  apply (ofExcept_tensorOfJson storable).settle
  rintro data two _ ⟨rfl, rfl⟩
  apply (Session.create_decides clean _).weaken
  rintro made after _ ⟨held, blank⟩
  exact ⟨held, blank⟩

/-- Booleans that were stored as integers become booleans again. -/
theorem narrow_decides (clean : workspace.Clean) {d : Dense} {wide : Tensor} (valid : d.Valid)
    (boolean : d.dtype = .bool) (present : d.device ≠ .metadata) (storable : d.widened.Storable)
    (reads : Reads d.widened wide workspace) :
    (wide.transfer (some .bool) none).Decides Grows True workspace (Reads d) := by
  have narrowed : wide.data.convert ((some DType.bool).getD wide.dtype)
      ((none : Option Device).getD wide.device) = .ok d.onCpu := by
    rw [reads.device, reads.held]
    exact valid.convert_narrowed boolean present
  have wide_valid := reads.valid storable.valid storable.present
  apply (Tensor.transfer_untracked wide_valid narrowed clean reads.blank).weaken
  rintro made after _ ⟨held, blank⟩
  exact ⟨held, blank⟩

section Creation

variable {types positions cell pbc : Tensor}

/-- A system is made of what is read for its tensors if its cell agrees with its
periodicity. -/
theorem create_reads_decides {tape : Tape} {system : System} (sound : system.Sound tape)
    (storable : system.Storable) (types_read : Reads system.types.data types workspace)
    (positions_read : Reads system.positions.data positions workspace)
    (cell_read : Reads system.cell.data cell workspace)
    (pbc_read : Reads system.pbc.data pbc workspace) :
    (System.create types positions cell pbc).Decides Grows
      (System.CellAgrees system.cell.data system.pbc.data) workspace fun made _ =>
        made = { types, positions, cell, pbc } := by
  have devices : ∀ tensor ∈ [types, positions, cell, pbc], tensor.device = .cpu := by
    simp only [List.forall_mem_cons]
    exact ⟨types_read.device, positions_read.device, cell_read.device, pbc_read.device,
      List.forall_mem_nil _⟩
  have cell_dtype : cell.dtype = positions.dtype :=
    cell_read.dtype.trans (sound.cell.2.trans positions_read.dtype.symm)
  have agrees : System.CellAgrees system.cell.data system.pbc.data ↔
      System.CellAgrees cell.data pbc.data := by
    rw [cell_read.held, pbc_read.held]
    exact Iff.rfl
  have floating : positions.dtype.isFloating := positions_read.dtype ▸ sound.positions.2
  have created := @System.create_decides workspace types positions cell pbc system.size .cpu devices
    ⟨types_read.shape.trans sound.types.1, types_read.dtype.trans sound.types.2⟩
    (positions_read.shape.trans sound.positions.1)
    ⟨cell_read.shape.trans sound.cell.1, cell_dtype⟩
    ⟨pbc_read.shape.trans sound.pbc.1, pbc_read.dtype.trans sound.pbc.2⟩
    (cell_read.valid storable.cell.valid storable.cell.present)
    (pbc_read.valid storable.pbc.1 storable.pbc.2.2)
  exact created.congr (agrees.trans (by simp [floating]))

end Creation

end Document

namespace System

/-- What a system has to hold so that its document can be read: finite numbers, and a cell
that agrees with the periodicity. -/
structure Readable (system : System) : Prop where
  positions : system.positions.data.Finite
  cell : system.cell.data.Finite
  agrees : CellAgrees system.cell.data system.pbc.data
  lists : ∀ entry ∈ system.neighborLists, entry.2.values.data.Finite

/-- What is read for a system: the same tensors and lists, on the CPU, and nothing tracks
them. -/
structure Copy (system made : System) (after : Workspace) : Prop where
  fields : ∀ field, (made.get field).data = (system.get field).data.onCpu
  blank : ∀ field, after.Blank (made.get field)
  lists : List.Forall₂ (Document.EntryCopy after) system.neighborLists made.neighborLists
  data : made.data = []

end System

namespace Document

/-- **A system is read back from its document** exactly if its numbers are finite and its
cell agrees with its periodicity. -/
theorem systemOfJson_decides (clean : workspace.Clean) {tape : Tape} {system : System}
    (sound : system.Sound tape) (storable : system.Storable) :
    (systemOfJson (.object (systemFields system))).Decides Grows system.Readable workspace
      system.Copy := by
  have found {key : String} {value : Json} (member : (key, value) ∈ systemFields system) :
      Registry.find? (systemFields system) key = some value :=
    (systemFields_sorted system).find?_mem member
  have name : Registry.find? (systemFields system) "class" = some (.string systemClass) :=
    found (by simp [systemFields])
  have lists_found : Registry.find? (systemFields system) "neighbor_lists" =
      some (.array (system.neighborLists.map fun entry => .object (entryFields entry))) :=
    found (by simp [systemFields])
  have types_finite : system.types.data.Finite := by
    refine storable.types.valid.finite ?_
    rw [show system.types.data.dtype = .int32 from sound.types.2]
    rfl
  have pbc_finite : system.pbc.data.widened.Finite := storable.widened.valid.finite rfl
  obtain ⟨pbc_valid, boolean, pbc_present⟩ := storable.pbc
  have parts : system.Readable ↔ system.positions.data.Finite ∧ system.cell.data.Finite ∧
      System.CellAgrees system.cell.data system.pbc.data ∧
      ∀ entry ∈ system.neighborLists, entry.2.values.data.Finite :=
    ⟨fun readable => ⟨readable.positions, readable.cell, readable.agrees, readable.lists⟩,
      fun all => ⟨all.1, all.2.1, all.2.2.1, all.2.2.2⟩⟩
  refine Session.Decides.congr ?_ parts
  rw [systemOfJson, ofClass_eq name]
  apply (Session.Decides.ofExcept_ok rfl (Grows.refl _)).follow
  rintro fields zero _ ⟨rfl, rfl⟩
  apply (systemTensor_decides clean storable.positions (found (by simp [systemFields]))).bind
  intro positions one first positions_read
  have clean_one := first.clean clean
  apply (systemTensor_decides clean_one storable.cell (found (by simp [systemFields]))).bind
  intro cell two second cell_read
  have clean_two := second.clean clean_one
  have types_decides := systemTensor_decides clean_two storable.types
    (found (by simp [systemFields]) : Registry.find? (systemFields system) "types" = _)
  apply (types_decides.congr (iff_of_true trivial types_finite)).follow
  intro types three third types_read
  have clean_three := third.clean clean_two
  have wide_decides := systemTensor_decides clean_three storable.widened
    (found (by simp [systemFields]) : Registry.find? (systemFields system) "pbc" = _)
  apply (wide_decides.congr (iff_of_true trivial pbc_finite)).follow
  intro wide four fourth wide_read
  have clean_four := fourth.clean clean_three
  apply (narrow_decides clean_four pbc_valid boolean pbc_present storable.widened
    wide_read).adapt.follow
  intro pbc five fifth pbc_read
  -- what was read earlier is still there when the last tensor was read
  have types_read := (types_read.grow fourth).grow fifth
  have cell_read := ((cell_read.grow third).grow fourth).grow fifth
  have positions_read := (((positions_read.grow second).grow third).grow fourth).grow fifth
  apply (create_reads_decides sound storable types_read positions_read cell_read pbc_read).bind
  intro made six sixth same
  rw [lists_found]
  subst same
  have fits (entry : NeighborListOptions × Block) (member : entry ∈ system.neighborLists) :
      entry.1.Sound ∧ entry.2.values.dtype = positions.dtype ∧
        ∃ pairs, NeighborList.Complete entry.2 pairs := by
    obtain ⟨options_sound, dtype, complete⟩ := storable.lists entry member
    exact ⟨options_sound, dtype.trans positions_read.dtype.symm, complete⟩
  have attached := @attachAll_decides six system.neighborLists
    (sixth.clean (fifth.clean clean_four)) { types, positions, cell, pbc } types_read.device fits
    sound.sorted (List.forall_mem_nil _)
  apply attached.weaken
  rintro made after last ⟨copies, all, rfl⟩
  have reads (field : Field) : Reads (system.get field).data
      (({ types, positions, cell, pbc } : System).get field) after := by
    cases field with
    | types => exact (types_read.grow sixth).grow last
    | positions => exact (positions_read.grow sixth).grow last
    | cell => exact (cell_read.grow sixth).grow last
    | pbc => exact (pbc_read.grow sixth).grow last
  exact ⟨fun field => (reads field).held, fun field => (reads field).blank, all, rfl⟩

end Document

end Atomistic
