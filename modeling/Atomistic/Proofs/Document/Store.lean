import Atomistic.Document.System
import Atomistic.Proofs.Document.Options
import Atomistic.Proofs.Document.Tensor
import Atomistic.Proofs.NeighborList.Layout
import Atomistic.Proofs.System.Sound

/-!
# Storing systems

A system can be stored exactly if it is not on the meta device
(`Atomistic.System.toJson_ok_iff`), and its document depends on nothing but the values of
its tensors and of its neighbor lists, and on the options of the lists
(`Atomistic.Document.systemToJson_eq`).
-/

namespace Atomistic

/-- Extents after the first are small: the first one is, since elements can be counted. -/
theorem Shape.extents_small {first : Nat} {rest : Shape} {count : Nat}
    (counted : checkedCount (first :: rest) = some count)
    (small : ∀ extent ∈ rest, extent < 0x10000000000000000) :
    ∀ extent ∈ first :: rest, extent < 0x10000000000000000 := by
  refine List.forall_mem_cons.mpr ⟨?_, small⟩
  rw [checkedCount, List.foldlM_cons, Nat.one_mul] at counted
  split at counted
  next fits => exact fits
  next => cases counted

private theorem Dense.Valid.storable {d : Dense} (valid : d.Valid) (present : d.device ≠ .metadata)
    (unboolean : d.dtype ≠ .bool) {first : Nat} {rest : Shape} (shape : d.shape = first :: rest)
    (small : ∀ extent ∈ rest, extent < 0x10000000000000000) : d.Storable := by
  obtain ⟨count, counted⟩ := valid.counted
  rw [shape] at counted
  exact ⟨valid, present, unboolean, shape ▸ Shape.extents_small counted small⟩

namespace NeighborList

/-- What holds of a neighbor list that is attached to a system with data. -/
structure Complete (list : Block) (pairs : Nat) : Prop where
  contents : Contents list list.samples.values.data list.values.data
  samples_shape : list.samples.values.shape = [pairs, 5]
  samples_dtype : list.samples.values.dtype = .int32
  together : list.samples.values.device = list.values.device
  shape : list.values.shape = [pairs, 3, 1]
  samples : list.samples.values.data.Storable
  values : list.values.data.Storable

end NeighborList

namespace System

variable {tape : Tape} {system : System}

private theorem Listed.complete {list : Block} (listed : Listed tape system list)
    (holds : tape.Holds Dense.Valid) (present : list.values.device ≠ .metadata)
    (floating : list.values.dtype.isFloating) :
    NeighborList.Complete list list.samples.count := by
  obtain ⟨⟨sound, _, _⟩, layout, plain⟩ := listed
  have contents := NeighborList.contents_of_layout sound holds present layout plain
  obtain ⟨samples_shape, values_shape⟩ := NeighborList.shapes_of_layout sound layout
  obtain ⟨samples_sound, together⟩ := sound.samples
  cases sound with
  | mk known _ _ _ _ _ =>
      have samples_present : list.samples.values.data.device ≠ .metadata := by
        rw [show list.samples.values.data.device = list.values.device from together]
        exact present
      have samples_dtype : list.samples.values.data.dtype = .int32 := samples_sound.dtype
      have values_dtype : list.values.data.dtype ≠ .bool := by
        intro boolean
        rw [show list.values.dtype = .bool from boolean] at floating
        cases floating
      exact ⟨contents, samples_shape, samples_sound.dtype, together, values_shape,
        (holds.knows samples_sound.known).storable samples_present (by rw [samples_dtype]; decide)
          samples_shape (by decide),
        (holds.knows known).storable present values_dtype values_shape (by decide)⟩

/-- What holds of a system with data. -/
structure Storable (system : System) : Prop where
  types : system.types.data.Storable
  positions : system.positions.data.Storable
  cell : system.cell.data.Storable
  pbc : system.pbc.data.Valid ∧ system.pbc.dtype = .bool ∧ system.pbc.device ≠ .metadata
  widened : system.pbc.data.widened.Storable
  lists : ∀ entry ∈ system.neighborLists, entry.1.Sound ∧
    entry.2.values.dtype = system.dtype ∧ ∃ pairs, NeighborList.Complete entry.2 pairs

/-- A sound system that is not on the meta device has data. -/
theorem Sound.storable (sound : system.Sound tape) (holds : tape.Holds Dense.Valid)
    (present : system.device ≠ .metadata) : system.Storable := by
  have valid (field : Field) : (system.get field).data.Valid := holds.knows (sound.known field)
  have here := sound.placed present
  have positions_dtype : system.positions.data.dtype ≠ .bool := by
    intro boolean
    have floating := sound.positions.2
    rw [show system.positions.dtype = .bool from boolean] at floating
    cases floating
  have pbc_valid := valid .pbc
  refine ⟨(valid .types).storable (here .types) ?_ sound.types.1 (List.forall_mem_nil _),
    (valid .positions).storable (here .positions) positions_dtype sound.positions.1 (by decide),
    (valid .cell).storable (here .cell) ?_ sound.cell.1 (by decide),
    ⟨pbc_valid, sound.pbc.2, here .pbc⟩,
    (pbc_valid.widened sound.pbc.2 (here .pbc)).storable (here .pbc)
      (show DType.int32 ≠ .bool by decide) sound.pbc.1
      (List.forall_mem_nil _), fun entry member => ?_⟩
  · rw [show (system.get .types).data.dtype = .int32 from sound.types.2]
    decide
  · rw [show (system.get .cell).data.dtype = system.positions.data.dtype from sound.cell.2]
    exact positions_dtype
  · obtain ⟨options_sound, listed⟩ := sound.lists entry member
    refine ⟨options_sound, listed.dtype, _, listed.complete holds ?_ ?_⟩
    · rw [listed.device]
      exact present
    · rw [listed.dtype]
      exact sound.positions.2

end System

namespace Document

/-- The fields that are stored for a neighbor list. -/
def listFields (list : Block) : List (String × Json) :=
  [("samples", stored list.samples.values.data), ("values", stored list.values.data)]

/-- The fields that are stored for a neighbor list with its options. -/
def entryFields (entry : NeighborListOptions × Block) : List (String × Json) :=
  [("data", .object (listFields entry.2)), ("options", optionsToJson entry.1)]

/-- The fields that are stored for a system. -/
def systemFields (system : System) : List (String × Json) :=
  [ ("cell", stored system.cell.data),
    ("class", .string systemClass),
    ("neighbor_lists", .array (system.neighborLists.map fun entry => .object (entryFields entry))),
    ("pbc", stored system.pbc.data.widened),
    ("positions", stored system.positions.data),
    ("types", stored system.types.data) ]

/-- Systems that hold the same, wherever they are, are stored the same. -/
theorem systemFields_congr {system made : System}
    (fields : ∀ field, (made.get field).data.onCpu = (system.get field).data.onCpu)
    (lists : made.neighborLists.map entryFields = system.neighborLists.map entryFields) :
    systemFields made = systemFields system := by
  have entries (system : System) :
      system.neighborLists.map (fun entry => Json.object (entryFields entry)) =
      (system.neighborLists.map entryFields).map Json.object := (List.map_map ..).symm
  -- the device of data is not stored
  have types : stored made.types.data = stored system.types.data :=
    (congrArg stored (fields .types) :)
  have positions : stored made.positions.data = stored system.positions.data :=
    (congrArg stored (fields .positions) :)
  have cell : stored made.cell.data = stored system.cell.data := (congrArg stored (fields .cell) :)
  have pbc : stored made.pbc.data.widened = stored system.pbc.data.widened :=
    (congrArg (fun d : Dense => stored d.widened) (fields .pbc) :)
  rw [systemFields, systemFields, entries, entries, lists, types, positions, cell, pbc]

private theorem mapM_eq_map {α β Fault : Type} {entries : List α} {each : α → Except Fault β}
    {made : α → β}
    (gives : ∀ entry ∈ entries, each entry = .ok (made entry)) :
    entries.mapM each = .ok (entries.map made) := by
  induction entries with
  | nil => rfl
  | cons entry rest ih =>
      obtain ⟨first, later⟩ := List.forall_mem_cons.mp gives
      rw [List.mapM_cons, first, ih later]
      rfl

private theorem entryToJson_eq {entry : NeighborListOptions × Block} {pairs : Nat}
    (complete : NeighborList.Complete entry.2 pairs) :
    entryToJson entry = .ok (.object (entryFields entry)) := by
  rw [entryToJson, listToJson, tensorToJson_eq complete.samples, tensorToJson_eq complete.values]
  rfl

/-- What is stored for a system. -/
theorem systemToJson_eq {system : System} (storable : system.Storable) :
    systemToJson system = .ok (.object (systemFields system)) := by
  obtain ⟨valid, boolean, present⟩ := storable.pbc
  have lists : system.neighborLists.mapM entryToJson =
      .ok (system.neighborLists.map fun entry => .object (entryFields entry)) :=
    mapM_eq_map fun entry member => by
      obtain ⟨_, _, _, complete⟩ := storable.lists entry member
      exact entryToJson_eq complete
  have converted : system.pbc.data.convert .int32 system.pbc.device =
      .ok system.pbc.data.widened := valid.convert_widened boolean present
  rw [systemToJson, tensorToJson_eq storable.positions, tensorToJson_eq storable.cell,
    tensorToJson_eq storable.types, converted]
  simp only [Except.mapError, bind, Except.bind]
  rw [tensorToJson_eq storable.widened, lists]
  rfl

/-- The fields of a list are stored in the order of their names. -/
theorem listFields_sorted (list : Block) : Registry.Sorted (listFields list) := by
  simp only [listFields, Registry.Sorted, List.pairwise_cons, List.forall_mem_cons]
  exact ⟨⟨by decide, List.forall_mem_nil _⟩, List.forall_mem_nil _, .nil⟩

/-- The fields of an entry are stored in the order of their names. -/
theorem entryFields_sorted (entry : NeighborListOptions × Block) :
    Registry.Sorted (entryFields entry) := by
  simp only [entryFields, Registry.Sorted, List.pairwise_cons, List.forall_mem_cons]
  exact ⟨⟨by decide, List.forall_mem_nil _⟩, List.forall_mem_nil _, .nil⟩

/-- The fields of a system are stored in the order of their names. -/
theorem systemFields_sorted (system : System) : Registry.Sorted (systemFields system) := by
  simp only [systemFields, Registry.Sorted, List.pairwise_cons, List.forall_mem_cons]
  refine ⟨⟨?_, ?_, ?_, ?_, ?_, ?_⟩, ⟨?_, ?_, ?_, ?_, ?_⟩, ⟨?_, ?_, ?_, ?_⟩, ⟨?_, ?_, ?_⟩, ⟨?_, ?_⟩,
    ?_, .nil⟩
  all_goals decide

private theorem entry_writable {entry : NeighborListOptions × Block} {pairs : Nat}
    (complete : NeighborList.Complete entry.2 pairs) (depth : Nat) :
    (Json.object (entryFields entry)).Writable (depth + 4) := by
  refine .object (entryFields_sorted entry) ?_
  simp only [entryFields, List.forall_mem_cons]
  refine ⟨.object (listFields_sorted entry.2) ?_, optionsToJson_writable entry.1 (depth + 2),
    List.forall_mem_nil _⟩
  simp only [listFields, List.forall_mem_cons]
  exact ⟨stored_writable complete.samples depth, stored_writable complete.values depth,
    List.forall_mem_nil _⟩

private theorem system_writable {system : System} (storable : system.Storable) (depth : Nat) :
    (Json.object (systemFields system)).Writable (depth + 6) := by
  refine .object (systemFields_sorted system) ?_
  simp only [systemFields, List.forall_mem_cons]
  refine ⟨stored_writable storable.cell (depth + 3), .string _, .array fun item member => ?_,
    stored_writable storable.widened (depth + 3), stored_writable storable.positions (depth + 3),
    stored_writable storable.types (depth + 3), List.forall_mem_nil _⟩
  obtain ⟨entry, present, rfl⟩ := List.mem_map.mp member
  obtain ⟨_, _, _, complete⟩ := storable.lists entry present
  exact entry_writable complete depth

end Document

namespace System

/-- The document of a system with data. -/
theorem toJson_eq {system : System} (storable : system.Storable) :
    system.toJson = .ok (Json.object (Document.systemFields system)).dump := by
  rw [toJson, Document.systemToJson_eq storable]
  rfl

/-- **A system can be stored exactly if it is not on the meta device.** -/
theorem toJson_ok_iff {tape : Tape} {system : System} (sound : system.Sound tape)
    (holds : tape.Holds Dense.Valid) :
    (∃ text, system.toJson = .ok text) ↔ system.device ≠ .metadata := by
  refine ⟨fun success absent => ?_, fun present => ⟨_, toJson_eq (sound.storable holds present)⟩⟩
  obtain ⟨text, written⟩ := success
  obtain ⟨_, written, _⟩ := ok_of_bind written
  obtain ⟨value, written, _⟩ := ok_of_bind written
  have placed : system.positions.data.device = .metadata := (sound.together .positions).trans absent
  exact Document.tensorToJson_absent (holds.knows (sound.known .positions)) placed value written

/-- The text of a document is read as the value that was written. -/
theorem parse_toJson {system : System} (storable : system.Storable) {text : String}
    (written : system.toJson = .ok text) :
    Document.parse text = .ok (.object (Document.systemFields system)) := by
  have same := Except.ok.inj ((toJson_eq storable).symm.trans written)
  have read := Json.lawful.reads (Document.system_writable storable (Json.maxDepth - 6))
  rw [← same, Document.parse, read]

end System

end Atomistic
