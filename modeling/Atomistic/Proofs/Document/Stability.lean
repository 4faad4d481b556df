import Atomistic.Proofs.Document.RoundTrip

/-!
# Accepted documents are stable

Whatever document a system was read from, the system can be stored.  What is stored can be
read again exactly if all numbers are finite, which a number that is rounded to single
precision need not be; then the same system is read, down to the last bit, and it is stored
as the same text (`Atomistic.System.ofJson_stable`).
-/

namespace Atomistic

open Workspace

/-- Two blocks without gradients hold the same data and the same labels. -/
structure Block.SameData (block other : Block) : Prop where
  values : other.values.data = block.values.data
  axes : other.axes.map (fun labels => (labels.names, labels.values.data)) =
    block.axes.map fun labels => (labels.names, labels.values.data)
  plain : block.gradients = [] ∧ other.gradients = []

/-- Two lists with the same contents hold the same data. -/
theorem NeighborList.Contents.sameData {list other : Block} {pairs distances : Dense}
    (contents : Contents list pairs distances) (others : Contents other pairs distances) :
    list.SameData other := by
  obtain ⟨xyz, alone, xyz_names, xyz_held⟩ := contents.xyz
  obtain ⟨other_xyz, other_alone, other_names, other_held⟩ := others.xyz
  refine ⟨others.values.trans contents.values.symm, ?_, contents.plain, others.plain⟩
  simp only [Block.axes, alone, other_alone, List.map_cons, List.map_nil, List.cons_append,
    List.nil_append, contents.names, others.names, contents.samples, others.samples, xyz_names,
    other_names, xyz_held, other_held, contents.distance, others.distance]

private theorem Dense.onCpu_self {d : Dense} (placed : d.device = .cpu) : d.onCpu = d := by
  rw [onCpu, ← placed]

namespace System

/-- All floating point numbers of a system are finite. -/
structure Finite (system : System) : Prop where
  positions : system.positions.data.Finite
  cell : system.cell.data.Finite
  lists : ∀ entry ∈ system.neighborLists, entry.2.values.data.Finite

/-- What is read again for a system: the same tensors and the same lists, under the same
options. -/
structure Again (system made : System) : Prop where
  fields : ∀ field, (made.get field).data = (system.get field).data
  options : made.knownNeighborLists = system.knownNeighborLists
  lists : List.Forall₂ Block.SameData (system.neighborLists.map Prod.snd)
    (made.neighborLists.map Prod.snd)

variable {system made : System} {tape : Tape} {workspace after : Workspace}

/-- The cell of a system that was read agrees with its periodicity, so only its numbers can
keep it from being read again. -/
theorem Decoded.readable_iff (decoded : system.Decoded tape) (holds : tape.Holds Dense.Valid) :
    system.Readable ↔ system.Finite := by
  have present : system.device ≠ .metadata := by
    rw [decoded.onCpu]
    decide
  have agrees := (decoded.toSound.checkCell_iff holds present).mp decoded.agrees
  exact ⟨fun readable => ⟨readable.positions, readable.cell, readable.lists⟩,
    fun finite => ⟨finite.positions, finite.cell, agrees, finite.lists⟩⟩

private theorem FiniteDoubles.finite (doubles : system.FiniteDoubles) (sound : system.Sound tape)
    (double : system.dtype = .float64) : system.Finite where
  positions := doubles.positions double
  cell := doubles.cell (sound.cell.2.trans double)
  lists entry member := by
    obtain ⟨_, listed⟩ := sound.lists entry member
    exact doubles.lists entry member (listed.dtype.trans double)

/-- A copy of a system that is on the CPU and whose lists nobody asked for is the same. -/
theorem Copy.again (copy : system.Copy made after) (decoded : system.Decoded tape)
    (storable : system.Storable) : system.Again made := by
  have placed (field : Field) : (system.get field).data.device = .cpu :=
    (decoded.together field).trans decoded.onCpu
  refine ⟨fun field => ?_, ?_, ?_⟩
  · rw [copy.fields field, Dense.onCpu_self (placed field)]
  · have unasked : ∀ entry ∈ system.neighborLists, entry.1.anonymous = entry.1 := by
      intro entry member
      rw [NeighborListOptions.anonymous, ← decoded.anonymous entry member]
    have copied := map_eq_of_forall₂ copy.lists fun entry new copied => copied.options
    exact copied.trans (List.map_congr_left unasked)
  · rw [List.forall₂_map_left_iff, List.forall₂_map_right_iff]
    have whole : ∀ entry ∈ system.neighborLists, ∃ pairs, NeighborList.Complete entry.2 pairs ∧
        entry.2.values.device = .cpu := fun entry member => by
      obtain ⟨_, _, pairs, complete⟩ := storable.lists entry member
      exact ⟨pairs, complete, (decoded.lists entry member).2.device.trans decoded.onCpu⟩
    refine ((List.forall₂_and_left _ _).mpr ⟨whole, copy.lists⟩).imp fun entry new reached => ?_
    obtain ⟨⟨pairs, complete, values_placed⟩, copied⟩ := reached
    have contents := copied.contents
    rw [Dense.onCpu_self (complete.together.trans values_placed),
      Dense.onCpu_self values_placed] at contents
    exact complete.contents.sameData contents

/-- A copy is stored as the same text. -/
theorem Copy.toJson_eq (copy : system.Copy made after) (storable : system.Storable)
    (sound : made.Sound after.tape) (holds : after.tape.Holds Dense.Valid) :
    made.toJson = system.toJson := by
  have present : made.device ≠ .metadata := by
    rw [System.device, Tensor.device, show made.types.data = _ from copy.fields .types]
    exact show Device.cpu ≠ .metadata by decide
  rw [System.toJson_eq (sound.storable holds present), copy.systemFields_eq,
    System.toJson_eq storable]

/-- What is stored for a system that was read is read again exactly if the numbers of the
system are finite. -/
theorem Decoded.reread (decoded : system.Decoded after.tape) (tape_sound : after.tape.Sound)
    (holds : after.tape.Holds Dense.Valid) :
    ∃ written, system.toJson = .ok written ∧
      ((∃ made last, (ofJson written).exec after = (.ok made, last)) ↔ system.Finite) ∧
      ∀ made last, (ofJson written).exec after = (.ok made, last) →
        system.Again made ∧ made.toJson = .ok written := by
  have storable := decoded.toSound.storable holds (by rw [decoded.onCpu]; decide)
  have written := System.toJson_eq storable
  have decided := Document.systemOfJson_decides (clean_of_sound tape_sound) decoded.toSound storable
  -- the second reading starts from the value that was written
  have runs : (ofJson (Json.object (Document.systemFields system)).dump).exec after =
      (Document.systemOfJson (.object (Document.systemFields system))).exec after := by
    rw [ofJson, parse_toJson storable written]
    rfl
  refine ⟨_, written, ?_, fun made last again => ?_⟩
  · rw [← decoded.readable_iff holds, ← decided.success_iff]
    simp only [runs]
  · obtain ⟨further, made_decoded, _⟩ := (ofJson_decoded _).of_success again
    have copy := (decided.of_success (runs ▸ again)).2
    refine ⟨copy.again decoded storable, ?_⟩
    rw [copy.toJson_eq storable made_decoded.toSound (further.holds holds)]
    exact written

/-- **Accepted documents are stable.** A system that was read from any text can be stored.
What is stored can be read exactly if the positions, the cell and the values of all
neighbor lists are finite, which they are in double precision.  What is then read holds the
same data, under the same options, and is stored as the same text. -/
theorem ofJson_stable {world : World} (reachable : world.Reachable) {text : String}
    (read : (ofJson text).exec world.workspace = (.ok system, after)) :
    ∃ written, system.toJson = .ok written ∧
      ((∃ made last, (ofJson written).exec after = (.ok made, last)) ↔ system.Finite) ∧
      (system.dtype = .float64 → system.Finite) ∧
      ∀ made last, (ofJson written).exec after = (.ok made, last) →
        system.Again made ∧ made.toJson = .ok written := by
  have sound := reachable.sound
  obtain ⟨moved, decoded, doubles⟩ := (ofJson_decoded text).of_success read
  obtain ⟨written, stored, reading, same⟩ :=
    decoded.reread (moved.steps.sound sound.tape) (moved.holds sound.holds)
  exact ⟨written, stored, reading, doubles.finite decoded.toSound, same⟩

end System

namespace Document

namespace OneAtom

/-- The document of a tensor whose values are any numbers. -/
def tensor (dtype : DType) (sizes : List Nat) (values : List Json) : Json :=
  .object [("dtype", .string dtype.name), ("sizes", .ofSizes sizes), ("values", .array values)]

/-- The document of an atom in single precision, somewhere on the first axis. -/
def document (x : Json) : Json :=
  .object
    [ ("cell", tensor .float32 [3, 3] (List.replicate 9 (.integer 0))),
      ("class", .string systemClass),
      ("pbc", tensor .int32 [3] (List.replicate 3 (.integer 0))),
      ("positions", tensor .float32 [1, 3] [x, .integer 0, .integer 0]),
      ("types", tensor .int32 [1] [.integer 1]) ]

/-- A stored tensor can be written if its sizes fit in 64 bits and its values can be written. -/
theorem tensor_writable (dtype : DType) {sizes : List Nat} {values : List Json} {depth : Nat}
    (small : ∀ size ∈ sizes, size < 0x10000000000000000)
    (fine : ∀ value ∈ values, value.Writable depth) :
    (tensor dtype sizes values).Writable (depth + 2) := by
  refine .object ?_ ?_
  · simp only [Registry.Sorted, List.pairwise_cons, List.forall_mem_cons]
    exact ⟨⟨by decide, by decide, List.forall_mem_nil _⟩, ⟨by decide, List.forall_mem_nil _⟩,
      List.forall_mem_nil _, .nil⟩
  · simp only [List.forall_mem_cons]
    refine ⟨.string _, .array fun item member => ?_, .array fine, List.forall_mem_nil _⟩
    obtain ⟨size, present, rfl⟩ := List.mem_map.mp member
    have bound := small size present
    exact .integer (by omega) (by omega)

private theorem document_writable {x : Json} (fine : x.Writable 124) :
    (document x).Writable Json.maxDepth := by
  have zero : (Json.integer 0).Writable 124 := .integer (by decide) (by decide)
  have zeros (count : Nat) : ∀ value ∈ List.replicate count (Json.integer 0), value.Writable 124 :=
    fun value member => List.eq_of_mem_replicate member ▸ zero
  refine .object ?_ ?_
  · simp only [Registry.Sorted, List.pairwise_cons, List.forall_mem_cons]
    exact ⟨⟨by decide, by decide, by decide, by decide, List.forall_mem_nil _⟩,
      ⟨by decide, by decide, by decide, List.forall_mem_nil _⟩,
      ⟨by decide, by decide, List.forall_mem_nil _⟩, ⟨by decide, List.forall_mem_nil _⟩,
      List.forall_mem_nil _, .nil⟩
  · simp only [List.forall_mem_cons]
    refine ⟨tensor_writable _ (by decide) (zeros 9), .string _,
      tensor_writable _ (by decide) (zeros 3),
      tensor_writable _ (by decide) ?_, tensor_writable _ (by decide) ?_, List.forall_mem_nil _⟩
    · simp only [List.forall_mem_cons]
      exact ⟨fine, zero, zero, List.forall_mem_nil _⟩
    · exact List.forall_mem_singleton.mpr (.integer (by decide) (by decide))

/-- The data of the positions and the cell that are read, and how many lists. -/
def reading (x : Json) : Option (Dense × Dense × Nat) :=
  ((systemOfJson (document x)).exec {}).1.toOption.map fun system =>
    (system.positions.data, system.cell.data, system.neighborLists.length)

/-- The text of the document is read like the document. -/
theorem read {x : Json} (fine : x.Writable 124) {positions cell : Dense} {lists : Nat}
    (found : reading x = some (positions, cell, lists)) : ∃ system after,
      (System.ofJson (document x).dump).exec {} = (.ok system, after) ∧
      system.positions.data = positions ∧ system.cell.data = cell ∧
      system.neighborLists.length = lists := by
  have runs : (System.ofJson (document x).dump).exec {} = (systemOfJson (document x)).exec {} := by
    rw [System.ofJson, Document.parse, Json.lawful.reads (document_writable fine)]
    rfl
  rw [runs]
  rcases ran : (systemOfJson (document x)).exec {} with ⟨_ | system, after⟩
  all_goals
    rw [reading, ran] at found
    cases found
  exact ⟨system, after, rfl, rfl, rfl, rfl⟩

end OneAtom

end Document

namespace System

open Document

/-- The document of one atom is read, stored and read back as the same system. -/
theorem ofJson_stable_one : ∃ text system after, (ofJson text).exec {} = (.ok system, after) ∧
    system.positions.data = ⟨[1, 3], .float32, .cpu, .floats [.one, .zero, .zero]⟩ ∧
    ∃ written made last, system.toJson = .ok written ∧
      (ofJson written).exec after = (.ok made, last) ∧ system.Again made ∧
      made.toJson = .ok written := by
  have found : OneAtom.reading (.real .one) =
      some (⟨[1, 3], .float32, .cpu, .floats [.one, .zero, .zero]⟩,
        ⟨[3, 3], .float32, .cpu, .floats (List.replicate 9 .zero)⟩, 0) := by decide +kernel
  obtain ⟨system, after, read, positions, cell, lists⟩ := OneAtom.read (.real (by decide)) found
  have finite : system.Finite := by
    refine ⟨?_, ?_, ?_⟩
    · rw [positions]
      intro values held
      cases held
      decide
    · rw [cell]
      intro values held
      cases held
      decide
    · rw [List.length_eq_zero_iff.mp lists]
      exact List.forall_mem_nil _
  obtain ⟨written, stored, reading, _, same⟩ := @ofJson_stable _ _ {} .refl _ read
  obtain ⟨made, last, again⟩ := reading.mpr finite
  exact ⟨_, system, after, read, positions, written, made, last, stored, again,
    same made last again⟩

/-- A position that is too large for single precision is read as an infinity, which has no
number in a document. -/
theorem overflow_not_read_again : ∃ system after written,
    (ofJson (OneAtom.document (.real (.ofDecimal false 1 39))).dump).exec {} = (.ok system, after) ∧
    system.toJson = .ok written ∧
    ¬ ∃ made last, (ofJson written).exec after = (.ok made, last) := by
  have found : OneAtom.reading (.real (.ofDecimal false 1 39)) =
      some (⟨[1, 3], .float32, .cpu, .floats [.infinity false, .zero, .zero]⟩,
        ⟨[3, 3], .float32, .cpu, .floats (List.replicate 9 .zero)⟩, 0) := by decide +kernel
  obtain ⟨system, after, read, positions, _⟩ := OneAtom.read (.real (by decide +kernel)) found
  obtain ⟨moved, decoded, _⟩ := (ofJson_decoded _).of_success read
  obtain ⟨written, stored, reading, _⟩ :=
    decoded.reread (moved.steps.sound .start) (moved.holds .start)
  refine ⟨system, after, written, read, stored, fun again => ?_⟩
  have finite := (reading.mp again).positions
  rw [positions] at finite
  exact absurd (finite _ rfl _ List.mem_cons_self) (by decide)

end System

end Atomistic
