import Atomistic.Proofs.Document.ReadBack
import Atomistic.Proofs.World

/-!
# Systems round trip

Of every system that a program can have at hand, whatever operations led to it: it can be
stored exactly if it is not on the meta device, its document can be read exactly if its
numbers are finite and its cell agrees with its periodicity, what is read equals what was
stored, moved to the CPU, and it is stored as the same text
(`Atomistic.System.round_trip`).
-/

namespace Atomistic

open Workspace

namespace System

/-- The tensors of a system and of its neighbor lists. -/
def tensors (system : System) : List Tensor :=
  [system.types, system.positions, system.cell, system.pbc] ++
    system.neighborLists.flatMap fun entry => entry.2.values :: entry.2.axes.map Labels.values

/-- What holds of a system that was read in place of another: its tensors and lists are
those of the other, moved to the CPU, its lists have the same options but for who asked,
in the same order, and there is no custom data and nothing that requires a gradient. -/
structure ReadAs (system : System) (before : Workspace) (made : System) (after : Workspace) :
    Prop where
  fields : ∀ field, ∃ moved last,
    ((system.get field).transfer none (some .cpu)).exec before = (.ok moved, last) ∧
      (made.get field).bitEqual moved
  options : made.knownNeighborLists = system.knownNeighborLists.map NeighborListOptions.anonymous
  lists : List.Forall₂ (fun list new => ∃ moved last,
    (list.transfer none (some .cpu)).exec before = (.ok moved, last) ∧
      new.equal moved ∧ new.values.bitEqual moved.values)
    (system.neighborLists.map Prod.snd) (made.neighborLists.map Prod.snd)
  plain : ∀ entry ∈ made.neighborLists, entry.2.gradients = []
  data : made.data = []
  untracked : ∀ tensor ∈ made.tensors, (after.tape.state tensor.number).requiresGrad = false

variable {system made : System} {workspace after : Workspace}

/-- A copy is stored as the same document. -/
theorem Copy.systemFields_eq (copy : system.Copy made after) :
    Document.systemFields made = Document.systemFields system := by
  refine Document.systemFields_congr (fun field => ?_)
    (map_eq_of_forall₂ copy.lists fun entry new copied => ?_)
  · rw [copy.fields field]
    rfl
  · rw [Document.entryFields, Document.listFields, copied.options, copied.contents.samples,
      copied.contents.values]
    rfl

private theorem Copy.untracked (copy : system.Copy made after) :
    ∀ tensor ∈ made.tensors, (after.tape.state tensor.number).requiresGrad = false := by
  intro tensor member
  rw [tensors, List.mem_append] at member
  rcases member with field | list
  · have each := copy.blank
    simp only [List.mem_cons, List.not_mem_nil, or_false] at field
    rcases field with rfl | rfl | rfl | rfl
    · exact (each .types).untracked
    · exact (each .positions).untracked
    · exact (each .cell).untracked
    · exact (each .pbc).untracked
  · obtain ⟨entry, present, part⟩ := List.mem_flatMap.mp list
    obtain ⟨_, _, copied⟩ := exists_of_forall₂ copy.lists entry present
    exact (copied.blank tensor part).untracked

/-- A copy of a readable system is read in its place. -/
theorem Copy.readAs (copy : system.Copy made after) (clean : workspace.Clean)
    (storable : system.Storable) (readable : system.Readable) :
    system.ReadAs workspace made after := by
  have valid (field : Field) : (system.get field).data.Valid ∧
      (system.get field).data.device ≠ .metadata := by
    cases field with
    | types => exact ⟨storable.types.valid, storable.types.present⟩
    | positions => exact ⟨storable.positions.valid, storable.positions.present⟩
    | cell => exact ⟨storable.cell.valid, storable.cell.present⟩
    | pbc => exact ⟨storable.pbc.1, storable.pbc.2.2⟩
  refine ⟨fun field => ?_, ?_, ?_, fun entry member => ?_, copy.data, copy.untracked⟩
  · obtain ⟨fine, present⟩ := valid field
    obtain ⟨moved, last, ran, held⟩ := (@Tensor.transfer_decides workspace (system.get field)
      (system.get field).data.onCpu fine none (some .cpu)
      (fine.convert_onCpu present) clean).succeeds
    refine ⟨moved, last, ran, ?_⟩
    rw [Tensor.bitEqual, copy.fields field, held, Dense.bitEqual]
    exact beq_self_eq_true _
  · rw [knownNeighborLists, knownNeighborLists, List.map_map]
    exact map_eq_of_forall₂ copy.lists fun entry new copied => copied.options
  · rw [List.forall₂_map_left_iff, List.forall₂_map_right_iff]
    have whole : ∀ entry ∈ system.neighborLists, (∃ pairs, NeighborList.Complete entry.2 pairs) ∧
        entry.2.values.data.Finite := fun entry member =>
      ⟨(storable.lists entry member).2.2, readable.lists entry member⟩
    refine ((List.forall₂_and_left _ _).mpr ⟨whole, copy.lists⟩).imp fun entry new reached => ?_
    obtain ⟨fine, copied⟩ := reached
    obtain ⟨⟨pairs, complete⟩, finite⟩ := fine
    obtain ⟨moved, last, ran, held⟩ := (complete.contents.transfer_decides clean
      complete.samples.valid complete.values.valid complete.together
      complete.values.present).succeeds
    have samples_finite : entry.2.samples.values.data.onCpu.Finite :=
      complete.samples.valid.finite (by
        rw [show entry.2.samples.values.data.dtype = .int32 from complete.samples_dtype]
        rfl)
    refine ⟨moved, last, ran, copied.contents.equal held samples_finite.numbers finite.numbers, ?_⟩
    rw [Tensor.bitEqual, copied.contents.values, held.values, Dense.bitEqual]
    exact beq_self_eq_true _
  · obtain ⟨_, _, copied⟩ := exists_of_forall₂ copy.lists entry member
    exact copied.contents.plain

/-- **Systems round trip.** A system at hand can be stored exactly if it is not on the
meta device.  What is stored can be read exactly if the positions, the cell and the values
of all neighbor lists are finite and the cell vectors of directions that are not periodic
are zero.  What is then read equals the system, moved to the CPU, and is stored as the same
text. -/
theorem round_trip {world : World} (reachable : world.Reachable)
    (present : system ∈ world.systems) :
    ((∃ text, system.toJson = .ok text) ↔ system.device ≠ .metadata) ∧
      ∀ text, system.toJson = .ok text →
        ((∃ made after, (ofJson text).exec world.workspace = (.ok made, after)) ↔
          system.Readable) ∧
        ∀ made after, (ofJson text).exec world.workspace = (.ok made, after) →
          system.ReadAs world.workspace made after ∧ made.toJson = .ok text := by
  have sound := reachable.sound
  have system_sound := sound.systems system present
  have storing := toJson_ok_iff system_sound sound.holds
  refine ⟨storing, fun text written => ?_⟩
  have storable := system_sound.storable sound.holds (storing.mp ⟨text, written⟩)
  have clean := clean_of_sound sound.tape
  have runs : (ofJson text).exec world.workspace =
      (Document.systemOfJson (.object (Document.systemFields system))).exec world.workspace := by
    rw [ofJson, parse_toJson storable written]
    rfl
  have decided := Document.systemOfJson_decides clean system_sound storable
  simp only [runs]
  refine ⟨decided.success_iff, fun made after read => ?_⟩
  have copy := (decided.of_success read).2
  have readable := decided.success_iff.mp ⟨made, after, read⟩
  refine ⟨copy.readAs clean storable readable, ?_⟩
  have within := @Document.systemOfJson_within world.workspace
    (.object (Document.systemFields system))
  have moved := within.moved
  have gives := within.gives
  rw [read] at moved gives
  have made_sound : made.Sound after.tape := gives made rfl
  have on_cpu : made.device ≠ .metadata := by
    rw [device, Tensor.device, show made.types.data = _ from copy.fields .types]
    exact show Device.cpu ≠ .metadata by decide
  rw [toJson_eq (made_sound.storable (moved.holds sound.holds) on_cpu), copy.systemFields_eq,
    ← toJson_eq storable]
  exact written

end System

namespace World

namespace Alone

/-- The data of two atoms in an empty cell, of a list of the pair of them, and of the labels
that every list has. -/
def contents : List Dense :=
  [ ⟨[2], .int32, .cpu, .integers [1, 8]⟩,
    ⟨[2, 3], .float64, .cpu, .floats [.one, .zero, .negativeZero, .one, .one, .zero]⟩,
    ⟨[3, 3], .float64, .cpu, .floats (List.replicate 9 .zero)⟩,
    ⟨[3], .bool, .cpu, .integers [0, 0, 0]⟩,
    ⟨[1, 5], .int32, .cpu, .integers [0, 1, 0, 0, 0]⟩,
    ⟨[1, 3, 1], .float64, .cpu, .floats [.zero, .one, .zero]⟩,
    Labels.column .cpu [0, 1, 2],
    Labels.column .cpu [0] ]

/-- The tensor that is made of the data in some place. -/
def tensor (number : Nat) : Tensor :=
  ⟨⟨contents.getD number (.onMeta [] .bool), .ofTensor number⟩, number⟩

/-- Two atoms. -/
def system : System := ⟨tensor 0, tensor 1, tensor 2, tensor 3, [], []⟩

/-- The pair of the two atoms. -/
def list : Block :=
  ⟨tensor 5, ⟨NeighborList.sampleNames, tensor 4⟩, [⟨["xyz"], tensor 6⟩], ⟨["distance"], tensor 7⟩,
    []⟩

/-- Options whose cutoff is a NaN. -/
def options : NeighborListOptions := .create ⟨0x7ff8000000000001⟩ true "test"

/-- Only tensors. -/
def made : World where
  workspace := (contents.take 6).foldl (fun workspace data =>
    ((Session.create data : Session TensorError Tensor).exec workspace).2) {}

/-- The atoms as a system. -/
def created : World :=
  made.keep (System.create (tensor 0) (tensor 1) (tensor 2) (tensor 3)) fun made after =>
    { after with systems := made :: after.systems }

/-- The system, and the pair as a list. -/
def assembled : World :=
  created.keep (NeighborList.assemble (tensor 4) (tensor 5)) fun made after =>
    { after with blocks := made :: after.blocks }

/-- The system and the pair, and options for a list. -/
def asked : World :=
  assembled.keep (pure options) fun made after => { after with options := made :: after.options }

/-- The system with the list attached. -/
def attached : World := asked.call system (.addNeighborList options list)

/-- The tensors, blocks and systems of the example are made in a run. -/
theorem made_run : Run Dense.Valid {} made.workspace := by
  refine .creates (contents.take 6) {} ?_
  simp only [contents, List.take, List.forall_mem_cons]
  exact ⟨.integers rfl (by decide) rfl (by decide), .floats rfl (by decide) rfl fun _ _ => rfl,
    .floats rfl (by decide) rfl fun _ _ => rfl, .integers rfl (by decide) rfl (by decide),
    .integers rfl (by decide) rfl (by decide), .floats rfl (by decide) rfl fun _ _ => rfl,
    List.forall_mem_nil _⟩

/-- A program can make what the example holds. -/
theorem attached_reachable : attached.Reachable := by
  have tensors : ∀ part ∈ [tensor 0, tensor 1, tensor 2, tensor 3],
      made.workspace.tape.Knows part := by
    simp only [List.forall_mem_cons]
    exact ⟨rfl, rfl, rfl, rfl, List.forall_mem_nil _⟩
  have first : Reachable made := .single (.run made_run)
  have second : Reachable created := .tail first (.system (.create tensors))
  have third : Reachable assembled := .tail second (.block (.assemble rfl rfl))
  have fourth : Reachable asked := .tail third (.options (.create _ _ _))
  have systems : asked.systems = [system] := rfl
  have blocks : asked.blocks = [list] := rfl
  have known : asked.options = [options] := rfl
  have offers : asked.Offers (.addNeighborList options list) := by
    rw [Offers, known, blocks]
    exact ⟨List.mem_singleton_self _, List.mem_singleton_self _⟩
  exact .tail fourth (.call (by rw [systems]; exact List.mem_singleton_self _) offers)

end Alone

end World

namespace System

open World

/-- A system with a list of one pair is stored and read back. -/
theorem round_trip_alone : Alone.attached.Reachable ∧ Alone.list.samples.count = 1 ∧
    ∃ system ∈ Alone.attached.systems, system.neighborLists = [(Alone.options, Alone.list)] ∧
      ∃ text made after, system.toJson = .ok text ∧
        (ofJson text).exec Alone.attached.workspace = (.ok made, after) ∧
        system.ReadAs Alone.attached.workspace made after ∧ made.toJson = .ok text := by
  let system : System := { Alone.system with neighborLists := [(Alone.options, Alone.list)] }
  have systems : Alone.attached.systems = [system, Alone.system] := rfl
  have present : system ∈ Alone.attached.systems := by
    rw [systems]
    exact List.mem_cons_self
  obtain ⟨storing, reading⟩ := round_trip Alone.attached_reachable present
  obtain ⟨text, written⟩ := storing.mpr (by decide)
  have finite {d : Dense} {values : List Binary64} (held : d.values = .floats values)
      (fine : ∀ x ∈ values, x.isFinite) : d.Finite := by
    intro others same
    rw [held] at same
    exact Values.floats.inj same ▸ fine
  have readable : system.Readable := by
    refine ⟨finite rfl (by decide), finite rfl (by decide), ?_, fun entry member => ?_⟩
    · exact (checkCell_iff (by decide) rfl rfl rfl).mp rfl
    · rw [List.mem_singleton.mp member]
      exact finite rfl (by decide)
  obtain ⟨made, after, read⟩ := (reading text written).1.mpr readable
  exact ⟨Alone.attached_reachable, rfl, system, present, rfl, text, made, after, written, read,
    (reading text written).2 made after read⟩

end System

end Atomistic
