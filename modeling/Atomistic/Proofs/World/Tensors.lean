import Atomistic.Proofs.Document.RoundTrip
import Atomistic.Proofs.Tensor.Represented

/-!
# All data at hand

The data of every tensor of a world looks as data should: of every tensor that was ever made,
of the gradients accumulated for it, and of what the labels, blocks and systems at hand are
made of, however deep (`Atomistic.World.data_represented`).
-/

namespace Atomistic

/-- The tensors that a block is made of. -/
inductive Block.Has : Block → Tensor → Prop
  | values (block : Block) : Has block block.values
  | axis {block : Block} {labels : Labels} (axis : labels ∈ block.axes) : Has block labels.values
  | gradient {block : Block} {entry : String × Block} {tensor : Tensor}
      (member : entry ∈ block.gradients) (inside : Has entry.2 tensor) : Has block tensor

/-- The tensors of a sound block were made. -/
theorem Block.Sound.knows {tape : Tape} {block : Block} (sound : block.Sound tape) {tensor : Tensor}
    (inside : block.Has tensor) : tape.Knows tensor := by
  induction inside with
  | values block => cases sound; assumption
  | axis axis =>
      obtain ⟨_, labeled⟩ := sound
      exact (labeled _ axis).1.known
  | gradient member _ ih =>
      obtain ⟨_, _, _, _, _, gradients⟩ := sound
      exact ih (gradients _ member)

namespace World

/-- The data that a world has at hand. -/
inductive Has (world : World) : Dense → Prop
  | tensor {tensor : Tensor} (known : world.workspace.tape.Knows tensor) : Has world tensor.data
  | grad {number : Nat} {grad : Tensor}
      (stored : (world.workspace.tape.state number).grad = some grad) : Has world grad.data
  | labels {labels : Labels} (present : labels ∈ world.labels) : Has world labels.values.data
  | block {block : Block} (present : block ∈ world.blocks) {tensor : Tensor}
      (inside : block.Has tensor) : Has world tensor.data
  | field {system : System} (present : system ∈ world.systems) (field : Field) :
      Has world (system.get field).data
  | list {system : System} (present : system ∈ world.systems) {entry : NeighborListOptions × Block}
      (member : entry ∈ system.neighborLists) {tensor : Tensor} (inside : entry.2.Has tensor) :
      Has world tensor.data
  | data {system : System} (present : system ∈ world.systems) {entry : String × Block}
      (member : entry ∈ system.data) {tensor : Tensor} (inside : entry.2.Has tensor) :
      Has world tensor.data

/-- Everything at hand is on the tape of a sound world, or was accumulated on it. -/
theorem Has.valid {world : World} (sound : world.Sound) {d : Dense} (has : world.Has d) :
    d.Valid := by
  cases has with
  | tensor known => exact sound.holds.knows known
  | grad stored => exact sound.holds.grads _ _ stored
  | labels present => exact sound.holds.knows (sound.labels _ present).known
  | block present inside => exact sound.holds.knows ((sound.blocks _ present).knows inside)
  | field present field => exact sound.holds.knows ((sound.systems _ present).known field)
  | list present member inside =>
      exact sound.holds.knows (((sound.systems _ present).lists _ member).2.sound.knows inside)
  | data present member inside =>
      exact sound.holds.knows (((sound.systems _ present).data _ member).sound.knows inside)

/-- **All data looks as it should.** Exactly such data can be made by constructors,
conversions and sums; the runs of a world make their data in these ways; and so all that a
world has at hand looks like this, in whatever order operations were applied. -/
theorem data_represented :
    (∀ d : Dense, d.Obtained ↔ d.Represented) ∧
    (∀ before after, Run Dense.Valid before after ↔ Run Dense.Obtained before after) ∧
    ∀ world : World, world.Reachable → ∀ d, world.Has d → d.Represented := by
  refine ⟨Dense.obtained_iff, fun before after => ?_, fun world reachable d has => ?_⟩
  · rw [show Dense.Valid = Dense.Obtained from funext fun d => propext (Dense.valid_iff d)]
  · exact (has.valid reachable.sound).represented

namespace Alone

/-- The types of atoms that were given as a list are `int32` numbers. -/
theorem data_represented_attached : attached.Reachable ∧ attached.Has system.types.data ∧
    system.types.data.Represented := by
  have systems : ∃ made, attached.systems = [made, system] := ⟨_, rfl⟩
  obtain ⟨made, systems⟩ := systems
  have has : attached.Has system.types.data :=
    @Has.field attached system (by rw [systems]; simp) .types
  exact ⟨attached_reachable, has, data_represented.2.2 attached attached_reachable _ has⟩

end Alone

end World

end Atomistic
