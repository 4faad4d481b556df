import Atomistic.Proofs.Block.Depths
import Atomistic.Proofs.World.Conversions

/-!
# Blocks at hand

Whatever led to a block, it is coherent at every depth.  A gradient that can not be added leaves
the block as it was, and a block that is cast or moved is again coherent, with the same
parameters at every depth (`Atomistic.World.Reachable.blocks_coherent`).
-/

namespace Atomistic

namespace World

open Session Workspace

variable {world : World}

/-- **Blocks at hand are coherent**, at every depth.  Exactly the gradients that a block takes can
be added under a new parameter; then nothing else in the block changes, and a call that fails
leaves the block, which it was to change in place, as it was.  A block can be cast and moved
wherever its device allows.  What it becomes is coherent, of the type and on the device asked for
at every depth, and has the parameters that it had at every depth. -/
theorem Reachable.blocks_coherent (reachable : world.Reachable) {block : Block}
    (present : block ∈ world.blocks) :
    block.Coherent ∧
    (∀ parameter, ∀ gradient ∈ world.blocks,
      ((∃ made, block.addGradient parameter gradient = .ok made) ↔
        block.gradient? parameter = none ∧ block.Takes gradient) ∧
      (∀ fault left,
        (Block.attachGradient parameter gradient).run.run block = (.error fault, left) →
        left = block ∧ world.addGradient block parameter gradient =
          { world with blocks := block :: world.blocks }) ∧
      ∀ made, block.addGradient parameter gradient = .ok made → made.Coherent ∧
        made = { block with
          gradients := Registry.insert parameter gradient block.gradients }) ∧
    ∀ dtype device,
      ((∃ made after, (block.transfer dtype device).exec world.workspace = (.ok made, after)) ↔
        block.values.device.Reaches (device.getD block.values.device)) ∧
      ∀ made after, (block.transfer dtype device).exec world.workspace = (.ok made, after) →
        made.Coherent ∧
        (∀ path inner, made.at? path = some inner →
          inner.values.dtype = dtype.getD block.values.dtype ∧
            inner.values.device = device.getD block.values.device) ∧
        ∀ path, (made.at? path).map Block.parameters = (block.at? path).map Block.parameters := by
  have sound := reachable.sound
  have block_sound := sound.blocks block present
  have fitted := reachable.fitted.1 block present
  have home := block_sound.home sound.holds
  have clean := clean_of_sound sound.tape
  refine ⟨fitted.coherent block_sound, fun parameter gradient gradient_present => ⟨?_, ?_, ?_⟩,
    fun dtype device => ⟨?_, ?_⟩⟩
  · rw [Block.addGradient_iff, Registry.contains, Option.isSome_eq_false_iff,
      Option.isNone_iff_eq_none]
    rfl
  · intro fault left failed
    have same : left = block :=
      (Block.attachGradient_allOrNothing parameter gradient).run_fails failed
    refine ⟨same, ?_⟩
    rw [World.addGradient, change, InPlace.exec_inSession, failed, same]
  · intro made added
    have made_fitted := fitted.addGradient (reachable.fitted.1 gradient gradient_present) added
    have made_sound := Block.addGradient_sound block_sound (sound.blocks gradient gradient_present)
        added
    exact ⟨made_fitted.coherent made_sound, Block.addGradient_inserts added⟩
  · exact (Block.transfer_recasts home clean dtype device).success_iff
  · intro made after ran
    have bare := ((Block.transfer_recasts home clean dtype device).of_success ran).2
    obtain ⟨moved_sound, made_dtype, made_device⟩ :=
      ((Block.transfer_within Dense.kind_valid block_sound dtype device).of_success ran).2
    have coherent := (fitted.transfer block_sound sound.holds clean ran).coherent moved_sound
    refine ⟨coherent, fun path inner found => ?_, Block.parameters_of_recast bare⟩
    obtain ⟨same_dtype, same_device⟩ := coherent.together path found
    exact ⟨same_dtype.trans made_dtype, same_device.trans made_device⟩

namespace Nested

/-- A table with a single number. -/
def number : Tensor := ⟨⟨⟨[1, 1], .float64, .cpu, .floats [.one]⟩, .ofTensor 0⟩, 0⟩

/-- Labels for a single row. -/
def row : Labels := ⟨["row"], ⟨⟨Labels.column .cpu [0], .ofTensor 1⟩, 1⟩⟩

/-- A single number. -/
def block : Block := ⟨number, row, [], row, []⟩

/-- The number as its own gradient. -/
def inner : Block := { block with gradients := [("strain", block)] }

/-- The number with a gradient that has a gradient. -/
def outer : Block := { block with gradients := [("cell", inner)] }

/-- Only the table. -/
def made : World where
  workspace := ((Session.create number.data : Session TensorError Tensor).exec {}).2

/-- The table, and labels for it. -/
def labeled : World :=
  made.keep (Labels.range "row" 1) fun made after => { after with labels := made :: after.labels }

/-- The block of the table. -/
def created : World :=
  labeled.keep (Session.ofExcept (Block.create number row [] row)) fun made after =>
    { after with blocks := made :: after.blocks }

/-- The block has itself as a gradient. -/
def once : World := created.addGradient block "strain" block

/-- The block has a gradient that has a gradient. -/
def nested : World := once.addGradient block "cell" inner

private theorem nested_reachable : nested.Reachable := by
  have valid : number.data.Valid := .floats rfl (by decide) rfl fun _ _ => rfl
  have labels : ∀ labels ∈ row :: [] ++ [row], labels ∈ labeled.labels := fun labels member => by
    rw [show labeled.labels = [row] from rfl]
    simpa using member
  have first : Reachable labeled :=
    .tail (.single (.run (.create {} valid))) (.labels (.range "row" 1))
  have known : labeled.workspace.tape.Knows number := rfl
  have second : Step labeled created := .block (.create known labels)
  have alone : block ∈ created.blocks := by
    rw [show created.blocks = [block] from rfl]
    exact List.mem_cons_self
  have third : Step created once := .addGradient alone alone "strain"
  have both : block ∈ once.blocks ∧ inner ∈ once.blocks := by
    rw [show once.blocks = [inner, block] from rfl]
    exact ⟨List.mem_cons_of_mem _ List.mem_cons_self, List.mem_cons_self⟩
  have last : Step once nested := .addGradient both.1 both.2 "cell"
  exact .tail (.tail (.tail first second) third) last

/-- The gradient of the gradient is still there on the meta device. -/
theorem blocks_coherent_nested : nested.Reachable ∧ outer ∈ nested.blocks ∧ outer.Coherent ∧
    outer.at? ["cell", "strain"] = some block ∧
    ∃ made after, (outer.transfer (some .float32) (some .metadata)).exec nested.workspace =
        (.ok made, after) ∧ made.Coherent ∧ ∃ last, made.at? ["cell", "strain"] = some last ∧
      last.values.dtype = .float32 ∧ last.values.device = .metadata := by
  have present : outer ∈ nested.blocks := by
    rw [show nested.blocks = [outer, inner, block] from rfl]
    exact List.mem_cons_self
  obtain ⟨coherent, _, transfers⟩ := nested_reachable.blocks_coherent present
  obtain ⟨succeeds, keeps⟩ := transfers (some .float32) (some .metadata)
  obtain ⟨made, after, ran⟩ := succeeds.mpr fun _ => rfl
  obtain ⟨made_coherent, kinds, paths⟩ := keeps made after ran
  have leads : outer.at? ["cell", "strain"] = some block := rfl
  have found := paths ["cell", "strain"]
  rw [leads, Option.map_some, Option.map_eq_some_iff] at found
  obtain ⟨last, path, _⟩ := found
  exact ⟨nested_reachable, present, coherent, leads, made, after, ran, made_coherent, last, path,
    kinds _ _ path⟩

end Nested

end World

end Atomistic
