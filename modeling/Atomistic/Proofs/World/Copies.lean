import Atomistic.Proofs.Tensor.Copies
import Atomistic.Proofs.World.Passes

/-!
# Casts and moves over whole runs

What a cast or a move of a tensor gives is known in advance: whether it fails, the shape, element
type and device of the result, whether the result is the same tensor or shares its buffer, and
whether it requires a gradient (`Atomistic.World.Reachable.transfer_outcomes`).  Gradients of the
result come back to a leaf, in every pass from then on (`Atomistic.World.ComesBack`).
-/

namespace Atomistic

open Session Workspace

/-- An amount that something was added to is there. -/
theorem TensorData.total_isSome {D : Type} [TensorData D] {old result : Option D} {new : D}
    (summed : total old [new] = .ok result) : result.isSome := by
  cases old with
  | none => exact Except.ok.inj summed ▸ rfl
  | some old =>
      obtain ⟨sum, _, last⟩ := ok_of_bind summed
      exact Except.ok.inj last ▸ rfl

/-- A pass from a root succeeds, and all that it brings is a gradient for a leaf, of the shape,
the element type and the device of the leaf. -/
structure Tensor.Delivers (root : Tensor) (gradient : Option Tensor) (leaf : Tensor)
    (before : Workspace) (new : Dense) (after : Workspace) : Prop where
  ran : (root.backward gradient).exec before = (.ok (), after)
  brings : root.brings gradient before = [(leaf, new)]
  adds : before.tape.Adds after.tape [(leaf, new)]
  fits : new.shape = leaf.shape ∧ new.dtype = leaf.dtype ∧ new.device = leaf.device
  holds : ∃ grad, (after.tape.state leaf.number).grad = some grad ∧
    grad.shape = leaf.shape ∧ grad.dtype = leaf.dtype ∧ grad.device = leaf.device

namespace World

variable {world : World} {root leaf tensor made : Tensor} {gradient : Option Tensor}

/-- Whatever happens later, gradients of a tensor come back to a leaf: a pass from the tensor
brings the leaf a gradient, and so does any sweep that comes by the node that made the tensor
with a gradient for it.  If the tensor is the leaf itself, it has to be a leaf that is tracked
still. -/
structure ComesBack (world : World) (made leaf : Tensor) : Prop where
  passes : ∀ later, Relation.ReflTransGen Step world later →
    (made.sameAs leaf → later.workspace.Tracks leaf ∧
      (later.workspace.tape.state leaf.number).gradFn = none) →
    ∀ gradient : Option Tensor, (∀ given ∈ gradient, later.workspace.tape.Knows given ∧
        given.shape = made.shape ∧ given.device ≠ .metadata) →
      (gradient = none → made.data.count = 1) →
      ∃ new after, made.Delivers gradient leaf later.workspace new after
  visits : ¬ made.sameAs leaf → ∀ later, Relation.ReflTransGen Step world later →
    ∃ maker, (later.workspace.tape.state made.number).gradFn = some maker ∧
      ∀ (sweep : Sweep View Tensor) (gradient : View), sweep.pending.get? maker = some gradient →
        gradient.data.Valid → gradient.data.shape = made.shape → gradient.data.device ≠ .metadata →
        ∃ after delivered, later.workspace.tape.graph.visit sweep maker = .ok after ∧
          after.delivered = sweep.delivered ++ [(leaf, delivered)] ∧
          delivered.data.shape = leaf.shape ∧ delivered.data.dtype = leaf.dtype ∧
          delivered.data.device = leaf.device

/-- A pass that brings a leaf one gradient that fits it, whatever the seed, delivers that. -/
theorem Reachable.delivers (reachable : world.Reachable)
    (root_known : world.workspace.tape.Knows root) (leaf_known : world.workspace.tape.Knows leaf)
    (tracked : world.workspace.Tracks root)
    (fits : ∀ given ∈ gradient, world.workspace.tape.Knows given ∧
      given.shape = root.shape ∧ given.device ≠ .metadata)
    (single : gradient = none → root.data.count = 1)
    (carried : ∀ seed : Dense, seed.Valid → TensorData.kind seed = TensorData.kind root.data →
      ∃ new, TensorData.kind new = TensorData.kind leaf.data ∧
        ∀ middle, world.workspace.Gains middle → ∀ view : View, view.data = seed →
          (middle.tape.backward root view).1 = .ok () ∧
            middle.tape.brings root view = [(leaf, new)]) :
    ∃ new after, root.Delivers gradient leaf world.workspace new after := by
  have sound := reachable.sound
  have known : ∀ given ∈ gradient, world.workspace.tape.Knows given := fun given member =>
    (fits given member).1
  have valid : ∀ given ∈ gradient, given.data.Valid := fun given member =>
    sound.holds.knows (known given member)
  obtain ⟨seed, given⟩ :=
    Tensor.seedData_ok valid (fun given member => (fits given member).2) single
  obtain ⟨seed_valid, seed_kind⟩ := Tensor.seedData_fits (sound.holds.knows root_known)
    (by simpa using valid) given
  obtain ⟨new, kind, carried⟩ := carried seed seed_valid (Dense.kind_eq_iff.mpr seed_kind)
  obtain ⟨⟨after, ran⟩, brings⟩ := Tensor.backward_brings tracked given carried
  have adds := Tensor.backward_adds sound.tape sound.holds root_known known
  rw [ran, brings] at adds
  have run : Run Dense.Valid world.workspace after := by
    have run := @Run.backward Dense.Valid world.workspace root gradient root_known known
    rwa [ran] at run
  have extended := run.extended Dense.kind_valid
  refine ⟨new, after, ran, brings, adds, Dense.kind_eq_iff.mp kind, ?_⟩
  have added := adds leaf.number
  rw [List.filter_cons_of_pos (by simp), List.filter_nil] at added
  have present := TensorData.total_isSome added
  rw [Option.isSome_map, Option.isSome_iff_exists] at present
  obtain ⟨grad, held⟩ := present
  have fits := ((extended.steps.sound sound.tape).fits leaf.number grad held).2 _
    (extended.knows leaf_known)
  exact ⟨grad, held, Dense.kind_eq_iff.mp fits⟩

/-- A leaf gets its own gradients. -/
theorem Reachable.comesBack_self (reachable : world.Reachable)
    (known : world.workspace.tape.Knows leaf) : world.ComesBack leaf leaf where
  visits other := absurd (beq_self_eq_true leaf.number) other
  passes later steps still gradient fits single := by
    have later_reachable : later.Reachable := reachable.trans steps
    have later_known := reachable.knows steps known
    obtain ⟨tracked, produced⟩ := still (beq_self_eq_true leaf.number)
    refine later_reachable.delivers later_known later_known tracked fits single
      fun seed valid kind => ⟨seed, kind, fun middle gains view same => ?_⟩
    subst same
    exact middle.tape.backward_accepts ((gains.state leaf.number).symm ▸ produced) valid kind

/-- Gradients of the output of a node that returns them to a leaf come back to the leaf. -/
theorem Reachable.comesBack_returns (reachable : world.Reachable)
    (known : world.workspace.tape.Knows made) (leaf_known : world.workspace.tape.Knows leaf)
    {maker : Nat} {node : Node}
    (produced : (world.workspace.tape.state made.number).gradFn = some maker)
    (stored : world.workspace.tape.nodes[maker]? = some node) (returns : node.Returns leaf)
    (shape : made.shape = leaf.shape) (real : made.device ≠ .metadata) :
    world.ComesBack made leaf where
  passes later steps _ gradient fits single := by
    have later_reachable : later.Reachable := reachable.trans steps
    have continues := reachable.continues steps
    have tracked := later_reachable.sound.marked.produced _ _ (continues.produced produced)
    refine later_reachable.delivers (reachable.knows steps known) (reachable.knows steps leaf_known)
      tracked fits single fun seed valid kind => ?_
    obtain ⟨same_shape, _, same_device⟩ := Dense.kind_eq_iff.mp kind
    have seed_shape : seed.shape = leaf.shape := same_shape.trans shape
    have present : seed.device ≠ .metadata := fun gone => real (same_device.symm.trans gone)
    obtain ⟨new, converted, fits⟩ := Tensor.convert_like valid leaf seed_shape present
    refine ⟨new, fits, fun middle gains view same => ?_⟩
    subst same
    have middle_stored : middle.tape.nodes[maker]? = some node := by
      rw [gains.nodes]
      exact continues.nodes stored
    have middle_produced : (middle.tape.state made.number).gradFn = some maker := by
      rw [gains.state]
      exact continues.produced produced
    exact Tape.backward_returns middle_stored returns valid seed_shape converted middle_produced
  visits _ later steps := by
    have continues := reachable.continues steps
    refine ⟨maker, continues.produced produced, fun sweep gradient waiting valid same present => ?_⟩
    have gradient_shape : gradient.data.shape = leaf.shape := same.trans shape
    obtain ⟨new, converted, fits⟩ := Tensor.convert_like valid leaf gradient_shape present
    obtain ⟨after, delivered, visited, appended, rfl⟩ := Tape.visit_returns (continues.nodes stored)
      returns valid gradient_shape converted waiting
    exact ⟨after, delivered, visited, appended, Dense.kind_eq_iff.mp fits⟩

/-- **What a cast or a move gives.** It fails exactly if a tensor should leave the meta device, and
then nothing happens.  Otherwise everything about the result is known: its shape, element type and
device, whether it is the tensor itself, whether it is in the same buffer and whether it requires a
gradient; and no tensor that was there changes.  If a leaf is cast to a floating point type or
moved, off the meta device, then gradients of the result come back to it.  Moves around devices
that hold data end with the data of one move to the last of them. -/
theorem Reachable.transfer_outcomes (reachable : world.Reachable)
    (known : world.workspace.tape.Knows tensor) (dtype : Option DType) (device : Option Device) :
    ((∃ fault after, (tensor.transfer dtype device).exec world.workspace = (.error fault, after)) ↔
      tensor.device = .metadata ∧ device.getD tensor.device ≠ .metadata) ∧
    (∀ fault after, (tensor.transfer dtype device).exec world.workspace = (.error fault, after) →
      fault = .copyOutOfMeta (device.getD tensor.device) ∧ after = world.workspace) ∧
    (∀ made after, (tensor.transfer dtype device).exec world.workspace = (.ok made, after) →
      tensor.Transferred (dtype.getD tensor.dtype) (device.getD tensor.device) world.workspace
        made after ∧
      (world.workspace.Tracks tensor → (dtype.getD tensor.dtype).isFloating →
        (world.workspace.tape.state tensor.number).gradFn = none → tensor.device ≠ .metadata →
        device.getD tensor.device ≠ .metadata →
        ComesBack { world with workspace := after } made tensor)) ∧
    (tensor.device ≠ .metadata → ∀ devices : List Device,
      (∀ device ∈ devices, device ≠ .metadata) → ∃ around first direct second,
        (tensor.moves devices).exec world.workspace = (.ok around, first) ∧
        (tensor.transfer none (some (devices.getLastD tensor.device))).exec world.workspace =
          (.ok direct, second) ∧ around.bitEqual direct) := by
  have sound := reachable.sound
  have clean := clean_of_sound sound.tape
  have valid : tensor.data.Valid := sound.holds.knows known
  have ends := @Tensor.transfer_ends world.workspace tensor clean dtype device
  refine ⟨⟨?fails, ?stuck⟩, fun fault after ran => ?_, fun made after ran => ?_,
    fun home devices real => Tensor.moves_bitEqual clean valid home real⟩
  case fails =>
    rintro ⟨fault, after, ran⟩
    rw [ran] at ends
    obtain ⟨home, away, _⟩ := ends.fails valid
    exact ⟨home, away⟩
  case stuck =>
    rintro ⟨home, away⟩
    rcases ran : (tensor.transfer dtype device).exec world.workspace with ⟨fault | made, after⟩
    · exact ⟨fault, after, rfl⟩
    · rw [ran] at ends
      exact absurd (ends.reaches valid home) away
  · rw [ran] at ends
    exact (ends.fails valid).2.2
  · rw [ran] at ends
    have transferred := ends.transferred known clean
    refine ⟨transferred, fun tracked floating leaf home real => ?_⟩
    have step : Step world { world with workspace := after } := by
      have run := @Run.transfer Dense.Valid world.workspace tensor known dtype device
      rw [ran] at run
      exact .run run
    have after_reachable : Reachable { world with workspace := after } := .tail reachable step
    rcases ends.returns leaf tracked floating with
      ⟨rfl, rfl⟩ | ⟨maker, node, produced, stored, returns⟩
    · exact reachable.comesBack_self known
    · exact after_reachable.comesBack_returns transferred.made_known transferred.known produced
        stored returns transferred.shape (transferred.moved ▸ real)

namespace Rejoined

/-- The second leaf in single precision on a graphics device. -/
def copy : Tensor := ⟨⟨.full [] .one .float32 (.cuda 0), .ofTensor 3⟩, 3⟩

/-- A leaf that is cast and moved gets the gradient of the copy, and moves around give its data
back. -/
theorem transfer_outcomes_copy : Reachable { workspace := Rejoined.made } ∧
    second.Transferred .float32 (.cuda 0) Rejoined.made copy
      ((second.transfer (some .float32) (some (.cuda 0))).exec Rejoined.made).2 ∧
    (∃ new after, copy.Delivers none second
      ((second.transfer (some .float32) (some (.cuda 0))).exec Rejoined.made).2 new after) ∧
    ∃ around first direct last,
      (second.moves [.cuda 1, .cpu, .cuda 0]).exec Rejoined.made = (.ok around, first) ∧
      (second.transfer none (some (.cuda 0))).exec Rejoined.made = (.ok direct, last) ∧
      around.bitEqual direct := by
  have reachable : Reachable { workspace := Rejoined.made } := .single (.run made_run)
  have known : Rejoined.made.tape.Knows second := rfl
  obtain ⟨_, _, given, moves⟩ :=
    reachable.transfer_outcomes known (some .float32) (some (.cuda 0))
  obtain ⟨transferred, back⟩ := given copy _ rfl
  have comes := back rfl rfl rfl (by decide) (by decide)
  refine ⟨reachable, transferred, ?_, moves (by decide) [.cuda 1, .cpu, .cuda 0] (by decide)⟩
  exact comes.passes _ .refl (fun same => absurd same (by decide)) none
    (fun _ given => nomatch given) fun _ => rfl

end Rejoined

end World

end Atomistic
