import Atomistic.Proofs.NeighborList.Layout

/-!
# What becomes of a block that is cast or moved

Every tensor of a block is cast or moved by itself: the values and those of the gradients, at
every depth, are cast and moved, and all labels are moved along
(`Atomistic.Block.transfer_recasts`).
-/

namespace Atomistic

open Workspace

/-- A tensor without its identity: nothing but data. -/
def Tensor.bare (tensor : Tensor) : Tensor := ⟨⟨tensor.data, .ofTensor 0⟩, 0⟩

/-- The bare tensor that is made of a tensor that is cast and moved. -/
def Tensor.recast (dtype : Option DType) (device : Option Device) (tensor : Tensor) : Tensor :=
  ⟨⟨tensor.data.recast dtype device, .ofTensor 0⟩, 0⟩

namespace Labels

/-- Labels without the identity of their tensor. -/
def bare (labels : Labels) : Labels := ⟨labels.names, labels.values.bare⟩

/-- The bare labels that are made of labels that are moved. -/
def recast (device : Device) (labels : Labels) : Labels :=
  ⟨labels.names, labels.values.recast none (some device)⟩

end Labels

namespace Block

mutual

/-- A block without the identities of its tensors: nothing but names and data. -/
def bare : Block → Block
  | ⟨values, samples, components, properties, gradients⟩ =>
    ⟨values.bare, samples.bare, components.map Labels.bare, properties.bare, bareAll gradients⟩

/-- Named blocks without the identities of their tensors. -/
def bareAll : List (String × Block) → List (String × Block)
  | [] => []
  | (parameter, block) :: rest => (parameter, bare block) :: bareAll rest

end

mutual

/-- The bare block that is made of a block that is cast and moved. -/
def recast (dtype : Option DType) (device : Option Device) : Block → Block
  | ⟨values, samples, components, properties, gradients⟩ =>
    let home := device.getD values.device
    ⟨values.recast dtype device, samples.recast home, components.map (Labels.recast home),
      properties.recast home, recastAll dtype (some home) gradients⟩

/-- The bare blocks that are made of named blocks that are cast and moved. -/
def recastAll (dtype : Option DType) (device : Option Device) :
    List (String × Block) → List (String × Block)
  | [] => []
  | (parameter, block) :: rest =>
    (parameter, recast dtype device block) :: recastAll dtype device rest

end

private theorem bareAll_eq_map (entries : List (String × Block)) :
    bareAll entries = entries.map fun entry => (entry.1, entry.2.bare) := by
  induction entries with
  | nil => rw [bareAll, List.map_nil]
  | cons entry rest ih => rw [bareAll, ih, List.map_cons]

private theorem recastAll_eq_map (dtype : Option DType) (device : Option Device)
    (entries : List (String × Block)) :
    recastAll dtype device entries =
      entries.map fun entry => (entry.1, entry.2.recast dtype device) := by
  induction entries with
  | nil => rw [recastAll, List.map_nil]
  | cons entry rest ih => rw [recastAll, ih, List.map_cons]

section Projections

variable (block : Block) (dtype : Option DType) (device : Option Device)

/-- A bare block has bare values. -/
@[simp] theorem bare_values : block.bare.values = block.values.bare := by
  cases block
  rw [Block.bare]

/-- A bare block has bare samples. -/
@[simp] theorem bare_samples : block.bare.samples = block.samples.bare := by
  cases block
  rw [Block.bare]

/-- A bare block has bare components. -/
@[simp] theorem bare_components :
    block.bare.components = block.components.map Labels.bare := by
  cases block
  rw [Block.bare]

/-- A bare block has bare properties. -/
@[simp] theorem bare_properties : block.bare.properties = block.properties.bare := by
  cases block
  rw [Block.bare]

/-- A bare block has bare gradients. -/
@[simp] theorem bare_gradients :
    block.bare.gradients = block.gradients.map fun entry => (entry.1, entry.2.bare) := by
  cases block
  rw [Block.bare, Block.bareAll_eq_map]

/-- The values of a block are cast and moved. -/
@[simp] theorem recast_values :
    (block.recast dtype device).values = block.values.recast dtype device := by
  cases block
  rw [Block.recast]

/-- The samples of a block follow its values. -/
@[simp] theorem recast_samples : (block.recast dtype device).samples =
    block.samples.recast (device.getD block.values.device) := by
  cases block
  rw [Block.recast]

/-- The components of a block follow its values. -/
@[simp] theorem recast_components : (block.recast dtype device).components =
    block.components.map (Labels.recast (device.getD block.values.device)) := by
  cases block
  rw [Block.recast]

/-- The properties of a block follow its values. -/
@[simp] theorem recast_properties : (block.recast dtype device).properties =
    block.properties.recast (device.getD block.values.device) := by
  cases block
  rw [Block.recast]

/-- The gradients of a block are cast as its values are, and follow them. -/
@[simp] theorem recast_gradients : (block.recast dtype device).gradients =
    block.gradients.map fun entry =>
      (entry.1, entry.2.recast dtype (some (device.getD block.values.device))) := by
  cases block
  rw [Block.recast, Block.recastAll_eq_map]

end Projections

/-- All tensors of a block are valid and on one device. -/
inductive Home (device : Device) : Block → Prop
  | mk {block : Block} (values : block.values.data.Valid) (placed : block.values.device = device)
      (axes : ∀ labels ∈ block.axes, labels.values.data.Valid ∧ labels.device = device)
      (gradients : ∀ entry ∈ block.gradients, Home device entry.2) : Home device block

/-- All parts of a sound block hold valid data on one device. -/
theorem Sound.home {tape : Tape} {block : Block} (sound : block.Sound tape)
    (holds : tape.Holds Dense.Valid) : block.Home block.values.device := by
  induction sound with
  | mk known labeled _ _ kind _ ih =>
      refine .mk (holds.knows known) rfl (fun labels axis => ?_) fun entry member => ?_
      · exact ⟨holds.knows (labeled labels axis).1.known, (labeled labels axis).2⟩
      · exact (kind entry member).2 ▸ ih entry member

end Block

variable {workspace : Workspace}

/-- Labels are moved wherever their device allows. -/
theorem Labels.transfer_recasts {labels : Labels} (clean : workspace.Clean)
    (valid : labels.values.data.Valid) {device : Device} (reaches : labels.device.Reaches device) :
    (labels.transfer device).Decides Cleanly True workspace
      fun made _ => made.bare = labels.recast device := by
  have moved := Tensor.transfer_recasts clean valid none (some device)
  apply (moved.congr (iff_of_true trivial reaches)).follow
  intro values after _ held
  refine .gives rfl trivial id ?_
  rw [bare, Tensor.bare, held]
  rfl

namespace Block

private theorem transferAll_recasts {dtype : Option DType} {device : Option Device}
    {entries : List (String × Block)} (clean : workspace.Clean)
    (each : ∀ entry ∈ entries, ∀ workspace : Workspace, workspace.Clean →
      (entry.2.transfer dtype device).Decides Cleanly True workspace
        fun made _ => made.bare = entry.2.recast dtype device) :
    (transferAll dtype device entries).Decides Cleanly True workspace
      fun made _ => bareAll made = recastAll dtype device entries := by
  induction entries generalizing workspace with
  | nil =>
      rw [transferAll]
      exact .gives rfl trivial id (by rw [bareAll, recastAll])
  | cons entry rest ih =>
      rw [transferAll]
      apply (each entry List.mem_cons_self workspace clean).follow
      intro block middle moved first
      have later := @ih middle (moved clean) fun other member =>
        each other (List.mem_cons_of_mem _ member)
      apply later.follow
      intro blocks after _ all
      exact .gives rfl trivial id (by rw [bareAll, recastAll, first, all])

/-- **A block is cast and moved tensor by tensor**, wherever its device allows. -/
theorem transfer_recasts {home : Device} {block : Block} (at_home : block.Home home)
    (clean : workspace.Clean) (dtype : Option DType) (device : Option Device) :
    (block.transfer dtype device).Decides Cleanly (home.Reaches (device.getD home)) workspace
      fun made _ => made.bare = block.recast dtype device := by
  induction at_home generalizing workspace device with
  | @mk block valid placed axes _ ih =>
      obtain ⟨values, samples, components, properties, gradients⟩ := block
      dsimp only at valid placed ih
      subst placed
      rw [transfer]
      have moved := Tensor.transfer_recasts clean valid dtype device
      by_cases reaches : values.device.Reaches (device.getD values.device)
      · refine Session.Decides.congr ?_ (iff_of_true reaches trivial)
        apply (moved.congr (iff_of_true trivial reaches)).follow
        intro new_values one first held
        have target : new_values.device = device.getD values.device :=
          (congrArg Dense.device held).trans (valid.recast_kind reaches).2.2
        rw [target]
        have labels_reach {labels : Labels}
            (axis : labels ∈ Block.axes ⟨values, samples, components,
            properties, gradients⟩) {middle : Workspace} (clean : middle.Clean) :
            (labels.transfer (device.getD values.device)).Decides Cleanly True middle
              fun made _ => made.bare = labels.recast (device.getD values.device) := by
          obtain ⟨labels_valid, same⟩ := axes labels axis
          exact Labels.transfer_recasts clean labels_valid (same ▸ reaches)
        have inner := @transferAll_recasts one dtype (some (device.getD values.device)) gradients
          (first clean) fun entry member workspace clean =>
            (ih entry member clean (some (device.getD values.device))).congr
              (iff_of_true trivial reaches)
        apply inner.follow
        intro new_gradients two second all
        apply (labels_reach (by simp [Block.axes]) (second (first clean))).follow
        intro new_samples three third samples_bare
        have each := @Session.Decides.mapM _ _ _ Cleanly three _ components
          (fun component => component.transfer (device.getD values.device))
          (fun component made => made.bare = component.recast (device.getD values.device))
          (fun _ => id) fun component member middle further =>
            labels_reach (by simp [Block.axes, member]) (further (third (second (first clean))))
        apply each.follow
        intro new_components four fourth components_bare
        apply (labels_reach (by simp [Block.axes])
          (fourth (third (second (first clean))))).follow
        intro new_properties five fifth properties_bare
        refine .gives rfl trivial id ?_
        have values_bare : new_values.bare = values.recast dtype device := by
          rw [Tensor.bare, held]
          rfl
        rw [bare, recast, values_bare, samples_bare, properties_bare, all,
          map_eq_of_forall₂ components_bare fun _ _ same => same]
      · exact moved.stop reaches id

end Block

end Atomistic
