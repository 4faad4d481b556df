import Atomistic.NeighborList.Layout
import Atomistic.Proofs.Autograd.Run
import Atomistic.Proofs.InPlace
import Atomistic.Proofs.Registries

/-!
# Sound labels and blocks

What holds of the labels and of the blocks that can be made (`Atomistic.Labels.Sound`,
`Atomistic.Block.Sound`), and that everything that makes them makes sound ones.
-/

namespace Atomistic

open Run

/-- What holds of labels: their names can be names and are distinct, and their values
are an `int32` table with a column for each. -/
structure Labels.Sound (tape : Tape) (labels : Labels) : Prop where
  known : tape.Knows labels.values
  named : ∀ name ∈ labels.names, Labels.validName name
  distinct : Labels.distinct labels.names
  shape : labels.values.shape = [labels.count, labels.names.length]
  dtype : labels.values.dtype = .int32

/-- What holds of a block and of the gradients in it: the values have an axis for each
of the labels, with as many entries, and the labels are on the device of the values. -/
inductive Block.Sound (tape : Tape) : Block → Prop
  | mk {block : Block} (known : tape.Knows block.values)
      (labeled : ∀ labels ∈ block.axes, labels.Sound tape ∧ labels.device = block.values.device)
      (shape : block.values.shape = block.axes.map Labels.count)
      (narrow : ∀ component ∈ block.components, component.names.length = 1)
      (kind : ∀ entry ∈ block.gradients, entry.2.values.dtype = block.values.dtype ∧
        entry.2.values.device = block.values.device)
      (gradients : ∀ entry ∈ block.gradients, Sound tape entry.2) : Sound tape block

/-- The samples of a sound block are sound labels on the device of its values. -/
theorem Block.Sound.samples {tape : Tape} {block : Block} (sound : block.Sound tape) :
    block.samples.Sound tape ∧ block.samples.device = block.values.device := by
  obtain ⟨_, labeled, _⟩ := sound
  exact labeled block.samples (by simp [Block.axes])

/-- What is on the right of a relation between lists is related to something on the
left. -/
theorem exists_of_forall₂ {α β : Type} {related : α → β → Prop} {old : List α} {new : List β}
    (all : List.Forall₂ related old new) : ∀ b ∈ new, ∃ a ∈ old, related a b := by
  induction all with
  | nil => exact List.forall_mem_nil _
  | @cons a b old new first _ ih =>
      refine List.forall_mem_cons.mpr ⟨⟨a, List.mem_cons_self, first⟩, fun other member => ?_⟩
      obtain ⟨source, present, holds⟩ := ih other member
      exact ⟨source, List.mem_cons_of_mem _ present, holds⟩

/-- Lists whose entries agree in something agree in it as wholes. -/
theorem map_eq_of_forall₂ {α β γ : Type} {related : α → β → Prop} {f : α → γ} {g : β → γ}
    {old : List α} {new : List β} (all : List.Forall₂ related old new)
    (same : ∀ a b, related a b → g b = f a) : new.map g = old.map f := by
  induction all with
  | nil => rfl
  | cons first _ ih => rw [List.map_cons, List.map_cons, same _ _ first, ih]

variable {allowed : Dense → Prop} {before after workspace : Workspace}

namespace Labels

/-- Labels stay sound while the workspace is extended. -/
theorem Sound.mono {labels : Labels} (sound : labels.Sound before.tape)
    (extended : Extends allowed before after) : labels.Sound after.tape :=
  ⟨extended.knows sound.known, sound.named, sound.distinct, sound.shape, sound.dtype⟩

/-- Labels made of a tensor are sound, and have its values. -/
theorem ofTensor_sound {tape : Tape} {names : List String} {values : Tensor} {labels : Labels}
    (known : tape.Knows values) (made : ofTensor names values = .ok labels) :
    labels.Sound tape ∧ labels = ⟨names, values⟩ := by
  rw [ofTensor] at made
  split at made
  · cases made
  next absent =>
    obtain ⟨distinct, rest⟩ := ok_of_check made
    obtain ⟨dim, rest⟩ := ok_of_check rest
    obtain ⟨width, rest⟩ := ok_of_check rest
    obtain ⟨dtype, rest⟩ := ok_of_check rest
    cases rest
    have named : ∀ name ∈ names, validName name := by
      simpa using List.find?_eq_none.mp absent
    have shape : values.shape = [values.size 0, names.length] := by
      have two : values.shape.length = 2 := not_not.mp dim
      obtain ⟨rows, columns, shape⟩ := List.length_eq_two.mp two
      have second : columns = names.length := by
        have size : values.size 1 = names.length := not_not.mp width
        rwa [show values.size 1 = (values.shape).getD 1 0 from rfl, shape] at size
      rw [show values.size 0 = (values.shape).getD 0 0 from rfl, shape, second]
      rfl
    exact ⟨⟨known, named, by simpa using distinct, shape, not_not.mp dtype⟩, rfl⟩

/-- Labels that are made of a flat list hold the list as `int32`. -/
theorem ofFlat_within (names : List String) (entries : List Int) :
    (ofFlat names entries).Within (Extends Dense.Valid) workspace fun made after =>
      made.Sound after.tape ∧ made.names = names ∧ made.values.data =
        ⟨[entries.length / names.length, names.length], .int32, .cpu,
          .integers (entries.map DType.int32.wrap)⟩ := by
  rw [ofFlat]
  refine .check (Extends.refl _) fun _ => .check (Extends.refl _) fun _ => ?_
  apply (ofExcept_within _).bind
  rintro data middle _ ⟨made, rfl⟩
  have integers := ok_of_mapError made
  apply (place_within fun _ => Dense.ofIntegers_valid integers).bind
  rintro values after _ ⟨known, held⟩
  apply (ofExcept_within _).weaken
  rintro labels last ⟨built, rfl⟩
  obtain ⟨sound, shape⟩ := ofTensor_sound known built
  refine ⟨sound, by rw [shape], ?_⟩
  rw [shape]
  exact held.trans (Dense.ofIntegers_eq integers).2.2

/-- Sound labels on a device, with the names and as many entries as others. -/
structure Moved (device : Device) (labels made : Labels) (after : Workspace) : Prop where
  sound : made.Sound after.tape
  names : made.names = labels.names
  count : made.count = labels.count
  device : made.device = device

private theorem Moved.mono {device : Device} {labels made : Labels}
    (moved : Moved device labels made before) (extended : Extends allowed before after) :
    Moved device labels made after :=
  ⟨moved.sound.mono extended, moved.names, moved.count, moved.device⟩

/-- Sound labels are moved to sound labels. -/
theorem transfer_within (kind : Dense.Kind allowed) {labels : Labels}
    (sound : labels.Sound workspace.tape) (device : Device) :
    (labels.transfer device).Within (Extends allowed) workspace (Moved device labels) := by
  apply (Run.transfer_within kind sound.known none (some device)).bind
  rintro values after extended ⟨known, fits⟩
  refine .of_exec rfl (.refl after) fun made same => ?_
  cases same
  obtain ⟨shape, rest⟩ := Prod.ext_iff.mp fits
  obtain ⟨dtype, device⟩ := Prod.ext_iff.mp rest
  have shape : values.shape = labels.values.shape := shape
  have count : Labels.count ⟨labels.names, values⟩ = labels.count :=
    congrArg (fun shape : Shape => shape.getD 0 0) shape
  refine ⟨⟨known, sound.named, sound.distinct, ?_, dtype.trans sound.dtype⟩, rfl, count, device⟩
  rw [count, shape]
  exact sound.shape

end Labels

namespace Block

/-- A block stays sound while the workspace is extended. -/
theorem Sound.mono {block : Block} (sound : block.Sound before.tape)
    (extended : Extends allowed before after) : block.Sound after.tape := by
  induction sound with
  | mk known labeled shape narrow kind _ ih =>
      exact .mk (extended.knows known) (fun labels member =>
        ⟨(labeled labels member).1.mono extended, (labeled labels member).2⟩) shape narrow kind ih

/-- A block made of sound parts is sound, and has no gradients. -/
theorem create_sound {tape : Tape} {values : Tensor} {samples : Labels} {components : List Labels}
    {properties : Labels} {block : Block} (known : tape.Knows values)
    (labels_sound : ∀ labels ∈ samples :: components ++ [properties], labels.Sound tape)
    (made : create values samples components properties = .ok block) :
    block.Sound tape ∧ block = ⟨values, samples, components, properties, []⟩ := by
  rw [create] at made
  split at made
  · cases made
  next narrow =>
    obtain ⟨shape, rest⟩ := ok_of_check made
    dsimp only at rest
    split at rest
    · cases rest
    next together =>
      cases rest
      refine ⟨.mk known (fun labels member => ⟨labels_sound labels member, ?_⟩) ?_ ?_
        (List.forall_mem_nil _) (List.forall_mem_nil _), rfl⟩
      · simpa using List.find?_eq_none.mp together labels member
      · rw [not_not.mp shape]
        simp [axes]
      · simpa using List.find?_eq_none.mp narrow

/-- A block is made whenever its labels fit its values. -/
theorem create_eq {values : Tensor} {samples : Labels} {components : List Labels}
    {properties : Labels} (narrow : ∀ component ∈ components, component.names.length = 1)
    (shape : values.shape = (samples :: components ++ [properties]).map Labels.count)
    (together : ∀ labels ∈ samples :: components ++ [properties], labels.device = values.device) :
    create values samples components properties =
      .ok ⟨values, samples, components, properties, []⟩ := by
  have no_wide : (components.find? fun component => component.names.length ≠ 1) = none := by
    simpa [List.find?_eq_none] using narrow
  have none_apart : ((axes ⟨values, samples, components, properties, []⟩).find? fun labels =>
      labels.device ≠ values.device) = none :=
    List.find?_eq_none.mpr fun labels member => by simpa using together labels member
  have counts :
      values.shape = samples.count :: components.map Labels.count ++ [properties.count] := by
    rw [shape]
    simp
  unfold create
  rw [no_wide]
  dsimp only
  rw [if_neg (not_not.mpr counts), none_apart]
  rfl

/-- The checks of a gradient, in order, and the block with the gradient. -/
theorem addGradient_steps (block : Block) (parameter : String) (gradient : Block) :
    block.addGradient parameter gradient = do
      if Registry.contains block.gradients parameter then throw (.gradientPresent parameter)
      if gradient.values.dtype ≠ block.values.dtype ∨
          gradient.values.device ≠ block.values.device then
        throw (.gradientType parameter)
      if !gradient.properties.equal block.properties then throw (.gradientProperties parameter)
      let extra := gradient.components.length - block.components.length
      if gradient.components.length < block.components.length ∨
          !equalLabels (gradient.components.drop extra) block.components then
        throw (.gradientComponents parameter)
      return { block with gradients := Registry.insert parameter gradient block.gradients } := by
  simp only [addGradient, attachGradient, InPlace.copied_held_bind, InPlace.copied_ite,
    InPlace.copied_throw_bind, InPlace.copied_modify]
  rfl

/-- A gradient is checked before a block is changed. -/
theorem attachGradient_allOrNothing (parameter : String) (gradient : Block) :
    (attachGradient parameter gradient).inSession.AllOrNothing := by
  simp only [attachGradient, InPlace.inSession_bind, InPlace.inSession_held,
    InPlace.inSession_throw, InPlace.inSession_ite, InPlace.inSession_modify]
  exact InPlace.looks_held.bind fun block =>
    .check (.check (.check (.check (InPlace.allOrNothing_modify _))))

/-- **A gradient is added to a block as it is to a copy, or not at all.** -/
theorem exec_attachGradient (block : Block) (parameter : String) (gradient : Block)
    (workspace : Workspace) :
    (attachGradient parameter gradient).inSession.exec block workspace =
      match block.addGradient parameter gradient with
      | .ok made => ((.ok (), made), workspace)
      | .error fault => ((.error fault, block), workspace) := by
  rw [(attachGradient_allOrNothing parameter gradient).exec_eq, InPlace.copiedIn_inSession,
    Session.exec_ofExcept, addGradient]
  cases (attachGradient parameter gradient).copied block <;> rfl

/-- A sound block with another sound gradient is sound. -/
theorem addGradient_sound {tape : Tape} {block gradient extended : Block} {parameter : String}
    (sound : block.Sound tape) (gradient_sound : gradient.Sound tape)
    (made : block.addGradient parameter gradient = .ok extended) : extended.Sound tape := by
  rw [addGradient_steps] at made
  obtain ⟨_, rest⟩ := ok_of_check made
  obtain ⟨same, rest⟩ := ok_of_check rest
  obtain ⟨_, rest⟩ := ok_of_check rest
  obtain ⟨_, rest⟩ := ok_of_check rest
  cases rest
  rw [not_or, not_not, not_not] at same
  cases sound with
  | mk known labeled shape narrow kind gradients =>
      have all := @Registry.forall_insert String Block _ (fun _ => True)
        (fun other => (other.values.dtype = block.values.dtype ∧
          other.values.device = block.values.device) ∧ other.Sound tape)
        parameter gradient block.gradients trivial ⟨same, gradient_sound⟩
        fun entry member => ⟨trivial, kind entry member, gradients entry member⟩
      exact .mk known labeled shape narrow (fun entry member => (all entry member).2.1)
        fun entry member => (all entry member).2.2

/-- A sound block in place of another, with its values cast and moved. -/
structure Moved (dtype : Option DType) (device : Option Device) (block made : Block)
    (after : Workspace) : Prop where
  sound : made.Sound after.tape
  dtype : made.values.dtype = dtype.getD block.values.dtype
  device : made.values.device = device.getD block.values.device

private theorem Moved.mono {dtype : Option DType} {device : Option Device} {block made : Block}
    (moved : Moved dtype device block made before) (extended : Extends allowed before after) :
    Moved dtype device block made after :=
  ⟨moved.sound.mono extended, moved.dtype, moved.device⟩

private theorem transferAll_within {dtype : Option DType} {device : Option Device}
    {entries : List (String × Block)}
    (each : ∀ entry ∈ entries, ∀ workspace : Workspace, entry.2.Sound workspace.tape →
      (entry.2.transfer dtype device).Within (Extends allowed) workspace
        (Moved dtype device entry.2))
    (sound : ∀ entry ∈ entries, entry.2.Sound workspace.tape) :
    (transferAll dtype device entries).Within (Extends allowed) workspace fun made after =>
      List.Forall₂ (fun entry new => new.1 = entry.1 ∧ Moved dtype device entry.2 new.2 after)
        entries made := by
  induction entries generalizing workspace with
  | nil =>
      rw [transferAll]
      exact .of_exec rfl (.refl _) fun made same => Except.ok.inj same ▸ .nil
  | cons entry rest ih =>
      rw [transferAll]
      apply (each entry List.mem_cons_self workspace (sound entry List.mem_cons_self)).bind
      intro block middle extended first
      have later := @ih middle (fun other member => each other (List.mem_cons_of_mem _ member))
        fun other member => (sound other (List.mem_cons_of_mem _ member)).mono extended
      apply later.bind
      intro blocks after further all
      refine .of_exec rfl (.refl _) fun made same => ?_
      rw [← Except.ok.inj same]
      exact .cons ⟨rfl, first.mono further⟩ all

/-- A block is sound if its labels and gradients come from those of a sound block. -/
theorem Sound.of_moved {tape : Tape} {block made : Block} (sound : block.Sound tape)
    {dtype : Option DType} (known : after.tape.Knows made.values)
    (kinds : TensorData.kind made.values.data =
      (block.values.shape, dtype.getD block.values.dtype, made.values.device))
    (samples : Labels.Moved made.values.device block.samples made.samples after)
    (components : List.Forall₂
      (fun old new => Labels.Moved made.values.device old new after) block.components
        made.components)
    (properties : Labels.Moved made.values.device block.properties made.properties after)
    (gradients : List.Forall₂ (fun entry new => new.1 = entry.1 ∧
      Moved dtype (some made.values.device) entry.2 new.2 after) block.gradients made.gradients) :
    made.Sound after.tape := by
  obtain ⟨_, labeled, shape, narrow, kind, _⟩ := sound
  have axes : List.Forall₂ (fun old new => Labels.Moved made.values.device old new after)
      block.axes made.axes :=
    .cons samples (List.rel_append components (.cons properties .nil))
  have same_shape : made.values.shape = block.values.shape := congrArg Prod.fst kinds
  have same_dtype : made.values.dtype = dtype.getD block.values.dtype :=
    congrArg (fun kind => kind.2.1) kinds
  have counts : made.axes.map Labels.count = block.axes.map Labels.count :=
    map_eq_of_forall₂ axes fun _ _ moved => moved.count
  refine .mk known (fun labels member => ?_) (by rw [same_shape, shape, counts])
    (fun component member => ?_) (fun entry member => ?_) fun entry member => ?_
  · obtain ⟨_, _, moved⟩ := exists_of_forall₂ axes labels member
    exact ⟨moved.sound, moved.device⟩
  · obtain ⟨old, present, moved⟩ := exists_of_forall₂ components component member
    rw [moved.names]
    exact narrow old present
  · obtain ⟨old, present, _, moved⟩ := exists_of_forall₂ gradients entry member
    exact ⟨by rw [moved.dtype, (kind old present).1, same_dtype], moved.device⟩
  · obtain ⟨_, _, _, moved⟩ := exists_of_forall₂ gradients entry member
    exact moved.sound

/-- A sound block is cast and moved to a sound block. -/
theorem transfer_within (kind : Dense.Kind allowed) {block : Block}
    (sound : block.Sound workspace.tape) (dtype : Option DType) (device : Option Device) :
    (block.transfer dtype device).Within (Extends allowed) workspace
      (Moved dtype device block) := by
  -- the gradients are moved in later workspaces, in which they are sound as well
  suffices general : ∀ {tape : Tape}, block.Sound tape → ∀ (device : Option Device)
      (workspace : Workspace), block.Sound workspace.tape →
        (block.transfer dtype device).Within (Extends allowed) workspace
          (Moved dtype device block) from general sound device workspace sound
  clear sound
  intro tape base
  induction base with
  | @mk block _ _ _ _ _ _ ih =>
      intro device workspace sound
      obtain ⟨values, samples, components, properties, gradients⟩ := block
      obtain ⟨known, labeled, _, _, _, inner⟩ := id sound
      rw [transfer]
      apply (Run.transfer_within kind known dtype device).bind
      rintro moved one first ⟨moved_known, kinds⟩
      have inner_sound : ∀ entry ∈ gradients, entry.2.Sound one.tape := fun entry member =>
        (inner entry member).mono first
      apply (transferAll_within (fun entry member => ih entry member (some moved.device))
        inner_sound).bind
      intro made two second all
      have still : ∀ labels ∈ Block.axes ⟨values, samples, components, properties, gradients⟩,
          labels.Sound two.tape := fun labels member =>
        ((labeled labels member).1.mono first).mono second
      apply (Labels.transfer_within kind (still samples (by simp [axes])) moved.device).bind
      intro new_samples three third moved_samples
      have each : ∀ component ∈ components, ∀ middle, Extends allowed three middle →
          (component.transfer moved.device).Within (Extends allowed) middle
            (Labels.Moved moved.device component) := fun component member middle further =>
        Labels.transfer_within kind
          (((still component (by simp [axes, member])).mono third).mono further) moved.device
      apply (Session.Within.mapM Extends.refl (fun further ended => ended.mono further) each).bind
      intro new_components four fourth moved_components
      have properties_sound := ((still properties (by simp [axes])).mono third).mono fourth
      apply (Labels.transfer_within kind properties_sound moved.device).bind
      intro new_properties five fifth moved_properties
      refine .of_exec rfl (.refl five) fun result same => ?_
      rw [← Except.ok.inj same]
      have later : Extends allowed two five :=
        IsTrans.trans _ _ _ third (IsTrans.trans _ _ _ fourth fifth)
      have finished : Extends allowed one five := IsTrans.trans _ _ _ second later
      have placed : moved.device = device.getD values.device :=
        congrArg (fun kind => kind.2.2) kinds
      have kinds : TensorData.kind moved.data =
          (values.shape, dtype.getD values.dtype, moved.device) := by
        rw [placed]
        exact kinds
      refine ⟨sound.of_moved (finished.knows moved_known) kinds ?_ ?_ moved_properties ?_,
        congrArg (fun kind => kind.2.1) kinds, placed⟩
      · exact (moved_samples.mono fourth).mono fifth
      · exact moved_components.imp fun _ _ moved => moved.mono fifth
      · exact all.imp fun _ _ moved => ⟨moved.1, moved.2.mono later⟩

end Block

end Atomistic
