import Atomistic.Proofs.Block.Transfer

/-!
# Checks that a block goes on to pass

A block that is cast or moved passes the checks that it passed before: the layout of a
neighbor list (`Atomistic.NeighborList.checkLayout_recast`), and, at every depth, what is
asked of a gradient when it is added (`Atomistic.Block.Fitted.recast`).
-/

namespace Atomistic

/-- Data that is equal stays equal when it is moved. -/
theorem Dense.equal_recast {d e : Dense} {device : Device} (valid : d.Valid) (other : e.Valid)
    (reaches : d.device.Reaches device) (same : d.equal e) :
    (d.recast none (some device)).equal (e.recast none (some device)) := by
  simp only [equal, Bool.and_eq_true, beq_iff_eq] at same ⊢
  obtain ⟨⟨⟨shape, dtype⟩, home⟩, values⟩ := same
  have other_reaches : e.device.Reaches device := home ▸ reaches
  obtain ⟨first_shape, first_dtype, first_device⟩ :=
    @Valid.recast_kind d valid none (some device) reaches
  obtain ⟨second_shape, second_dtype, second_device⟩ :=
    @Valid.recast_kind e other none (some device) other_reaches
  have first_values : (d.recast none (some device)).values =
      if device.isMeta then .absent else d.values := valid.recast_values reaches
  have second_values : (e.recast none (some device)).values =
      if device.isMeta then .absent else e.values := other.recast_values other_reaches
  refine ⟨⟨⟨?_, ?_⟩, ?_⟩, ?_⟩
  · rw [first_shape, second_shape, shape]
  · rw [first_dtype, second_dtype]
    exact dtype
  · rw [first_device, second_device]
    rfl
  · rw [first_values, second_values]
    cases device.isMeta with
    | true => rfl
    | false => exact values

namespace Labels

variable {labels other : Labels} {device : Device}

private theorem equal_recast (valid : labels.values.data.Valid)
    (other_valid : other.values.data.Valid)
    (reaches : labels.device.Reaches device) (same : labels.equal other) :
    (labels.recast device).equal (other.recast device) := by
  rw [equal, Bool.and_eq_true] at same ⊢
  exact ⟨same.1, Dense.equal_recast valid other_valid reaches same.2⟩

/-- Labels that are what they should be are so wherever they are moved. -/
theorem labelsAre_recast (valid : labels.values.data.Valid) (reaches : labels.device.Reaches device)
    {name : String} {entries : List Int}
    (are : NeighborList.labelsAre labels name entries = .ok true) :
    NeighborList.labelsAre (labels.recast device) name entries = .ok true := by
  obtain ⟨shape, _, placed⟩ := @Dense.Valid.recast_kind _ valid none (some device) reaches
  obtain ⟨names, count⟩ := NeighborList.count_of_labelsAre are
  have same_count : (labels.recast device).count = entries.length :=
    (congrArg (fun shape : Shape => shape.getD 0 0) shape).trans count
  have there : (labels.recast device).device = device := placed
  have held : (labels.recast device).values.data.values =
      if device.isMeta then .absent else labels.values.data.values := valid.recast_values reaches
  have fits : ¬ ((labels.recast device).names ≠ [name] ∨
      (labels.recast device).count ≠ entries.length) := by
    rw [not_or, not_not, not_not]
    exact ⟨names, same_count⟩
  rw [NeighborList.labelsAre, if_neg fits, there]
  rw [NeighborList.labelsAre, if_neg (by simp [names, count])] at are
  by_cases gone : device.isMeta
  · rw [if_pos gone]
    rfl
  · have here : ¬ labels.device.isMeta := fun home => by
      have home : labels.device = .metadata := by simpa [Device.isMeta] using home
      rw [reaches home] at gone
      exact gone rfl
    have integers :
        (labels.recast device).values.data.toIntegers = labels.values.data.toIntegers := by
      rw [Dense.toIntegers, held, if_neg gone, Dense.toIntegers]
    rw [if_neg here] at are
    rw [if_neg gone, integers]
    exact are

end Labels

/-- Whether a block has the layout of a neighbor list is told by its names and data. -/
theorem NeighborList.checkLayout_bare (list : Block) :
    checkLayout list.bare = checkLayout list := by
  rw [checkLayout, checkLayout, Block.bare_samples, Block.bare_components, Block.bare_properties]
  cases list.components with
  | nil => rfl
  | cons xyz rest =>
      cases rest with
      | nil => rfl
      | cons => rfl

/-- A neighbor list keeps its layout wherever it is moved. -/
theorem NeighborList.checkLayout_recast {home : Device} {list : Block} (at_home : list.Home home)
    {dtype : Option DType} {device : Option Device} (reaches : home.Reaches (device.getD home))
    (checked : checkLayout list = .ok ()) : checkLayout (list.recast dtype device) = .ok () := by
  obtain ⟨names, properties_are, xyz, alone, xyz_are⟩ := checkLayout_ok checked
  obtain ⟨_, placed, axes, _⟩ := at_home
  have moved {labels : Labels} {name : String} {entries : List Int} (axis : labels ∈ list.axes)
      (are : labelsAre labels name entries = .ok true) :
      labelsAre (labels.recast (device.getD list.values.device)) name entries = .ok true := by
    obtain ⟨valid, here⟩ := axes labels axis
    exact Labels.labelsAre_recast valid (here ▸ placed ▸ reaches) are
  have same_names : (list.samples.recast (device.getD list.values.device)).names = sampleNames :=
    names
  rw [checkLayout, Block.recast_samples, if_neg (not_not.mpr same_names), Block.recast_components,
    alone, Block.recast_properties]
  simp only [List.map_cons, List.map_nil, moved (by simp [Block.axes, alone]) xyz_are,
    moved (by simp [Block.axes]) properties_are, bind, Except.bind]
  rfl

namespace Block

/-- What is asked of a gradient that is added to a block: it has the properties of the block,
its last components are those of the block, and its type and device are the same. -/
structure Takes (block gradient : Block) : Prop where
  dtype : gradient.values.dtype = block.values.dtype
  device : gradient.values.device = block.values.device
  properties : gradient.properties.equal block.properties
  enough : block.components.length ≤ gradient.components.length
  components : equalLabels
    (gradient.components.drop (gradient.components.length - block.components.length))
      block.components

/-- A gradient is added exactly if there is none with its parameter and the block takes it. -/
theorem addGradient_iff {block gradient : Block} {parameter : String} :
    (∃ made, block.addGradient parameter gradient = .ok made) ↔
      Registry.contains block.gradients parameter = false ∧ block.Takes gradient := by
  constructor
  · rintro ⟨made, added⟩
    rw [addGradient_steps] at added
    obtain ⟨absent, rest⟩ := ok_of_check added
    obtain ⟨kind, rest⟩ := ok_of_check rest
    obtain ⟨properties, rest⟩ := ok_of_check rest
    obtain ⟨components, _⟩ := ok_of_check rest
    rw [not_or, not_not, not_not] at kind
    rw [not_or, Bool.not_eq_true', Bool.not_eq_false] at components
    exact ⟨by simpa using absent, kind.1, kind.2, by simpa using properties,
      Nat.le_of_not_lt components.1, components.2⟩
  · rintro ⟨absent, takes⟩
    rw [addGradient_steps, if_neg (by simp [absent]), if_neg (by simp [takes.dtype, takes.device]),
      if_neg (by simp [takes.properties])]
    dsimp only
    rw [if_neg (by simp [takes.components, takes.enough])]
    exact ⟨_, rfl⟩

/-- A gradient that is added changes nothing else in the block. -/
theorem addGradient_inserts {block gradient made : Block} {parameter : String}
    (added : block.addGradient parameter gradient = .ok made) :
    made = { block with gradients := Registry.insert parameter gradient block.gradients } := by
  rw [addGradient_steps] at added
  obtain ⟨_, rest⟩ := ok_of_check added
  obtain ⟨_, rest⟩ := ok_of_check rest
  obtain ⟨_, rest⟩ := ok_of_check rest
  obtain ⟨_, rest⟩ := ok_of_check rest
  exact (Except.ok.inj rest).symm

/-- Every gradient in a block could be added to it, at every depth. -/
inductive Fitted : Block → Prop
  | mk {block : Block} (sorted : Registry.Sorted block.gradients)
      (accepted : ∀ entry ∈ block.gradients,
        ∃ made, addGradient { block with gradients := [] } entry.1 entry.2 = .ok made)
      (inner : ∀ entry ∈ block.gradients, Fitted entry.2) : Fitted block

private theorem equalLabels_map (f : Labels → Labels) (xs ys : List Labels) :
    equalLabels (xs.map f) (ys.map f) =
      (xs.length == ys.length && (xs.zip ys).all fun pair => (f pair.1).equal (f pair.2)) := by
  rw [equalLabels, List.length_map, List.length_map, List.zip_map, List.all_map]
  rfl

private theorem equalLabels_recast {xs ys : List Labels} {device : Device}
    (valid : ∀ labels ∈ xs, labels.values.data.Valid)
    (other : ∀ labels ∈ ys, labels.values.data.Valid)
    (reaches : ∀ labels ∈ xs, labels.device.Reaches device) (same : equalLabels xs ys) :
    equalLabels (xs.map (Labels.recast device)) (ys.map (Labels.recast device)) := by
  rw [equalLabels, Bool.and_eq_true, List.all_eq_true] at same
  rw [equalLabels_map, Bool.and_eq_true, List.all_eq_true]
  refine ⟨same.1, fun pair member => ?_⟩
  obtain ⟨left, right⟩ := List.of_mem_zip member
  exact Labels.equal_recast (valid _ left) (other _ right) (reaches _ left) (same.2 pair member)

namespace Fitted

variable {block gradient : Block}

/-- A block without gradients. -/
theorem plain (none : block.gradients = []) : block.Fitted := by
  refine .mk ?_ ?_ ?_
  all_goals rw [none]
  · exact .nil
  · exact List.forall_mem_nil _
  · exact List.forall_mem_nil _

/-- A fitted block takes each of its gradients. -/
theorem takes (fitted : block.Fitted) : ∀ entry ∈ block.gradients, block.Takes entry.2 := by
  obtain ⟨_, accepted, _⟩ := fitted
  intro entry member
  obtain ⟨dtype, device, properties, enough, components⟩ :=
    (addGradient_iff.mp (accepted entry member)).2
  exact ⟨dtype, device, properties, enough, components⟩

private theorem of_takes (sorted : Registry.Sorted block.gradients)
    (takes : ∀ entry ∈ block.gradients, block.Takes entry.2)
    (inner : ∀ entry ∈ block.gradients, entry.2.Fitted) : block.Fitted := by
  refine .mk sorted (fun entry member => addGradient_iff.mpr ⟨rfl, ?_⟩) inner
  obtain ⟨dtype, device, properties, enough, components⟩ := takes entry member
  exact ⟨dtype, device, properties, enough, components⟩

/-- A gradient that was added is one that could be. -/
theorem addGradient (fitted : block.Fitted) (gradient_fitted : gradient.Fitted) {parameter : String}
    {made : Block} (added : block.addGradient parameter gradient = .ok made) : made.Fitted := by
  have new := (addGradient_iff.mp ⟨made, added⟩).2
  have old := fitted.takes
  obtain ⟨sorted, _, inner⟩ := fitted
  rw [addGradient_inserts added]
  have all := @Registry.forall_insert String Block _ (fun _ => True)
    (fun other => block.Takes other ∧ other.Fitted) parameter gradient block.gradients trivial
    ⟨new, gradient_fitted⟩ fun entry member => ⟨trivial, old entry member, inner entry member⟩
  refine .of_takes (sorted.insert parameter gradient) (fun entry member => ?_)
    fun entry member => (all entry member).2.2
  obtain ⟨dtype, device, properties, enough, components⟩ := (all entry member).2.1
  exact ⟨dtype, device, properties, enough, components⟩

end Fitted

/-- A block that is cast and moved takes the gradients that are cast and moved with it. -/
theorem Takes.recast {block gradient : Block} (takes : block.Takes gradient) {home : Device}
    (at_home : block.Home home) (gradient_home : gradient.Home home) {dtype : Option DType}
    {device : Option Device} (reaches : home.Reaches (device.getD home)) :
    (block.recast dtype device).Takes
      (gradient.recast dtype (some (device.getD block.values.device))) := by
  obtain ⟨valid, placed, axes, _⟩ := at_home
  obtain ⟨gradient_valid, gradient_placed, gradient_axes, _⟩ := gradient_home
  obtain ⟨same_dtype, _, properties, enough, components⟩ := takes
  subst placed
  have gradient_reaches : gradient.values.device.Reaches (device.getD block.values.device) := by
    rw [gradient_placed]
    exact reaches
  obtain ⟨_, new_dtype, new_device⟩ := @Dense.Valid.recast_kind _ valid dtype device reaches
  obtain ⟨_, gradient_dtype, gradient_device⟩ := @Dense.Valid.recast_kind _ gradient_valid dtype
    (some (device.getD block.values.device)) gradient_reaches
  have labels_valid {labels : Labels} (axis : labels ∈ gradient.axes) :
      labels.values.data.Valid ∧ labels.device.Reaches (device.getD block.values.device) := by
    obtain ⟨fine, here⟩ := gradient_axes labels axis
    exact ⟨fine, here ▸ reaches⟩
  refine ⟨?_, ?_, ?_, ?_, ?_⟩
  · rw [recast_values, recast_values]
    refine gradient_dtype.trans (Eq.trans ?_ new_dtype.symm)
    exact congrArg dtype.getD same_dtype
  · rw [recast_values, recast_values]
    exact gradient_device.trans new_device.symm
  · rw [recast_properties, recast_properties]
    obtain ⟨fine, reached⟩ := @labels_valid gradient.properties (by simp [Block.axes])
    exact Labels.equal_recast fine (axes block.properties (by simp [Block.axes])).1 reached
      properties
  · rw [recast_components, recast_components, List.length_map, List.length_map]
    exact enough
  · rw [recast_components, recast_components, List.length_map, List.length_map, ← List.map_drop]
    have inside {labels : Labels} (member : labels ∈ gradient.components.drop
        (gradient.components.length - block.components.length)) : labels ∈ gradient.axes := by
      simp [Block.axes, List.mem_of_mem_drop member]
    refine equalLabels_recast (fun labels member => (labels_valid (inside member)).1)
      (fun labels member => (axes labels (by simp [Block.axes, member])).1)
      (fun labels member => (labels_valid (inside member)).2) components

namespace Fitted

variable {block : Block}

/-- A block that is cast and moved is fitted. -/
theorem recast (fitted : block.Fitted) {home : Device} (at_home : block.Home home)
    (dtype : Option DType) {device : Option Device} (reaches : home.Reaches (device.getD home)) :
    (block.recast dtype device).Fitted := by
  induction at_home generalizing device with
  | @mk block valid placed axes inner_home ih =>
      have takes := fitted.takes
      obtain ⟨sorted, _, inner⟩ := fitted
      have whole : block.Home home := .mk valid placed axes inner_home
      have new : ∀ entry ∈ (block.recast dtype device).gradients, ∃ old ∈ block.gradients,
          (old.1, old.2.recast dtype (some (device.getD block.values.device))) = entry := by
        rw [recast_gradients]
        exact fun entry member => List.mem_map.mp member
      refine .of_takes ?_ (fun entry member => ?_) fun entry member => ?_
      · rw [recast_gradients, Registry.sorted_iff_keys, List.map_map]
        exact (Registry.sorted_iff_keys block.gradients).mp sorted
      · obtain ⟨old, present, rfl⟩ := new entry member
        exact (takes old present).recast whole (inner_home old present) reaches
      · obtain ⟨old, present, rfl⟩ := new entry member
        refine ih old present (inner old present) ?_
        rw [placed]
        exact reaches

/-- Whether a block is fitted is told by its names and data. -/
theorem of_bare {bare : Block} (fitted : bare.Fitted) : ∀ {block : Block}, block.bare = bare →
    block.Fitted := by
  induction fitted with
  | @mk bare sorted accepted inner ih =>
      intro block same
      have takes : ∀ entry ∈ bare.gradients, bare.Takes entry.2 :=
        (Fitted.mk sorted accepted inner).takes
      subst same
      rw [bare_gradients] at takes sorted ih
      have member_bare {entry : String × Block} (member : entry ∈ block.gradients) :
          (entry.1, entry.2.bare) ∈ block.gradients.map fun entry => (entry.1, entry.2.bare) :=
        List.mem_map_of_mem member
      refine .of_takes ?_ (fun entry member => ?_) fun entry member =>
        ih _ (member_bare member) rfl
      · rw [Registry.sorted_iff_keys, List.map_map] at sorted
        exact (Registry.sorted_iff_keys block.gradients).mpr sorted
      · obtain ⟨dtype, device, properties, enough, components⟩ := takes _ (member_bare member)
        dsimp only at dtype device properties enough components
        rw [bare_values, bare_values] at dtype device
        rw [bare_properties, bare_properties] at properties
        rw [bare_components, bare_components, List.length_map, List.length_map] at enough components
        rw [← List.map_drop, equalLabels_map] at components
        exact ⟨dtype, device, properties, enough, components⟩

end Fitted

end Block

end Atomistic
