import Atomistic.Proofs.Block.Sound
import Atomistic.Proofs.Tensor.Transfer

/-!
# Neighbor lists from their two tables

A neighbor list that passes the check of its layout is told by its options, its pairs
and its distance vectors: the other labels are the same for all lists
(`Atomistic.NeighborList.contents_of_layout`).  It is put together again from the pairs
and the vectors (`Atomistic.NeighborList.assemble_decides`).
-/

namespace Atomistic

open Workspace

variable {workspace : Workspace}

namespace Labels

/-- The values of labels with a single name. -/
def column (device : Device) (entries : List Int) : Dense :=
  ⟨[entries.length, 1], .int32, device, .integers entries⟩

/-- Labels can be made of a table with as many columns as there are names. -/
theorem ofTensor_eq {names : List String} {values : Tensor} {rows : Nat}
    (named : ∀ name ∈ names, validName name) (distinct : Labels.distinct names)
    (shape : values.shape = [rows, names.length]) (dtype : values.dtype = .int32) :
    ofTensor names values = .ok ⟨names, values⟩ := by
  have absent : (names.find? fun name => !validName name) = none := by
    simpa [List.find?_eq_none] using named
  have dim : values.dim = 2 := congrArg List.length shape
  have width : values.size 1 = names.length := by
    change values.shape.getD 1 0 = _
    rw [shape]
    rfl
  unfold ofTensor
  rw [absent]
  dsimp only
  rw [if_neg (by simp [distinct]), if_neg (not_not.mpr dim), if_neg (not_not.mpr width),
    if_neg (not_not.mpr dtype)]
  rfl

/-- Entries in the range of `int32` are made the values of labels as they are. -/
theorem ofIntegers_column {entries : List Int} (wrapped : ∀ i ∈ entries, DType.int32.wrap i = i)
    (small : entries.length < 0x10000000000000000) :
    Dense.ofIntegers entries [entries.length / 1, 1] .int32 = .ok (column .cpu entries) := by
  have counted : Shape.checkedCount [entries.length, 1] = some entries.length := by
    simp [Shape.checkedCount, small]
  have same : entries.map DType.int32.wrap = entries :=
    (List.map_congr_left wrapped).trans (List.map_id _)
  rw [Nat.div_one, Dense.ofIntegers, if_neg (by decide), Dense.checkLength, counted]
  simp only [if_true, same]
  rfl

/-- Labels with one name are made of their entries. -/
theorem ofFlat_decides (clean : workspace.Clean) {name : String} {entries : List Int}
    (valid : validName name) (wrapped : ∀ i ∈ entries, DType.int32.wrap i = i)
    (small : entries.length < 0x10000000000000000) :
    (ofFlat [name] entries).Decides Grows True workspace fun made after =>
      made.names = [name] ∧ made.values.data = column .cpu entries ∧ after.Blank made.values := by
  have data : (Dense.ofIntegers entries [entries.length / [name].length, [name].length]
      .int32).mapError Error.tensor = .ok (column .cpu entries) := by
    rw [List.length_singleton, ofIntegers_column wrapped small]
    rfl
  rw [ofFlat]
  refine .pass (by simp) (.pass (by simp [Nat.mod_one]) ?_)
  apply (Session.Decides.ofExcept_ok data (Grows.refl _)).follow
  rintro held one _ ⟨rfl, rfl⟩
  apply (Session.create_decides clean _).follow
  rintro values two grown ⟨held, blank⟩
  have built : ofTensor [name] values = .ok ⟨[name], values⟩ := by
    refine @ofTensor_eq _ _ entries.length (by simpa using valid) rfl ?_ ?_
    · exact congrArg Dense.shape held
    · exact congrArg Dense.dtype held
  apply (Session.Decides.ofExcept_ok built (Grows.refl _)).weaken
  rintro made last _ ⟨rfl, rfl⟩
  exact ⟨rfl, held, blank⟩

/-- Labels on a device where they are already are returned as they are. -/
theorem transfer_self {labels : Labels} {device : Device} (same : labels.device = device) :
    (labels.transfer device).exec workspace = (.ok labels, workspace) := by
  have kept : (labels.values.transfer none (some device)).exec workspace =
      (.ok labels.values, workspace) := by
    rw [Tensor.transfer]
    dsimp only [Option.getD]
    rw [if_pos ⟨rfl, same.symm⟩]
    rfl
  rw [transfer, Session.exec_bind, kept]
  rfl

/-- Labels that can leave their device are moved to the CPU as they are. -/
theorem transfer_decides {labels : Labels} (clean : workspace.Clean)
    (valid : labels.values.data.Valid) (present : labels.values.data.device ≠ .metadata) :
    (labels.transfer .cpu).Decides Cleanly True workspace fun made _ =>
      made.names = labels.names ∧ made.values.data = labels.values.data.onCpu := by
  have moved := @Tensor.transfer_decides workspace labels.values labels.values.data.onCpu valid none
    (some .cpu) (valid.convert_onCpu present) clean
  apply moved.follow
  intro values after _ held
  exact .gives rfl trivial id ⟨rfl, held⟩

/-- The values of a column fill it. -/
theorem column_valid {device : Device} {entries : List Int} (present : device ≠ .metadata)
    (wrapped : ∀ i ∈ entries, DType.int32.wrap i = i)
    (small : entries.length < 0x10000000000000000) : (column device entries).Valid := by
  refine .integers rfl present ?_ wrapped
  simp [Shape.checkedCount, small]

/-- Labels with the same names and the same numbers are equal. -/
theorem equal_of_same {labels other : Labels} {d : Dense} (names : labels.names = other.names)
    (held : labels.values.data = d) (other_held : other.values.data = d) (numbers : d.Numbers) :
    labels.equal other := by
  rw [equal, Tensor.equal, held, other_held, Dense.equal_self numbers, names]
  simp

end Labels

namespace NeighborList

/-- What a neighbor list holds: pairs, distance vectors, and the labels that are the same
for all lists. -/
structure Contents (list : Block) (pairs distances : Dense) : Prop where
  values : list.values.data = distances
  names : list.samples.names = sampleNames
  samples : list.samples.values.data = pairs
  xyz : ∃ xyz : Labels, list.components = [xyz] ∧ xyz.names = ["xyz"] ∧
    xyz.values.data = Labels.column distances.device [0, 1, 2]
  distance : list.properties.names = ["distance"] ∧
    list.properties.values.data = Labels.column distances.device [0]
  plain : list.gradients = []

/-- Labels with one column are told by its entries. -/
theorem labelsAre_of_column {labels : Labels} {device : Device} {name : String}
    {entries : List Int} (names : labels.names = [name])
    (held : labels.values.data = Labels.column device entries) (present : device ≠ .metadata) :
    labelsAre labels name entries = .ok true := by
  have count : labels.count = entries.length := by
    change labels.values.data.shape.getD 0 0 = _
    rw [held]
    rfl
  have placed : labels.device.isMeta = false := by
    change labels.values.data.device.isMeta = false
    rw [held]
    simpa [Device.isMeta, Labels.column] using present
  rw [labelsAre, if_neg (by simp [names, count]), placed, held]
  simp [Labels.column, Dense.toIntegers, Except.mapError, bind, Except.bind, pure, Except.pure]

/-- Labels that pass their check hold the expected entries. -/
theorem column_of_labelsAre {tape : Tape} {labels : Labels} (sound : labels.Sound tape)
    (valid : labels.values.data.Valid) (present : labels.device ≠ .metadata) {name : String}
    {entries : List Int} (are : labelsAre labels name entries = .ok true) :
    labels.names = [name] ∧ labels.values.data = Labels.column labels.device entries := by
  rw [labelsAre] at are
  split at are
  · cases are
  next fit =>
    rw [not_or, not_not, not_not] at fit
    obtain ⟨names, count⟩ := fit
    have placed : ¬ labels.device.isMeta := by simpa [Device.isMeta] using present
    rw [if_neg placed] at are
    obtain ⟨found, read, same⟩ := ok_of_bind are
    have read := ok_of_mapError read
    have equal : found = entries := by simpa using Except.ok.inj same
    have shape : labels.values.data.shape = [entries.length, 1] := by
      have table := sound.shape
      rw [names, count] at table
      exact table
    have dtype : labels.values.data.dtype = .int32 := sound.dtype
    refine ⟨names, ?_⟩
    cases labels with
    | mk names tensor =>
        obtain ⟨⟨⟨_, _, device, values⟩, _⟩, _⟩ := tensor
        dsimp only at shape dtype
        subst shape
        subst dtype
        cases valid with
        | floats floating _ _ _ => cases floating
        | integers _ _ _ _ =>
            cases read
            rw [equal]
            rfl
        | absent _ => exact absurd rfl present

/-- What a list looks like whose layout was accepted. -/
theorem checkLayout_ok {list : Block} (checked : checkLayout list = .ok ()) :
    list.samples.names = sampleNames ∧ labelsAre list.properties "distance" [0] = .ok true ∧
      ∃ xyz, list.components = [xyz] ∧ labelsAre xyz "xyz" [0, 1, 2] = .ok true := by
  rw [checkLayout] at checked
  obtain ⟨names, rest⟩ := ok_of_check checked
  refine ⟨not_not.mp names, ?_⟩
  split at rest
  next xyz alone =>
    obtain ⟨first, are, rest⟩ := ok_of_bind rest
    obtain ⟨first_true, rest⟩ := ok_of_check rest
    obtain ⟨second, also, rest⟩ := ok_of_bind rest
    have second_true : second = true := by
      cases second with
      | false => cases rest
      | true => rfl
    simp only [Bool.not_eq_true', Bool.not_eq_false] at first_true
    subst first_true
    subst second_true
    exact ⟨also, xyz, alone, are⟩
  next => cases rest

/-- Labels that pass their check have one name and as many entries as they should, on
every device. -/
theorem count_of_labelsAre {labels : Labels} {name : String} {entries : List Int}
    (are : labelsAre labels name entries = .ok true) :
    labels.names = [name] ∧ labels.count = entries.length := by
  rw [labelsAre] at are
  split at are
  · cases are
  next fit => simpa [not_or] using fit

/-- A list that passes its check has a row for each pair in both of its tables. -/
theorem shapes_of_layout {tape : Tape} {list : Block} (sound : list.Sound tape)
    (checked : checkLayout list = .ok ()) :
    list.samples.values.shape = [list.samples.count, 5] ∧
      list.values.shape = [list.samples.count, 3, 1] := by
  obtain ⟨names, properties_are, xyz, alone, xyz_are⟩ := checkLayout_ok checked
  obtain ⟨_, three⟩ := count_of_labelsAre xyz_are
  obtain ⟨_, one⟩ := count_of_labelsAre properties_are
  have table := sound.samples.1.shape
  rw [names] at table
  cases sound with
  | mk _ _ shape _ _ _ =>
      refine ⟨table, ?_⟩
      rw [shape, Block.axes, alone]
      simp [three, one]

/-- The check of the layout of a list fails with an error about the layout. -/
theorem checkLayout_error {tape : Tape} {list : Block} (sound : list.Sound tape)
    (holds : tape.Holds Dense.Valid) {fault : Error} (failed : checkLayout list = .error fault) :
    fault ∈ [Error.sampleNames, .componentLayout, .propertyLayout] := by
  have answers (labels : Labels) (axis : labels ∈ list.axes) (name : String)
      (entries : List Int) : ∃ answer, labelsAre labels name entries = .ok answer := by
    rw [labelsAre]
    split
    · exact ⟨_, rfl⟩
    split
    · exact ⟨_, rfl⟩
    next off =>
      have known : tape.Knows labels.values := by
        cases sound with
        | mk _ labeled _ _ _ _ => exact (labeled labels axis).1.known
      have present : labels.values.data.device ≠ .metadata := fun gone =>
        off (congrArg Device.isMeta gone)
      obtain ⟨values, read, _⟩ := (holds.knows known).toIntegers_ok present
      exact ⟨values == entries, by rw [read]; rfl⟩
  rw [checkLayout] at failed
  split at failed
  · cases failed
    simp
  split at failed
  next xyz alone =>
    obtain ⟨first, xyz_are⟩ := answers xyz (by simp [Block.axes, alone]) "xyz" [0, 1, 2]
    obtain ⟨second, distance_are⟩ := answers list.properties (by simp [Block.axes]) "distance" [0]
    rw [xyz_are, distance_are] at failed
    cases first <;> cases second <;> cases failed <;> simp
  next =>
    cases failed
    simp

/-- A list that passes its check holds nothing but pairs and distance vectors. -/
theorem contents_of_layout {tape : Tape} {list : Block} (sound : list.Sound tape)
    (holds : tape.Holds Dense.Valid) (present : list.values.device ≠ .metadata)
    (checked : checkLayout list = .ok ()) (plain : list.gradients = []) :
    Contents list list.samples.values.data list.values.data := by
  obtain ⟨names, properties_are, xyz, alone, xyz_are⟩ := checkLayout_ok checked
  cases sound with
  | mk known labeled _ _ _ _ =>
      have column {labels : Labels} {name : String} {entries : List Int} (axis : labels ∈ list.axes)
          (are : labelsAre labels name entries = .ok true) : labels.names = [name] ∧
            labels.values.data = Labels.column list.values.data.device entries := by
        obtain ⟨labels_sound, device⟩ := labeled labels axis
        have here : labels.device ≠ .metadata := fun gone => present (device.symm.trans gone)
        have found := column_of_labelsAre labels_sound (holds.knows labels_sound.known) here are
        rw [device] at found
        exact found
      exact ⟨rfl, names, rfl, ⟨xyz, alone, column (by simp [Block.axes, alone]) xyz_are⟩,
        column (by simp [Block.axes]) properties_are, plain⟩

namespace Contents

variable {list other : Block} {pairs distances : Dense}

/-- A list with contents has the layout of a neighbor list. -/
theorem layout (contents : Contents list pairs distances) (present : distances.device ≠ .metadata) :
    checkLayout list = .ok () := by
  obtain ⟨_, names, _, ⟨xyz, alone, xyz_names, xyz_held⟩, ⟨property_names, property_held⟩, _⟩ :=
    contents
  rw [checkLayout, if_neg (not_not.mpr names), alone]
  simp only [labelsAre_of_column xyz_names xyz_held present,
    labelsAre_of_column property_names property_held present, bind, Except.bind]
  rfl

/-- **A list is moved to the CPU as it is**, tracked or not. -/
theorem transfer_decides (contents : Contents list pairs distances) (clean : workspace.Clean)
    (pairs_valid : pairs.Valid) (distances_valid : distances.Valid)
    (together : pairs.device = distances.device) (present : distances.device ≠ .metadata) :
    (list.transfer none (some .cpu)).Decides Cleanly True workspace fun made _ =>
      Contents made pairs.onCpu distances.onCpu := by
  obtain ⟨held, names, samples_held, ⟨xyz, alone, xyz_names, xyz_held⟩,
    ⟨property_names, property_held⟩, plain⟩ := contents
  obtain ⟨values, samples, components, properties, gradients⟩ := list
  dsimp only at held names samples_held alone property_names property_held plain
  subst alone
  subst plain
  subst held
  subst samples_held
  rw [Block.transfer]
  have moved := @Tensor.transfer_decides workspace values values.data.onCpu distances_valid none
    (some .cpu) (distances_valid.convert_onCpu present) clean
  apply moved.follow
  intro new_values one first new_held
  have on_cpu : new_values.device = .cpu := congrArg Dense.device new_held
  rw [on_cpu, Block.transferAll]
  have empty : (pure [] : Session TensorError (List (String × Block))).Decides Cleanly True one
      fun made after => made = [] ∧ after = one := .gives rfl trivial id ⟨rfl, rfl⟩
  apply empty.follow
  rintro nothing two _ ⟨none_made, stays⟩
  subst none_made
  subst stays
  apply (Labels.transfer_decides (first clean) pairs_valid (together ▸ present)).follow
  rintro new_samples three second ⟨new_names, new_samples_held⟩
  have xyz_valid : xyz.values.data.Valid := by
    rw [xyz_held]
    exact Labels.column_valid present (by decide) (by decide)
  have property_valid : properties.values.data.Valid := by
    rw [property_held]
    exact Labels.column_valid present (by decide) (by decide)
  have xyz_present : xyz.values.data.device ≠ .metadata := by
    rw [xyz_held]
    exact present
  have property_present : properties.values.data.device ≠ .metadata := by
    rw [property_held]
    exact present
  have one_component :
      ([xyz].mapM fun component : Labels => component.transfer .cpu).Decides Cleanly True
      three fun made _ => ∃ new : Labels, made = [new] ∧ new.names = xyz.names ∧
        new.values.data = xyz.values.data.onCpu := by
    rw [List.mapM_cons, List.mapM_nil]
    apply (Labels.transfer_decides (second (first clean)) xyz_valid xyz_present).follow
    intro new _ _ held
    exact .gives rfl trivial id ⟨new, rfl, held⟩
  apply one_component.follow
  rintro new_components four third ⟨new, alone, new_xyz_names, new_xyz_held⟩
  subst alone
  apply (Labels.transfer_decides (third (second (first clean))) property_valid
    property_present).follow
  rintro new_properties five _ ⟨new_property_names, new_property_held⟩
  refine .gives rfl trivial id ⟨new_held, new_names.trans names, new_samples_held,
    ⟨new, rfl, new_xyz_names.trans xyz_names, ?_⟩,
      ⟨new_property_names.trans property_names, ?_⟩, rfl⟩
  · rw [new_xyz_held, xyz_held]
    rfl
  · rw [new_property_held, property_held]
    rfl

/-- Lists that hold the same numbers are equal. -/
theorem equal (contents : Contents list pairs distances) (same : Contents other pairs distances)
    (pairs_numbers : pairs.Numbers) (numbers : distances.Numbers) : list.equal other := by
  obtain ⟨held, names, samples_held, ⟨xyz, alone, xyz_names, xyz_held⟩,
    ⟨property_names, property_held⟩, plain⟩ := contents
  obtain ⟨other_held, other_names, other_samples_held, ⟨other_xyz, other_alone, other_xyz_names,
    other_xyz_held⟩, ⟨other_property_names, other_property_held⟩, other_plain⟩ := same
  have integers (device : Device) (entries : List Int) : (Labels.column device entries).Numbers :=
    fun _ impossible => nomatch impossible
  obtain ⟨values, samples, components, properties, gradients⟩ := list
  obtain ⟨other_values, other_samples, other_components, other_properties, other_gradients⟩ := other
  dsimp only at held names samples_held alone property_names property_held plain
  dsimp only at other_held other_names other_samples_held other_alone other_plain
  subst alone
  subst other_alone
  subst plain
  subst other_plain
  have values_equal : values.equal other_values := by
    rw [Tensor.equal, held, other_held]
    exact Dense.equal_self numbers
  have samples_equal : samples.equal other_samples :=
    Labels.equal_of_same (names.trans other_names.symm) samples_held other_samples_held
      pairs_numbers
  have xyz_equal : xyz.equal other_xyz :=
    Labels.equal_of_same (xyz_names.trans other_xyz_names.symm) xyz_held other_xyz_held
      (integers _ _)
  have properties_equal : properties.equal other_properties :=
    Labels.equal_of_same (property_names.trans other_property_names.symm) property_held
      other_property_held (integers _ _)
  rw [Block.equal, Block.equalAll, Block.equalLabels]
  simp [values_equal, samples_equal, xyz_equal, properties_equal]

end Contents

/-- A list is put together from a table of pairs and their distance vectors. -/
theorem assemble_decides (clean : workspace.Clean) {samples distances : Tensor} {pairs : Nat}
    (samples_blank : workspace.Blank samples) (distances_blank : workspace.Blank distances)
    (samples_shape : samples.shape = [pairs, 5]) (samples_dtype : samples.dtype = .int32)
    (samples_device : samples.device = .cpu) (shape : distances.shape = [pairs, 3, 1])
    (device : distances.device = .cpu) :
    (assemble samples distances).Decides Grows True workspace fun made after =>
      Contents made samples.data distances.data ∧
        ∀ tensor ∈ made.values :: made.axes.map Labels.values, after.Blank tensor := by
  have labeled : (Labels.ofTensor sampleNames samples) = .ok ⟨sampleNames, samples⟩ :=
    Labels.ofTensor_eq (by decide) (by decide) samples_shape samples_dtype
  rw [assemble]
  apply (Session.Decides.ofExcept_ok labeled (Grows.refl _)).follow
  rintro table one _ ⟨rfl, rfl⟩
  have kept {labels : Labels} {middle : Workspace} (held : labels.device = .cpu) :
      (labels.transfer distances.device : Session TensorError Labels).Decides Grows True middle
        fun made after => made = labels ∧ after = middle :=
    .gives (Labels.transfer_self (held.trans device.symm)) trivial (Grows.refl _) ⟨rfl, rfl⟩
  have counted : Labels.range "xyz" 3 = Labels.ofFlat ["xyz"] [0, 1, 2] := rfl
  have single : Labels.range "distance" 1 = Labels.ofFlat ["distance"] [0] := rfl
  rw [counted, single]
  apply (Labels.ofFlat_decides clean (by decide) (by decide) (by decide)).follow
  rintro xyz two first ⟨xyz_names, xyz_held, xyz_blank⟩
  have xyz_device : xyz.device = .cpu := congrArg Dense.device xyz_held
  apply (kept xyz_device).adapt.follow
  rintro moved three _ ⟨rfl, rfl⟩
  apply (Labels.ofFlat_decides (first.clean clean) (by decide) (by decide) (by decide)).follow
  rintro distance four second ⟨distance_names, distance_held, distance_blank⟩
  have distance_device : distance.device = .cpu := congrArg Dense.device distance_held
  apply (kept distance_device).adapt.follow
  rintro moved_distance five _ ⟨rfl, rfl⟩
  have later : Grows one five := IsTrans.trans _ _ _ first second
  have built : Block.create distances ⟨sampleNames, samples⟩ [moved] moved_distance =
      .ok ⟨distances, ⟨sampleNames, samples⟩, [moved], moved_distance, []⟩ := by
    refine Block.create_eq (by simp [xyz_names]) ?_ ?_
    · have three_rows : moved.count = 3 := congrArg (fun d : Dense => d.size 0) xyz_held
      have one_row : moved_distance.count = 1 := congrArg (fun d : Dense => d.size 0) distance_held
      have rows : Labels.count ⟨sampleNames, samples⟩ = pairs :=
        congrArg (fun shape : Shape => shape.getD 0 0) samples_shape
      simp [shape, rows, three_rows, one_row]
    · simp only [List.cons_append, List.nil_append, List.forall_mem_cons]
      exact ⟨samples_device.trans device.symm, xyz_device.trans device.symm,
        distance_device.trans device.symm, List.forall_mem_nil _⟩
  apply (Session.Decides.ofExcept_ok built (Grows.refl _)).weaken
  rintro made last _ ⟨rfl, rfl⟩
  refine ⟨⟨rfl, rfl, rfl, ⟨moved, rfl, xyz_names, ?_⟩, ⟨distance_names, ?_⟩, rfl⟩, ?_⟩
  · exact xyz_held.trans (by rw [← device]; rfl)
  · exact distance_held.trans (by rw [← device]; rfl)
  · simp only [Block.axes, List.cons_append, List.nil_append, List.map_cons, List.map_nil,
      List.forall_mem_cons]
    exact ⟨distances_blank.grow later, samples_blank.grow later, xyz_blank.grow second,
      distance_blank, List.forall_mem_nil _⟩

end NeighborList

end Atomistic
