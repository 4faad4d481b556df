import Atomistic.Proofs.NeighborList.Layout
import Atomistic.Proofs.System.Spared

/-!
# When a neighbor list can be put together

A table of pairs and a table of distance vectors on the same device, whichever it is, make a
neighbor list exactly if both have a row for each pair, the pairs as `int32`
(`Atomistic.NeighborList.assemble_fits`).  The list has the layout of a neighbor list, and
nothing changes for the tensors that there were.
-/

namespace Atomistic

open Session Workspace

variable {workspace : Workspace}

namespace Labels

/-- Labels with a single name and the given entries, on a device. -/
structure Standard (device : Device) (name : String) (entries : List Int) (labels : Labels) :
    Prop where
  names : labels.names = [name]
  held : labels.values.data = (column .cpu entries).recast none (some device)

section Column

variable {entries : List Int} (wrapped : ∀ i ∈ entries, DType.int32.wrap i = i)
  (small : entries.length < 0x10000000000000000) (device : Device)

include wrapped small

private theorem recast_column_kind :
    ((column .cpu entries).recast none (some device)).shape = [entries.length, 1] ∧
    ((column .cpu entries).recast none (some device)).dtype = .int32 ∧
    ((column .cpu entries).recast none (some device)).device = device :=
  (column_valid (by decide : Device.cpu ≠ .metadata) wrapped small).recast_kind fun home =>
    nomatch home

/-- On a device that holds data the entries are as they were. -/
theorem recast_column (present : device ≠ .metadata) :
    (column .cpu entries).recast none (some device) = column device entries := by
  obtain ⟨shape, dtype, placed⟩ := recast_column_kind wrapped small device
  have values := @Dense.Valid.recast_values (column .cpu entries)
    (column_valid (by decide) wrapped small) (some device) fun home => nomatch home
  rw [if_neg (by simpa [Device.isMeta] using present)] at values
  rcases moved : (column .cpu entries).recast none (some device) with ⟨_, _, _, _⟩
  rw [moved] at shape dtype placed values
  dsimp only at shape dtype placed values
  rw [shape, dtype, placed, values]
  rfl

end Column

/-- Labels of one name are made on the CPU and moved to a device, before the rest of a
session. -/
theorem ofFlat_standard {α : Type} (clean : workspace.Clean) {name : String} {entries : List Int}
    (valid : validName name) (wrapped : ∀ i ∈ entries, DType.int32.wrap i = i)
    (small : entries.length < 0x10000000000000000) {device : Device} {condition : Prop}
    {next : Labels → Session Error α} {ended : α → Workspace → Prop}
    (rest : ∀ labels after, Grows workspace after → labels.Standard device name entries →
      (next labels).Decides Grows condition after ended) :
    (ofFlat [name] entries >>= fun labels =>
      ExceptT.adapt Error.tensor (labels.transfer device) >>= next).Decides Grows condition
        workspace ended := by
  apply (ofFlat_decides clean valid wrapped small).follow
  rintro labels middle grown ⟨names, held, blank⟩
  have present : Device.cpu ≠ .metadata := by decide
  have column_valid := column_valid present wrapped small
  have moves : labels.values.data.convert labels.values.data.dtype device =
      .ok ((column .cpu entries).recast none (some device)) := by
    rw [held]
    exact @Dense.Valid.convert_recast _ column_valid none (some device) fun home => nomatch home
  have moved := @Tensor.transfer_untracked middle labels.values _ (held ▸ column_valid) none
    (some device) moves (grown.clean clean) blank
  have standard : Decides Grows True
      (ExceptT.adapt Error.tensor (labels.transfer device) : Session Error Labels) middle
      fun made _ => made.Standard device name entries := by
    apply Decides.adapt
    apply moved.follow
    rintro values after _ ⟨same, _⟩
    exact .gives rfl trivial (.refl after) ⟨names, same⟩
  apply standard.follow
  exact fun made after further standard =>
    rest made after (IsTrans.trans _ _ _ grown further) standard

namespace Standard

variable {device : Device} {name : String} {entries : List Int} {labels : Labels}
  (standard : Standard device name entries labels)
  (wrapped : ∀ i ∈ entries, DType.int32.wrap i = i) (small : entries.length < 0x10000000000000000)

include standard wrapped small

private theorem count_eq : labels.count = entries.length := by
  rw [count, Tensor.size, Dense.size, standard.held, (recast_column_kind wrapped small device).1]
  rfl

private theorem device_eq : labels.device = device := by
  rw [Labels.device, Tensor.device, standard.held, (recast_column_kind wrapped small device).2.2]

/-- Such labels pass their check. -/
theorem are : NeighborList.labelsAre labels name entries = .ok true := by
  by_cases present : device = .metadata
  · have absent : labels.device.isMeta := by
      rw [standard.device_eq wrapped small, present]
      rfl
    rw [NeighborList.labelsAre, if_neg (by simp [standard.names, standard.count_eq wrapped small]),
      if_pos absent]
    rfl
  · exact NeighborList.labelsAre_of_column standard.names
      (standard.held.trans (recast_column wrapped small device present)) present

end Standard

end Labels

namespace Block

/-- The labels of a block that could be made fit its values. -/
theorem fits_of_create {values : Tensor} {samples : Labels} {components : List Labels}
    {properties : Labels} {block : Block}
    (made : create values samples components properties = .ok block) :
    values.shape = samples.count :: components.map Labels.count ++ [properties.count] ∧
      ∀ labels ∈ samples :: components ++ [properties], labels.device = values.device := by
  rw [create] at made
  split at made
  · cases made
  next narrow =>
    obtain ⟨shape, rest⟩ := ok_of_check made
    dsimp only at rest
    split at rest
    · cases rest
    next together =>
      refine ⟨not_not.mp shape, fun labels member => ?_⟩
      simpa using List.find?_eq_none.mp together labels member

end Block

namespace NeighborList

/-- Tables from which a neighbor list can be put together. -/
structure Tables (samples distances : Tensor) : Prop where
  pairs : samples.shape = [samples.size 0, 5]
  dtype : samples.dtype = .int32
  vectors : distances.shape = [samples.size 0, 3, 1]
  together : samples.device = distances.device

/-- A neighbor list of two tables, with the labels that all lists have. -/
structure Assembled (samples distances : Tensor) (list : Block) : Prop where
  values : list.values = distances
  samples : list.samples = ⟨sampleNames, samples⟩
  xyz : ∃ xyz, list.components = [xyz] ∧ xyz.Standard distances.device "xyz" [0, 1, 2]
  distance : list.properties.Standard distances.device "distance" [0]
  plain : list.gradients = []

namespace Assembled

variable {samples distances : Tensor} {list : Block}

/-- Such a list has the layout of a neighbor list, on every device. -/
theorem layout (assembled : Assembled samples distances list) : checkLayout list = .ok () := by
  obtain ⟨xyz, alone, standard⟩ := assembled.xyz
  have names : list.samples.names = sampleNames := congrArg Labels.names assembled.samples
  rw [checkLayout, if_neg (not_not.mpr names), alone]
  simp only [standard.are (by decide) (by decide), assembled.distance.are (by decide) (by decide),
    ok_bind]
  rfl

/-- An assembled list with data holds the pairs and distances it was assembled from. -/
theorem contents (assembled : Assembled samples distances list)
    (present : distances.device ≠ .metadata) : Contents list samples.data distances.data := by
  obtain ⟨rfl, table, ⟨xyz, alone, standard⟩, distance, plain⟩ := assembled
  refine ⟨rfl, congrArg Labels.names table, ?_, ⟨xyz, alone, standard.names, ?_⟩,
    ⟨distance.names, ?_⟩, plain⟩
  · rw [table]
  · exact standard.held.trans (Labels.recast_column (by decide) (by decide) _ present)
  · exact distance.held.trans (Labels.recast_column (by decide) (by decide) _ present)

end Assembled

/-- **Two tables make a neighbor list exactly if they fit.** -/
theorem assemble_fits (clean : workspace.Clean) {samples distances : Tensor}
    (samples_known : workspace.tape.Knows samples) :
    (assemble samples distances).Decides Grows (Tables samples distances) workspace
      fun made _ => Assembled samples distances made := by
  have labeled : (Session.ofExcept (Labels.ofTensor sampleNames samples)).Decides Grows
      (samples.shape = [samples.size 0, 5] ∧ samples.dtype = .int32) workspace
      fun made after => made = ⟨sampleNames, samples⟩ ∧ after = workspace := by
    refine .ofExcept_iff (fun fits => ?_) (fun made built => ?_) (.refl workspace)
    · exact Labels.ofTensor_eq (by decide) (by decide) fits.1 fits.2
    · obtain ⟨sound, rfl⟩ := Labels.ofTensor_sound samples_known built
      exact ⟨sound.shape, sound.dtype⟩
  have built (xyz distance : Labels) (middle : Workspace)
      (xyz_standard : xyz.Standard distances.device "xyz" [0, 1, 2])
      (standard : distance.Standard distances.device "distance" [0]) :
      (Session.ofExcept
          (Block.create distances ⟨sampleNames, samples⟩ [xyz] distance)).Decides Grows
        (distances.shape = [samples.size 0, 3, 1] ∧ samples.device = distances.device) middle
        fun made _ => Assembled samples distances made := by
    have three : xyz.count = 3 := xyz_standard.count_eq (by decide) (by decide)
    have one : distance.count = 1 := standard.count_eq (by decide) (by decide)
    have counts :
        Labels.count ⟨sampleNames, samples⟩ :: [xyz].map Labels.count ++ [distance.count] =
          [samples.size 0, 3, 1] := by
      rw [List.map_singleton, three, one]
      rfl
    have creates := @Block.create_eq distances ⟨sampleNames, samples⟩ [xyz] distance
    refine (Decides.ofExcept_iff (fun fits => creates ?_ ?_ ?_) (fun made built => ?_)
      (.refl middle)).weaken ?_
    · simp [xyz_standard.names]
    · rw [fits.1, ← counts]
      simp
    · simp only [List.cons_append, List.nil_append, List.forall_mem_cons]
      exact ⟨fits.2, xyz_standard.device_eq (by decide) (by decide),
        standard.device_eq (by decide) (by decide), List.forall_mem_nil _⟩
    · obtain ⟨shape, together⟩ := Block.fits_of_create built
      exact ⟨shape.trans counts, together ⟨sampleNames, samples⟩ List.mem_cons_self⟩
    · rintro list after _ ⟨rfl, _⟩
      exact ⟨rfl, rfl, ⟨xyz, rfl, xyz_standard⟩, standard, rfl⟩
  have fits : Tables samples distances ↔
      (samples.shape = [samples.size 0, 5] ∧ samples.dtype = .int32) ∧
        distances.shape = [samples.size 0, 3, 1] ∧ samples.device = distances.device :=
    ⟨fun tables => ⟨⟨tables.pairs, tables.dtype⟩, tables.vectors, tables.together⟩,
      fun ⟨⟨pairs, dtype⟩, vectors, together⟩ => ⟨pairs, dtype, vectors, together⟩⟩
  rw [assemble, show Labels.range "xyz" 3 = Labels.ofFlat ["xyz"] [0, 1, 2] from rfl,
    show Labels.range "distance" 1 = Labels.ofFlat ["distance"] [0] from rfl]
  refine (labeled.bind ?_).congr fits
  rintro table one _ ⟨rfl, rfl⟩
  refine Labels.ofFlat_standard clean (by decide) (by decide)
    (by decide) fun xyz two first xyz_made => ?_
  refine Labels.ofFlat_standard (first.clean clean) (by decide) (by decide) (by decide)
    fun distance three _ made => ?_
  exact built xyz distance three xyz_made made

end NeighborList

end Atomistic
