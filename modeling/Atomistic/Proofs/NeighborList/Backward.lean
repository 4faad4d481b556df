import Atomistic.Proofs.NeighborList.Registration

/-!
# When gradients reach positions and cells

The backward rule of a registration gives gradients exactly if the table of samples and the
gradient have the right amounts of data, and, where the positions need a gradient, all atoms of
the pairs are there (`Atomistic.NeighborList.bridge_iff`).  What it gives has the shape, the
element type and the device of the positions and of the cell
(`Atomistic.NeighborList.bridge_gives`).
-/

namespace Atomistic

namespace Pair

variable {α : Type} [Scalar α] {atoms : Nat} {gradients : List (Pair × Vec3 α)}

/-- A table keeps its rows when gradients are added to it. -/
theorem scatter_length {sign : α} {atom : Pair → Int} {table made : List (Vec3 α)}
    (scattered : scatter atoms sign atom gradients table = .ok made) :
    made.length = table.length := by
  induction gradients generalizing table with
  | nil => exact congrArg List.length (Except.ok.inj scattered).symm
  | cons entry rest ih =>
      rw [scatter, List.foldlM_cons] at scattered
      obtain ⟨next, first, later⟩ := ok_of_bind scattered
      obtain ⟨row, _, changed⟩ := ok_of_bind first
      rw [ih later, ← Except.ok.inj changed, List.length_modify]

/-- Gradients are added exactly if all atoms are there. -/
theorem scatter_iff {sign : α} {atom : Pair → Int} {table : List (Vec3 α)} :
    (∃ made, scatter atoms sign atom gradients table = .ok made) ↔
      ∀ entry ∈ gradients, 0 ≤ atom entry.1 ∧ atom entry.1 < atoms := by
  induction gradients generalizing table with
  | nil => exact ⟨fun _ => List.forall_mem_nil _, fun _ => ⟨table, rfl⟩⟩
  | cons entry rest ih =>
      rw [scatter, List.foldlM_cons, atomRow, List.forall_mem_cons]
      by_cases there : 0 ≤ atom entry.1 ∧ atom entry.1 < atoms
      · rw [if_pos there]
        exact ih.trans (and_iff_right there).symm
      · rw [if_neg there]
        refine iff_of_false ?_ fun both => there both.1
        rintro ⟨_, impossible⟩
        cases impossible

private theorem positionsGradient_length {table : List (Vec3 α)}
    (made : positionsGradient atoms gradients = .ok table) : table.length = atoms := by
  obtain ⟨middle, first, second⟩ := ok_of_bind made
  rw [scatter_length second, scatter_length first, List.length_replicate]

private theorem positionsGradient_iff : (∃ table, positionsGradient atoms gradients = .ok table) ↔
    ∀ entry ∈ gradients, entry.1.InRange atoms := by
  constructor
  · rintro ⟨table, made⟩ entry member
    obtain ⟨middle, first, second⟩ := ok_of_bind made
    exact ⟨scatter_iff.mp ⟨table, second⟩ entry member, scatter_iff.mp ⟨middle, first⟩ entry member⟩
  · intro inRange
    obtain ⟨middle, first⟩ := (@scatter_iff _ _ atoms gradients (Scalar.ofInt 1) Pair.second
      (List.replicate atoms Vec3.zero)).mpr fun entry member => (inRange entry member).2
    obtain ⟨table, second⟩ := (@scatter_iff _ _ atoms gradients (Scalar.ofInt (-1)) Pair.first
      middle).mpr fun entry member => (inRange entry member).1
    exact ⟨table, by rw [positionsGradient, first, ok_bind, second]⟩

end Pair

namespace NeighborList

/-- A table of samples and a gradient with the right amounts of data for a number of pairs. -/
structure Matched (samples gradient : Dense) (pairs : Nat) : Prop where
  shape : samples.shape = [pairs, 5]
  samples : samples.values ≠ .absent
  count : gradient.count = 3 * pairs
  gradient : gradient.values ≠ .absent

section Data

variable {samples gradient : Dense} {pairs : Nat}

/-- The pairs of a table with their gradients. -/
def paired (samples gradient : Dense) (pairs : Nat) : List (Pair × Vec3 Binary64) :=
  (List.range pairs).map fun row => (samples.pair row, gradient.vector row)

/-- The data of a table of samples and of a gradient that match. -/
theorem Matched.read (matched : Matched samples gradient pairs) (samples_valid : samples.Valid)
    (gradient_valid : gradient.Valid) :
    ∃ entries values, samples.toIntegers = .ok entries ∧ entries.length = 5 * pairs ∧
      gradient.toFloats = .ok values ∧ values.length = 3 * pairs := by
  have samples_placed : samples.device ≠ .metadata := fun gone =>
    matched.samples (samples_valid.absent_iff.mpr gone)
  have gradient_placed : gradient.device ≠ .metadata := fun gone =>
    matched.gradient (gradient_valid.absent_iff.mpr gone)
  obtain ⟨entries, samples_read, _⟩ := samples_valid.toIntegers_ok samples_placed
  obtain ⟨values, gradient_read, _⟩ := gradient_valid.toFloats_ok gradient_placed
  have five : entries.length = 5 * pairs := by
    rw [samples_valid.length_toIntegers samples_read, Dense.count_table matched.shape, Nat.mul_comm]
  exact ⟨entries, values, samples_read, five, gradient_read,
    (gradient_valid.length_toFloats gradient_read).trans matched.count⟩

private theorem pairGradients_of_matched (matched : Matched samples gradient pairs)
    (samples_valid : samples.Valid) (gradient_valid : gradient.Valid) :
    pairGradients samples gradient = .ok (paired samples gradient pairs) := by
  obtain ⟨entries, values, samples_read, five, gradient_read, three⟩ :=
    matched.read samples_valid gradient_valid
  have height : samples.size 0 = pairs := by
    rw [Dense.size, matched.shape]
    rfl
  rw [pairGradients, height, if_neg (not_not.mpr matched.shape), if_neg (not_not.mpr matched.count),
    samples_read, gradient_read]
  change Except.ok ((Pair.rows entries).zip (Vec3.rows values)) = _
  rw [Dense.rows_eq_pairs samples_read five, Dense.rows_eq_vectors gradient_read three,
    List.zip_map', paired]

private theorem matched_of_pairGradients {entries : List (Pair × Vec3 Binary64)}
    (made : pairGradients samples gradient = .ok entries) :
    Matched samples gradient (samples.size 0) := by
  rw [pairGradients] at made
  obtain ⟨shape, made⟩ := ok_of_check made
  obtain ⟨count, made⟩ := ok_of_check made
  obtain ⟨_, samples_read, made⟩ := ok_of_bind made
  obtain ⟨_, gradient_read, _⟩ := ok_of_bind made
  exact ⟨not_not.mp shape, Dense.present_of_toIntegers samples_read, not_not.mp count,
    Dense.present_of_toFloats gradient_read⟩

/-- Pairs with their gradients can be read exactly if the amounts of data are right. -/
theorem pairGradients_iff (samples_valid : samples.Valid) (gradient_valid : gradient.Valid)
    {entries : List (Pair × Vec3 Binary64)} : pairGradients samples gradient = .ok entries ↔
      ∃ pairs, Matched samples gradient pairs ∧ entries = paired samples gradient pairs := by
  constructor
  · intro made
    have matched := matched_of_pairGradients made
    refine ⟨_, matched, ?_⟩
    rw [pairGradients_of_matched matched samples_valid gradient_valid] at made
    exact (Except.ok.inj made).symm
  · rintro ⟨pairs, matched, rfl⟩
    exact pairGradients_of_matched matched samples_valid gradient_valid

end Data

section Rules

variable {data positions cell samples gradient : Dense} {outcome : Outcome}
  {values : List (Vec3 Binary64)}

/-- Numbers for every element of data can take the place of the data. -/
theorem valuesLike_ok (valid : data.Valid) (present : data.device ≠ .metadata)
    (floating : data.dtype.isFloating) (count : 3 * values.length = data.count) :
    ∃ outcome, valuesLike data values = .ok outcome := by
  obtain ⟨elements, counted⟩ := valid.counted
  have whole : (Vec3.flatten values).length = elements := by
    rw [Vec3.length_flatten, count]
    exact Shape.count_of_checked counted
  have fits : Dense.checkLength data.shape (Vec3.flatten values).length = .ok () := by
    rw [Dense.checkLength, counted, whole]
    exact if_pos rfl
  have placed : ¬ data.device.isMeta := by simpa [Device.isMeta] using present
  rw [valuesLike, Dense.ofFloats, if_neg (by simp [floating]), fits]
  dsimp only [bind, Except.bind, pure, Except.pure]
  rw [Dense.convert, if_neg placed, if_neg (by simp)]
  exact ⟨_, rfl⟩

private theorem valuesLike_kind (made : valuesLike data values = .ok outcome) :
    TensorData.kind outcome.data = TensorData.kind data := by
  obtain ⟨raw, built, made⟩ := ok_of_bind made
  obtain ⟨moved, converted, same⟩ := ok_of_bind made
  obtain ⟨_, _, rfl⟩ := Dense.ofFloats_eq built
  obtain ⟨shape, dtype, device⟩ := Dense.convert_kind converted
  rw [← Except.ok.inj same]
  exact congrArg₂ Prod.mk shape (congrArg₂ Prod.mk dtype device)

private theorem onMeta_kind (gone : data.device.isMeta) :
    TensorData.kind (Dense.onMeta data.shape data.dtype) = TensorData.kind data := by
  have gone : data.device = .metadata := by simpa [Device.isMeta] using gone
  exact congrArg (fun device => (data.shape, data.dtype, device)) gone.symm

private theorem positionsBackward_kind
    (made : positionsBackward positions samples gradient = .ok outcome) :
    TensorData.kind outcome.data = TensorData.kind positions := by
  rw [positionsBackward] at made
  split at made
  next gone =>
    cases made
    exact onMeta_kind gone
  · obtain ⟨_, _, made⟩ := ok_of_bind made
    obtain ⟨_, _, made⟩ := ok_of_bind made
    exact valuesLike_kind made

private theorem cellBackward_kind (made : cellBackward cell samples gradient = .ok outcome) :
    TensorData.kind outcome.data = TensorData.kind cell := by
  rw [cellBackward] at made
  split at made
  next gone =>
    cases made
    exact onMeta_kind gone
  · obtain ⟨_, _, made⟩ := ok_of_bind made
    exact valuesLike_kind made

/-- The atoms of all pairs are there exactly if those of every row are. -/
theorem forall_paired {atoms pairs : Nat} :
    (∀ entry ∈ paired samples gradient pairs, entry.1.InRange atoms) ↔
      ∀ row < pairs, (samples.pair row).InRange atoms := by
  simp only [paired, List.forall_mem_map, List.mem_range]

variable (samples_valid : samples.Valid) (gradient_valid : gradient.Valid)

include samples_valid gradient_valid

/-- When there is a gradient for positions that are there. -/
theorem positionsBackward_iff {atoms : Nat} (valid : positions.Valid)
    (present : positions.device ≠ .metadata) (floating : positions.dtype.isFloating)
    (shape : positions.shape = [atoms, 3]) :
    (∃ outcome, positionsBackward positions samples gradient = .ok outcome) ↔
      ∃ pairs, Matched samples gradient pairs ∧
        ∀ row < pairs, (samples.pair row).InRange atoms := by
  have placed : ¬ positions.device.isMeta := by simpa [Device.isMeta] using present
  have height : positions.size 0 = atoms := by
    rw [Dense.size, shape]
    rfl
  rw [positionsBackward, if_neg placed, height]
  constructor
  · rintro ⟨outcome, made⟩
    obtain ⟨entries, read, made⟩ := ok_of_bind made
    obtain ⟨table, scattered, _⟩ := ok_of_bind made
    obtain ⟨pairs, matched, rfl⟩ := (pairGradients_iff samples_valid gradient_valid).mp read
    have all := Pair.positionsGradient_iff.mp ⟨table, ok_of_mapError scattered⟩
    exact ⟨pairs, matched, forall_paired.mp all⟩
  · rintro ⟨pairs, matched, inRange⟩
    obtain ⟨table, made⟩ :=
      Pair.positionsGradient_iff.mpr ((@forall_paired samples gradient atoms pairs).mpr inRange)
    have count : 3 * table.length = positions.count := by
      rw [Pair.positionsGradient_length made, Dense.count_table shape, Nat.mul_comm]
    rw [pairGradients_of_matched matched samples_valid gradient_valid, ok_bind, made]
    exact valuesLike_ok valid present floating count

/-- When there is a gradient for a cell that is there. -/
theorem cellBackward_iff (valid : cell.Valid) (present : cell.device ≠ .metadata)
    (floating : cell.dtype.isFloating) (shape : cell.shape = [3, 3]) :
    (∃ outcome, cellBackward cell samples gradient = .ok outcome) ↔
      ∃ pairs, Matched samples gradient pairs := by
  have placed : ¬ cell.device.isMeta := by simpa [Device.isMeta] using present
  rw [cellBackward, if_neg placed]
  constructor
  · rintro ⟨outcome, made⟩
    obtain ⟨entries, read, _⟩ := ok_of_bind made
    exact ⟨_, matched_of_pairGradients read⟩
  · rintro ⟨pairs, matched⟩
    have count : 3 * (Pair.cellGradient (paired samples gradient pairs)).toList.length =
        cell.count := (Dense.count_table shape).symm
    rw [pairGradients_of_matched matched samples_valid gradient_valid, ok_bind]
    exact valuesLike_ok valid present floating count

end Rules

section Registrations

variable (tape : Tape) (system : System) (list : Block)

/-- What the rule of a registration needs of the gradient that it is given. -/
def Feeds (gradient : Dense) : Prop :=
  (tape.state system.positions.number).requiresGrad ∨ (tape.state system.cell.number).requiresGrad →
    ∃ pairs, Matched list.samples.values.data gradient pairs ∧
      ((tape.state system.positions.number).requiresGrad →
        ∀ row < pairs, (pairAt list row).InRange system.size)

/-- A gradient for a tensor exactly if it needs one, of the shape and the element type of the
tensor and on its device. -/
structure Fits (tensor : Tensor) (given : Option Outcome) : Prop where
  needed : given.isSome ↔ (tape.state tensor.number).requiresGrad
  kind : ∀ outcome ∈ given, TensorData.kind outcome.data = TensorData.kind tensor.data

end Registrations

private theorem onNeed_iff {need : Bool} {made : Except TensorError Outcome} :
    (∃ given, onNeed need made = .ok given) ↔ (need → ∃ outcome, made = .ok outcome) := by
  cases need with
  | false => exact iff_of_true ⟨none, rfl⟩ fun impossible => nomatch impossible
  | true =>
      cases made with
      | error fault =>
          refine iff_of_false (fun ⟨_, impossible⟩ => nomatch impossible) fun all => ?_
          obtain ⟨_, impossible⟩ := all rfl
          cases impossible
      | ok outcome => exact iff_of_true ⟨some outcome, rfl⟩ fun _ => ⟨outcome, rfl⟩

section Rule

variable {tape : Tape} {system : System} {list : Block} {gradient : View}

/-- The rule of a registered list computes the gradients of the positions and of the cell that are
needed. -/
theorem linkNode_rule :
    (linkNode tape system list).rule (linkNode tape system list).context gradient = (do
      let forPositions ← onNeed (tape.state system.positions.number).requiresGrad
        (positionsBackward system.positions.data list.samples.values.data gradient.data)
      let forCell ← onNeed (tape.state system.cell.number).requiresGrad
        (cellBackward system.cell.data list.samples.values.data gradient.data)
      return [forPositions, forCell]) :=
  bridge_rule _ _ _ _ _ _

variable (sound : system.Sound tape) (list_sound : list.Sound tape) (holds : tape.Holds Dense.Valid)
  (placed : system.device ≠ .metadata) (valid : gradient.data.Valid)

/-- What a registration passes on for the positions and the cell. -/
theorem bridge_gives {outcomes : List (Option Outcome)}
    (ruled : (linkNode tape system list).rule (linkNode tape system list).context gradient =
      .ok outcomes) : ∃ forPositions forCell, outcomes = [forPositions, forCell] ∧
        Fits tape system.positions forPositions ∧ Fits tape system.cell forCell := by
  rw [linkNode_rule] at ruled
  obtain ⟨forPositions, positions_gave, ruled⟩ := ok_of_bind ruled
  obtain ⟨forCell, cell_gave, ruled⟩ := ok_of_bind ruled
  have positions_given := onNeed_gives positions_gave
  have cell_given := onNeed_gives cell_gave
  exact ⟨forPositions, forCell, (Except.ok.inj ruled).symm,
    ⟨positions_given.1,
      fun outcome given => positionsBackward_kind (positions_given.2 outcome given)⟩,
    cell_given.1, fun outcome given => cellBackward_kind (cell_given.2 outcome given)⟩

include sound list_sound holds placed valid

/-- **When a registration carries gradients back**: exactly if it is given what it needs. -/
theorem bridge_iff :
    (∃ outcomes, (linkNode tape system list).rule (linkNode tape system list).context gradient =
      .ok outcomes) ↔ Feeds tape system list gradient.data := by
  have table_valid : list.samples.values.data.Valid := holds.knows list_sound.samples.1.known
  have there := sound.placed placed
  have positions := positionsBackward_iff table_valid valid (holds.knows (sound.known .positions))
    (there .positions) sound.positions.2 sound.positions.1
  have cell_floating : system.cell.dtype.isFloating := by
    rw [sound.cell.2]
    exact sound.positions.2
  have cell := cellBackward_iff table_valid valid (holds.knows (sound.known .cell)) (there .cell)
    cell_floating sound.cell.1
  have both : (∃ outcomes, (linkNode tape system list).rule (linkNode tape system list).context
      gradient = .ok outcomes) ↔
      ((tape.state system.positions.number).requiresGrad → ∃ outcome, positionsBackward
        system.positions.data list.samples.values.data gradient.data = .ok outcome) ∧
      ((tape.state system.cell.number).requiresGrad → ∃ outcome, cellBackward
        system.cell.data list.samples.values.data gradient.data = .ok outcome) := by
    rw [linkNode_rule, ← onNeed_iff, ← onNeed_iff]
    constructor
    · rintro ⟨outcomes, ruled⟩
      obtain ⟨forPositions, positions_gave, ruled⟩ := ok_of_bind ruled
      obtain ⟨forCell, cell_gave, _⟩ := ok_of_bind ruled
      exact ⟨⟨forPositions, positions_gave⟩, forCell, cell_gave⟩
    · rintro ⟨⟨forPositions, positions_gave⟩, forCell, cell_gave⟩
      rw [positions_gave, cell_gave]
      exact ⟨_, rfl⟩
  -- Both gradients need data that match; only the positions ask where the atoms are.
  rw [both]
  refine (and_congr (imp_congr_right fun _ => positions) (imp_congr_right fun _ => cell)).trans ?_
  constructor
  · rintro ⟨forPositions, forCell⟩ needed
    by_cases first : (tape.state system.positions.number).requiresGrad
    · obtain ⟨pairs, matched, inRange⟩ := forPositions first
      exact ⟨pairs, matched, fun _ => inRange⟩
    · obtain ⟨pairs, matched⟩ := forCell (needed.resolve_left first)
      exact ⟨pairs, matched, fun second => absurd second first⟩
  · intro feeds
    refine ⟨fun first => ?_, fun second => ?_⟩
    · obtain ⟨pairs, matched, inRange⟩ := feeds (.inl first)
      exact ⟨pairs, matched, inRange first⟩
    · obtain ⟨pairs, matched, _⟩ := feeds (.inr second)
      exact ⟨pairs, matched⟩

end Rule

end NeighborList

end Atomistic
