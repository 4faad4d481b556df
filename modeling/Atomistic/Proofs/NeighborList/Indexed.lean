import Atomistic.Proofs.NeighborList.Backward

/-!
# The backward rule on flat data

The backward rule of a registration once more, as a program on flat data that checks every
index before it is used and every product before it is trusted to fit in 64 bits.  On the data
of tensors no check ever fails, and the result is that of the rule
(`Atomistic.NeighborList.Flat.rule_eq`).
-/

namespace Atomistic

namespace NeighborList

/-- Why a program with checks stops: at a check that fails, or because the rule says so. -/
inductive Stop
  | panic
  | refused (fault : TensorError)

namespace Flat

section Checks

variable {α : Type}

/-- The entry in a place. -/
def entry (entries : List α) (place : Nat) : Except Stop α :=
  match entries[place]? with
  | some value => .ok value
  | none => .error .panic

/-- The entries from a place up to another. -/
def slice (entries : List α) (start stop : Nat) : Except Stop (List α) :=
  if start ≤ stop ∧ stop ≤ entries.length then .ok ((entries.take stop).drop start)
  else .error .panic

/-- Consecutive pieces of a width, of which the last may be shorter. -/
def pieces (width : Nat) (entries : List α) : List (List α) :=
  match entries with
  | [] => []
  | first :: rest => (first :: rest.take (width - 1)) :: pieces width (rest.drop (width - 1))
termination_by entries.length
decreasing_by simp only [List.length_drop, List.length_cons]; omega

/-- A number, if it fits in 64 bits. -/
def fitting (count : Nat) : Except Stop Nat :=
  if count < 0x10000000000000000 then .ok count else .error .panic

/-- The number of elements of a shape. -/
def elements (shape : Shape) : Except Stop Nat :=
  match shape.checkedCount with
  | some count => .ok count
  | none => .error .panic

/-- Add a term to the entry in a place. -/
def increase [Scalar α] (entries : List α) (place : Nat) (term : α) : Except Stop (List α) :=
  if place < entries.length then .ok (entries.modify place fun old => Scalar.add old term)
  else .error .panic

end Checks

section Sums

variable {α : Type} [Scalar α]

/-- Add a vector, times a sign, to the entries of the atom that a column of its pair says. -/
def scatterPair (atoms column : Nat) (sign : α) (table : List α) (found : List Int × List α) :
    Except Stop (List α) := do
  let row ← (Pair.atomRow atoms (← entry found.1 column)).mapError fun fault =>
    .refused (.backward bridgeName fault)
  [0, 1, 2].foldlM (fun table axis => do
    increase table (← fitting (3 * row + axis)) (Scalar.mul sign (← entry found.2 axis))) table

/-- Add every vector, times a sign, to the entries of an atom of its pair. -/
def scatter (atoms column : Nat) (sign : α) (samples : List Int) (gradient table : List α) :
    Except Stop (List α) :=
  ((pieces 5 samples).zip (pieces 3 gradient)).foldlM (scatterPair atoms column sign) table

/-- The gradient for the positions of a number of atoms. -/
def positions (atoms : Nat) (samples : List Int) (gradient : List α) : Except Stop (List α) := do
  let table := List.replicate (← fitting (3 * atoms)) Scalar.zero
  let table ← scatter atoms 1 (Scalar.ofInt 1) samples gradient table
  scatter atoms 0 (Scalar.ofInt (-1)) samples gradient table

/-- Add a vector to each row of a cell, as often as the shift of its pair says. -/
def cellPair (cell : List α) (found : List Int × List α) : Except Stop (List α) := do
  let shift ← slice found.1 2 5
  [0, 1, 2].foldlM (fun cell row =>
    [0, 1, 2].foldlM (fun cell axis => do
      increase cell (3 * row + axis)
        (Scalar.mul (Scalar.ofInt (← entry shift row)) (← entry found.2 axis))) cell) cell

/-- The gradient for a cell. -/
def cell (samples : List Int) (gradient : List α) : Except Stop (List α) :=
  ((pieces 5 samples).zip (pieces 3 gradient)).foldlM cellPair (List.replicate 9 Scalar.zero)

end Sums

/-- The samples and the gradient as flat data, after their shapes have been compared. -/
def data (samples gradient : Dense) : Except Stop (List Int × List Binary64) := do
  let pairs := samples.shape.headD 0
  if samples.shape ≠ [pairs, 5] then
    throw (.refused (.backward bridgeName (.sampleTable samples.shape)))
  if (← elements gradient.shape) ≠ (← fitting (3 * pairs)) then
    throw (.refused (.backward bridgeName (.gradientShape pairs gradient.shape)))
  let samples ← samples.toIntegers.mapError .refused
  let gradient ← gradient.toFloats.mapError .refused
  return (samples, gradient)

/-- Values in the shape, type and place of other data. -/
def like (data : Dense) (values : List Binary64) : Except Stop Outcome := do
  let made ← (Dense.ofFloats values data.shape data.dtype).mapError .refused
  return ⟨← (made.convert data.dtype data.device).mapError .refused, none⟩

/-- The gradient for the positions. -/
def positionsBackward (positions samples gradient : Dense) : Except Stop Outcome := do
  if positions.device.isMeta then
    let _ ← elements positions.shape
    return ⟨.onMeta positions.shape positions.dtype, none⟩
  let (samples, gradient) ← data samples gradient
  let atoms ← entry positions.shape 0
  like positions (← Flat.positions atoms samples gradient)

/-- The gradient for the cell. -/
def cellBackward (cell samples gradient : Dense) : Except Stop Outcome := do
  if cell.device.isMeta then
    let _ ← elements cell.shape
    return ⟨.onMeta cell.shape cell.dtype, none⟩
  let (samples, gradient) ← data samples gradient
  like cell (← Flat.cell samples gradient)

/-- The backward rule. -/
def rule (context : Context) (gradient : View) : Except Stop (List (Option Outcome)) := do
  let positions ← entry context.saved 0
  let cell ← entry context.saved 1
  let samples ← entry context.saved 3
  let forPositions ←
    if context.needsGrad 0 then
      some <$> positionsBackward positions.data samples.data gradient.data
    else pure none
  let forCell ←
    if context.needsGrad 1 then
      some <$> cellBackward cell.data samples.data gradient.data
    else pure none
  return [forPositions, forCell]

section Pieces

/-- The columns of a pair. -/
def columns (pair : Pair) : List Int := pair.first :: pair.second :: pair.shift.toList

private theorem pieces_samples {pairs : Nat} {samples : List Int}
    (count : samples.length = 5 * pairs) :
    pieces 5 samples = (Pair.rows samples).map columns := by
  induction pairs generalizing samples with
  | zero =>
      rw [List.length_eq_zero_iff.mp count, pieces]
      rfl
  | succ pairs ih =>
      match samples, count with
      | first :: second :: a :: b :: c :: rest, count =>
          have fewer : rest.length = 5 * pairs := by
            simp only [List.length_cons] at count
            omega
          rw [pieces, Pair.rows, List.map_cons, ← ih fewer]
          rfl

private theorem pieces_gradient {α : Type} {pairs : Nat} {gradient : List α}
    (count : gradient.length = 3 * pairs) :
    pieces 3 gradient = (Vec3.rows gradient).map Vec3.toList := by
  induction pairs generalizing gradient with
  | zero =>
      rw [List.length_eq_zero_iff.mp count, pieces]
      rfl
  | succ pairs ih =>
      match gradient, count with
      | x :: y :: z :: rest, count =>
          have fewer : rest.length = 3 * pairs := by
            simp only [List.length_cons] at count
            omega
          rw [pieces, Vec3.rows, List.map_cons, ← ih fewer]
          rfl

private theorem zip_pieces {α : Type} {pairs : Nat} {samples : List Int} {gradient : List α}
    (samples_count : samples.length = 5 * pairs)
    (gradient_count : gradient.length = 3 * pairs) :
    (pieces 5 samples).zip (pieces 3 gradient) =
      ((Pair.rows samples).zip (Vec3.rows gradient)).map (Prod.map columns Vec3.toList) := by
  rw [pieces_samples samples_count, pieces_gradient gradient_count, List.zip_map]

end Pieces

section Sums

variable {α : Type} [Scalar α]

/-- Three entries in a row of a flat table are the row. -/
theorem modify_flatten (table : List (Vec3 α)) (row : Nat) (v : Vec3 α) :
    ((((Vec3.flatten table).modify (3 * row) fun old => Scalar.add old v.x).modify (3 * row + 1)
      fun old => Scalar.add old v.y).modify (3 * row + 2) fun old => Scalar.add old v.z) =
      Vec3.flatten (table.modify row fun old => old.add v) := by
  induction table generalizing row with
  | nil => simp [Vec3.flatten]
  | cons w rest ih =>
      cases row with
      | zero => rfl
      | succ row => exact congrArg (w.toList ++ ·) (ih row)

/-- Adding to the three entries of a row that is there passes all checks. -/
theorem increase_row {table : List (Vec3 α)} {row : Nat} (inside : row < table.length)
    (fits : 3 * table.length < 0x10000000000000000) (sign : α) (v : Vec3 α) :
    [0, 1, 2].foldlM (fun entries axis => do
      increase entries (← fitting (3 * row + axis)) (Scalar.mul sign (← entry v.toList axis)))
        (Vec3.flatten table) =
      .ok (Vec3.flatten (table.modify row fun old => old.add (.scale sign v))) := by
  -- The table itself fits in 64 bits, so the place of each of its entries does.
  have small {axis : Nat} (bound : axis < 3) : fitting (3 * row + axis) = .ok (3 * row + axis) :=
    if_pos (by omega)
  have there {entries : List α} (length : entries.length = 3 * table.length) {axis : Nat}
      (bound : axis < 3) (term : α) : increase entries (3 * row + axis) term =
        .ok (entries.modify (3 * row + axis) fun old => Scalar.add old term) :=
    if_pos (by omega)
  have x : entry v.toList 0 = .ok v.x := rfl
  have y : entry v.toList 1 = .ok v.y := rfl
  have z : entry v.toList 2 = .ok v.z := rfl
  have length := Vec3.length_flatten table
  rw [← modify_flatten]
  simp only [List.foldlM_cons, List.foldlM_nil, x, y, z, small (by decide : 0 < 3),
    small (by decide : 1 < 3), small (by decide : 2 < 3), ok_bind]
  rw [there length (by decide), ok_bind, there (by rw [List.length_modify, length]) (by decide),
    ok_bind, there (by rw [List.length_modify, List.length_modify, length]) (by decide)]
  rfl

/-- What stops a table of vectors, for a flat table. -/
def flattened (result : Except RuleFault (List (Vec3 α))) : Except Stop (List α) :=
  match result with
  | .ok table => .ok (Vec3.flatten table)
  | .error fault => .error (.refused (.backward bridgeName fault))

private theorem scatterPair_eq {atoms column : Nat} {atom : Pair → Int}
    (reads : ∀ pair, entry (columns pair) column = .ok (atom pair)) (sign : α)
    {table : List (Vec3 α)} (count : table.length = atoms) (fits : 3 * atoms < 0x10000000000000000)
    (found : Pair × Vec3 α) :
    scatterPair atoms column sign (Vec3.flatten table) (Prod.map columns Vec3.toList found) =
      flattened (do
        let row ← Pair.atomRow atoms (atom found.1)
        return table.modify row fun old => old.add (.scale sign found.2)) := by
  subst count
  rw [scatterPair, Prod.map, reads, ok_bind]
  -- The row is looked for first, and only a row that is there is written to.
  by_cases there : 0 ≤ atom found.1 ∧ atom found.1 < table.length
  · have inside : (atom found.1).toNat < table.length := by omega
    rw [Pair.atomRow, if_pos there]
    exact increase_row inside fits sign found.2
  · rw [Pair.atomRow, if_neg there]
    rfl

variable {pairs : Nat} {samples : List Int} {gradient : List α}

private theorem scatter_eq (samples_count : samples.length = 5 * pairs)
    (gradient_count : gradient.length = 3 * pairs) {atoms column : Nat} {atom : Pair → Int}
    (reads : ∀ pair, entry (columns pair) column = .ok (atom pair)) (sign : α)
    {table : List (Vec3 α)} (count : table.length = atoms)
    (fits : 3 * atoms < 0x10000000000000000) :
    scatter atoms column sign samples gradient (Vec3.flatten table) =
      flattened (Pair.scatter atoms sign atom
        ((Pair.rows samples).zip (Vec3.rows gradient)) table) := by
  rw [scatter, zip_pieces samples_count gradient_count, List.foldlM_map]
  generalize (Pair.rows samples).zip (Vec3.rows gradient) = gradients
  induction gradients generalizing table with
  | nil => rfl
  | cons found rest ih =>
      rw [Pair.scatter, List.foldlM_cons, List.foldlM_cons, scatterPair_eq reads sign count fits]
      cases Pair.atomRow atoms (atom found.1) with
      | error fault => rfl
      | ok row => exact ih (by rw [List.length_modify, count])

private theorem replicate_zero (atoms : Nat) : List.replicate (3 * atoms) (Scalar.zero : α) =
    Vec3.flatten (List.replicate atoms Vec3.zero) := by
  induction atoms with
  | zero => rfl
  | succ atoms ih =>
      rw [List.replicate_succ, Nat.mul_succ, Nat.add_comm, List.replicate_add, ih]
      rfl

/-- No check fails for the positions. -/
theorem positions_eq (samples_count : samples.length = 5 * pairs)
    (gradient_count : gradient.length = 3 * pairs) {atoms : Nat}
    (fits : 3 * atoms < 0x10000000000000000) :
    positions atoms samples gradient =
      flattened (Pair.positionsGradient atoms ((Pair.rows samples).zip (Vec3.rows gradient))) := by
  have small : fitting (3 * atoms) = .ok (3 * atoms) := if_pos fits
  have length : (List.replicate atoms (Vec3.zero : Vec3 α)).length = atoms := List.length_replicate
  have first := @scatter_eq α _ pairs samples gradient samples_count gradient_count atoms 1
    Pair.second (fun _ => rfl) (Scalar.ofInt 1) (List.replicate atoms Vec3.zero) length fits
  rw [positions, small, ok_bind, replicate_zero]
  dsimp only
  rw [first, Pair.positionsGradient]
  cases scattered : Pair.scatter atoms (Scalar.ofInt 1) Pair.second
      ((Pair.rows samples).zip (Vec3.rows gradient)) (List.replicate atoms Vec3.zero) with
  | error fault => rfl
  | ok middle =>
      exact scatter_eq samples_count gradient_count (fun _ => rfl) (Scalar.ofInt (-1))
        ((Pair.scatter_length scattered).trans length) fits

private theorem cellPair_eq (cell : Vec3 (Vec3 α)) (found : Pair × Vec3 α) :
    cellPair (Vec3.flatten cell.toList) (Prod.map columns Vec3.toList found) =
      .ok (Vec3.flatten (Vec3.map₂ (fun row times =>
        row.add (.scale (Scalar.ofInt times) found.2)) cell found.1.shift).toList) := rfl

/-- No check fails for the cell. -/
theorem cell_eq (samples_count : samples.length = 5 * pairs)
    (gradient_count : gradient.length = 3 * pairs) :
    cell samples gradient = .ok (Vec3.flatten
      (Pair.cellGradient ((Pair.rows samples).zip (Vec3.rows gradient))).toList) := by
  have start : List.replicate 9 (Scalar.zero : α) =
      Vec3.flatten (Vec3.constant (Vec3.zero : Vec3 α)).toList := rfl
  rw [cell, zip_pieces samples_count gradient_count, List.foldlM_map, Pair.cellGradient, start]
  generalize (Pair.rows samples).zip (Vec3.rows gradient) = gradients
  generalize Vec3.constant (Vec3.zero : Vec3 α) = sum
  induction gradients generalizing sum with
  | nil => rfl
  | cons found rest ih =>
      rw [List.foldlM_cons, List.foldl_cons, cellPair_eq, ok_bind]
      exact ih _

end Sums

section Rule

variable {samples gradient : Dense}

private theorem elements_eq {data : Dense} (valid : data.Valid) :
    elements data.shape = .ok data.count := by
  obtain ⟨count, counted⟩ := valid.counted
  rw [elements, counted, Dense.count, Shape.count_of_checked counted]

private theorem like_eq (data : Dense) (values : List (Vec3 Binary64)) :
    like data (Vec3.flatten values) = (valuesLike data values).mapError .refused := by
  rw [like, valuesLike]
  cases Dense.ofFloats (Vec3.flatten values) data.shape data.dtype with
  | error fault => rfl
  | ok made =>
      simp only [Except.mapError, ok_bind]
      cases made.convert data.dtype data.device <;> rfl

/-- The data of samples and of a gradient is read flat just as it is read in rows. -/
theorem data_cases (samples_valid : samples.Valid) (gradient_valid : gradient.Valid) :
    (∃ fault, pairGradients samples gradient = .error fault ∧
      data samples gradient = .error (.refused fault)) ∨
    ∃ pairs entries values, data samples gradient = .ok (entries, values) ∧
      entries.length = 5 * pairs ∧ values.length = 3 * pairs ∧
      pairGradients samples gradient = .ok ((Pair.rows entries).zip (Vec3.rows values)) := by
  have head : samples.shape.headD 0 = samples.size 0 := by
    rw [Dense.size]
    cases samples.shape <;> rfl
  rw [data, pairGradients, head]
  by_cases shape : samples.shape = [samples.size 0, 5]
  · have five : samples.count = 5 * samples.size 0 :=
      (Dense.count_table shape).trans (Nat.mul_comm _ _)
    have fits := samples_valid.count_lt
    have small : 3 * samples.size 0 < 0x10000000000000000 := by omega
    have expected : fitting (3 * samples.size 0) = .ok (3 * samples.size 0) := if_pos small
    rw [if_neg (not_not.mpr shape), if_neg (not_not.mpr shape), elements_eq gradient_valid,
      expected]
    simp only [ok_bind]
    by_cases count : gradient.count = 3 * samples.size 0
    · rw [if_neg (not_not.mpr count), if_neg (not_not.mpr count)]
      cases samples_read : samples.toIntegers with
      | error fault => exact .inl ⟨fault, rfl, rfl⟩
      | ok entries =>
          cases gradient_read : gradient.toFloats with
          | error fault => exact .inl ⟨fault, rfl, rfl⟩
          | ok values =>
              exact .inr ⟨samples.size 0, entries, values, rfl,
                (samples_valid.length_toIntegers samples_read).trans five,
                (gradient_valid.length_toFloats gradient_read).trans count, rfl⟩
    · rw [if_pos count, if_pos count]
      exact .inl ⟨_, rfl, rfl⟩
  · rw [if_pos shape, if_pos shape]
    exact .inl ⟨_, rfl, rfl⟩

variable (samples_valid : samples.Valid) (gradient_valid : gradient.Valid)

include samples_valid gradient_valid

private theorem positionsBackward_eq {positions : Dense} (valid : positions.Valid) {atoms : Nat}
    (shape : positions.shape = [atoms, 3]) :
    positionsBackward positions samples gradient =
      (NeighborList.positionsBackward positions samples gradient).mapError .refused := by
  have height : entry positions.shape 0 = .ok (positions.size 0) := by
    rw [Dense.size, shape]
    rfl
  have small : 3 * positions.size 0 < 0x10000000000000000 := by
    have fits := valid.count_lt
    rw [Dense.count_table shape, Nat.mul_comm] at fits
    rw [Dense.size, shape]
    exact fits
  rw [positionsBackward, NeighborList.positionsBackward]
  split
  · rw [elements_eq valid]
    rfl
  · rcases data_cases samples_valid gradient_valid with ⟨fault, unread, stopped⟩ |
      ⟨pairs, entries, values, read, five, three, rows⟩
    · rw [unread, stopped]
      rfl
    · rw [read, rows, ok_bind, ok_bind]
      dsimp only
      rw [height, ok_bind, positions_eq five three small]
      cases Pair.positionsGradient (positions.size 0)
          ((Pair.rows entries).zip (Vec3.rows values)) with
      | error fault => rfl
      | ok table => exact like_eq positions table

private theorem cellBackward_eq {cell : Dense} (valid : cell.Valid) :
    cellBackward cell samples gradient =
      (NeighborList.cellBackward cell samples gradient).mapError .refused := by
  rw [cellBackward, NeighborList.cellBackward]
  split
  · rw [elements_eq valid]
    rfl
  · rcases data_cases samples_valid gradient_valid with ⟨fault, unread, stopped⟩ |
      ⟨pairs, entries, values, read, five, three, rows⟩
    · rw [unread, stopped]
      rfl
    · rw [read, rows, ok_bind, ok_bind]
      dsimp only
      rw [cell_eq five three]
      exact like_eq cell _

end Rule

/-- **No check of the backward rule ever fails**, whatever the list and the gradient are. -/
theorem rule_eq {tape : Tape} {system : System} {list : Block} {gradient : View}
    (sound : system.Sound tape) (list_sound : list.Sound tape) (holds : tape.Holds Dense.Valid)
    (valid : gradient.data.Valid) :
    rule (linkNode tape system list).context gradient =
      ((linkNode tape system list).rule (linkNode tape system list).context gradient).mapError
        .refused := by
  have samples_valid : list.samples.values.data.Valid := holds.knows list_sound.samples.1.known
  have positions_known : tape.Knows system.positions := sound.known .positions
  have cell_known : tape.Knows system.cell := sound.known .cell
  have forPositions := positionsBackward_eq samples_valid valid (holds.knows positions_known)
    sound.positions.1
  have forCell := cellBackward_eq samples_valid valid (holds.knows cell_known)
  rw [linkNode_rule, rule]
  change (do
    let given ← if (tape.state system.positions.number).requiresGrad then
      some <$> positionsBackward system.positions.data list.samples.values.data gradient.data
      else pure none
    let other ← if (tape.state system.cell.number).requiresGrad then
      some <$> cellBackward system.cell.data list.samples.values.data gradient.data
      else pure none
    return [given, other]) = _
  rw [forPositions, forCell, onNeed, onNeed]
  generalize NeighborList.positionsBackward _ _ _ = forPositions
  generalize NeighborList.cellBackward _ _ _ = forCell
  cases (tape.state system.positions.number).requiresGrad <;>
    cases (tape.state system.cell.number).requiresGrad <;>
    cases forPositions <;> cases forCell <;> rfl

end Flat

end NeighborList

end Atomistic
