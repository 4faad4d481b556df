import Atomistic.Proofs.NeighborList.Layout
import Atomistic.Proofs.NeighborList.Transpose
import Atomistic.Proofs.System.Sound

/-!
# Neighbor lists that agree with a system

The checks of a registration as one list of everything that can be objected to a neighbor
list, in the order in which it is looked at (`Atomistic.NeighborList.objections`).  The
checks fail with the first objection (`Atomistic.NeighborList.checks_eq`), and there is
none exactly if the list agrees with the system (`Atomistic.NeighborList.Consistent`).
-/

namespace Atomistic

instance : Zero Binary64 := ⟨.zero⟩

/-- The vector in a row of a table with three columns. -/
def Dense.vector (d : Dense) (row : Nat) : Vec3 Binary64 :=
  let entries := d.toFloats.toOption.getD []
  ⟨entryAt 3 entries row 0, entryAt 3 entries row 1, entryAt 3 entries row 2⟩

/-- The pair in a row of a table with five columns. -/
def Dense.pair (d : Dense) (row : Nat) : Pair :=
  let entries := d.toIntegers.toOption.getD []
  ⟨entryAt 5 entries row 0, entryAt 5 entries row 1,
    ⟨entryAt 5 entries row 2, entryAt 5 entries row 3, entryAt 5 entries row 4⟩⟩

namespace Dense

/-- The values of a table with three columns are its vectors, row by row. -/
theorem rows_eq_vectors {d : Dense} {entries : List Binary64} {rows : Nat}
    (read : d.toFloats = .ok entries) (count : entries.length = 3 * rows) :
    Vec3.rows entries = (List.range rows).map d.vector := by
  have length := Vec3.length_rows count
  refine List.ext_getElem? fun row => ?_
  by_cases inside : row < rows
  · rw [Vec3.rows_getElem? count inside, List.getElem?_map, List.getElem?_range inside,
      Option.map_some, vector, read]
    rfl
  · rw [List.getElem?_eq_none (by omega), List.getElem?_eq_none (by simpa using inside)]

/-- The vector of an atom, also of one that there is not. -/
theorem getD_eq_vector {d : Dense} {entries : List Binary64} {rows : Nat}
    (read : d.toFloats = .ok entries) (count : entries.length = 3 * rows) (row : Nat) :
    (Vec3.rows entries).getD row .zero = d.vector row := by
  by_cases inside : row < rows
  · rw [rows_eq_vectors read count, List.getD_eq_getElem?_getD, List.getElem?_map,
      List.getElem?_range inside]
    rfl
  · have length := Vec3.length_rows count
    have outside (column : Nat) : entryAt 3 entries row column = 0 :=
      List.getD_eq_default _ _ (by omega)
    rw [List.getD_eq_default _ _ (by omega), vector, read]
    simp only [Except.toOption, Option.getD_some, outside]
    rfl

/-- The values of a table with five columns are its pairs, row by row. -/
theorem rows_eq_pairs {d : Dense} {entries : List Int} {rows : Nat}
    (read : d.toIntegers = .ok entries) (count : entries.length = 5 * rows) :
    Pair.rows entries = (List.range rows).map d.pair := by
  have length := Pair.length_rows count
  refine List.ext_getElem? fun row => ?_
  by_cases inside : row < rows
  · rw [Pair.rows_getElem? count inside, List.getElem?_map, List.getElem?_range inside,
      Option.map_some, pair, read]
    rfl
  · rw [List.getElem?_eq_none (by omega), List.getElem?_eq_none (by simpa using inside)]

/-- The three vectors of a cell. -/
def cellVectors (d : Dense) : Vec3 (Vec3 Binary64) := ⟨d.vector 0, d.vector 1, d.vector 2⟩

private theorem cellRows_eq_cellVectors {d : Dense} {entries : List Binary64}
    (read : d.toFloats = .ok entries) (count : entries.length = 9) :
    NeighborList.cellRows entries = d.cellVectors := by
  rw [NeighborList.cellRows, @rows_eq_vectors d entries 3 read count]
  rfl

end Dense

namespace NeighborList

section Objections

variable (tape : Tape) (system : System) (list : Block) (row : Nat)

/-- The pair in a row of a neighbor list. -/
def pairAt : Pair := list.samples.values.data.pair row

/-- A coordinate of the distance vector of a pair: the difference of the positions of its atoms,
and the sum of the cell vectors, each as often as the shift says.  Every step is rounded. -/
def expectedAt (coordinate : Vec3 Binary64 → Binary64) : Binary64 :=
  let pair := pairAt list row
  let position := fun atom : Int => coordinate (system.positions.data.vector atom.toNat)
  let edge := fun direction => coordinate (system.cell.data.vector direction)
  ((position pair.second).sub (position pair.first)).add
    (.sum [(Binary64.ofInt pair.shift.x).mul (edge 0), (Binary64.ofInt pair.shift.y).mul (edge 1),
      (Binary64.ofInt pair.shift.z).mul (edge 2)])

/-- The distance vector of a pair, computed from the positions and the cell. -/
def expected : Vec3 Binary64 :=
  ⟨expectedAt system list row Vec3.x, expectedAt system list row Vec3.y,
    expectedAt system list row Vec3.z⟩

/-- How far the distance vector that a list holds is from the computed one: the square root of
the sum of the squares of the differences.  Every step is rounded. -/
def discrepancy : Binary64 :=
  let gap := fun coordinate : Vec3 Binary64 → Binary64 =>
    (coordinate (list.values.data.vector row)).sub (expectedAt system list row coordinate)
  (Binary64.sum [(gap Vec3.x).mul (gap Vec3.x), (gap Vec3.y).mul (gap Vec3.y),
    (gap Vec3.z).mul (gap Vec3.z)]).sqrt

/-- How far it may be: one millionth for `float64`, and one ten-thousandth for `float32`. -/
def bound (dtype : DType) : Binary64 :=
  if dtype = .float64 then .ofDecimal false 1 (-6) else .ofDecimal false 1 (-4)

/-- The distance vector is the one that a check computes. -/
theorem distance_eq : (pairAt list row).distance system.positions.data.vector
    system.cell.data.cellVectors = expected system list row := rfl

/-- The discrepancy is the length that a check computes. -/
theorem norm_eq : norm ((list.values.data.vector row).sub (expected system list row)) =
    discrepancy system list row := rfl

private theorem tolerance_eq (dtype : DType) :
    tolerance dtype = bound dtype := by cases dtype <;> rfl

/-- What can be objected to a row, in order. -/
def rowObjections : List Error :=
  let pair := pairAt list row
  faultIf (pair.first < 0 ∨ (system.size : Int) ≤ pair.first)
      (.pairIndex .first pair.first system.size) ++
    (faultIf (pair.second < 0 ∨ (system.size : Int) ≤ pair.second)
        (.pairIndex .second pair.second system.size) ++
      faultIf (!(discrepancy system list row).atMost (bound list.values.dtype))
        (.pairMismatch ⟨pair.first, pair.second, pair.shift, expected system list row,
          list.values.data.vector row, discrepancy system list row⟩))

/-- What can be objected to a list before its pairs are looked at, in order. -/
def layoutObjections : List Error :=
  faultIf (system.positions.device ≠ list.values.device)
      (.registerDevice system.positions.device list.values.device) ++
    (faultIf (system.positions.dtype ≠ list.values.dtype)
        (.registerDType system.positions.dtype list.values.dtype) ++
      faults (checkLayout list))

/-- What can be objected to the pairs of a list, those of the first pair first.  On the meta
device no pair can be looked at. -/
def pairObjections : List Error :=
  faultIf system.positions.device.isMeta (.tensor (.metaData .floats)) ++
    (List.range list.samples.count).flatMap (rowObjections system list)

/-- Everything that can be objected to the registration of a list, in order. -/
def objections : List Error :=
  faultIf (tape.state list.values.number).requiresGrad .alreadyInGraph ++
    (layoutObjections system list ++ pairObjections system list)

/-- A pair of two atoms of a system whose distance vector is, as a number, close to the
computed one. -/
structure PairAgrees : Prop where
  inRange : (pairAt list row).InRange system.size
  number : (discrepancy system list row).isNaN = false
  close : (discrepancy system list row).atMost (bound list.values.dtype)

/-- A list outside of any graph that has the device and the element type of a system and
the layout of a neighbor list, and whose pairs can be looked at and agree with the
system. -/
structure Consistent : Prop where
  untracked : ¬ (tape.state list.values.number).requiresGrad
  device : system.positions.device = list.values.device
  dtype : system.positions.dtype = list.values.dtype
  layout : checkLayout list = .ok ()
  present : system.positions.device ≠ .metadata
  pairs : ∀ row < list.samples.count, PairAgrees system list row

end Objections

variable {tape : Tape} {system : System} {list : Block}

private theorem rowObjections_eq_nil {row : Nat} :
    rowObjections system list row = [] ↔ PairAgrees system list row := by
  simp only [rowObjections, List.append_eq_nil_iff, faultIf_eq_nil, not_or, not_lt, not_le,
    Bool.not_eq_true', Bool.not_eq_false]
  constructor
  · intro fine
    obtain ⟨first, second, close⟩ := fine
    refine ⟨⟨first, second⟩, ?_, close⟩
    simp only [Binary64.atMost, Bool.and_eq_true, Bool.not_eq_true'] at close
    exact close.1.1
  · exact fun agrees => ⟨agrees.inRange.1, agrees.inRange.2, agrees.close⟩

/-- There is no objection to the layout exactly if devices, element types and labels are right. -/
theorem layoutObjections_eq_nil : layoutObjections system list = [] ↔
    system.positions.device = list.values.device ∧ system.positions.dtype = list.values.dtype ∧
      checkLayout list = .ok () := by
  simp only [layoutObjections, List.append_eq_nil_iff, faultIf_eq_nil, faults_eq_nil, not_not]

/-- There is no objection to the pairs exactly if there are values and every pair agrees. -/
theorem pairObjections_eq_nil : pairObjections system list = [] ↔
    system.positions.device ≠ .metadata ∧
      ∀ row < list.samples.count, PairAgrees system list row := by
  simp only [pairObjections, List.append_eq_nil_iff, faultIf_eq_nil, Device.isMeta, beq_iff_eq,
    List.flatMap_eq_nil_iff, List.mem_range, rowObjections_eq_nil]

/-- Nothing can be objected to a list exactly if it agrees with the system. -/
theorem objections_eq_nil : objections tape system list = [] ↔ Consistent tape system list := by
  simp only [objections, List.append_eq_nil_iff, faultIf_eq_nil, layoutObjections_eq_nil,
    pairObjections_eq_nil]
  constructor
  · intro fine
    obtain ⟨untracked, ⟨device, dtype, layout⟩, present, agree⟩ := fine
    exact ⟨untracked, device, dtype, layout, present, agree⟩
  · exact fun fine =>
      ⟨fine.untracked, ⟨fine.device, fine.dtype, fine.layout⟩, fine.present, fine.pairs⟩

/-- No objection is about the amount of data of a list: that is right when the layout is. -/
theorem pairData_not_mem (sound : list.Sound tape) (holds : tape.Holds Dense.Valid)
    (columns values : Nat) : Error.pairData columns values ∉ objections tape system list := by
  have layout : Error.pairData columns values ∉ faults (checkLayout list) := by
    cases checked : checkLayout list with
    | ok => exact List.not_mem_nil
    | error fault =>
        intro member
        have about := checkLayout_error sound holds checked
        rw [← List.mem_singleton.mp member] at about
        simp at about
  simp only [objections, layoutObjections, pairObjections, rowObjections, faultIf, List.mem_append,
    List.mem_flatMap]
  grind

/-- The checks before the pairs fail with the first objection. -/
theorem checkAgainst_eq : checkAgainst system list = firstOf (layoutObjections system list) := by
  rw [checkAgainst, layoutObjections, firstOf_faultIf, firstOf_faultIf, firstOf_faults]
  rfl

section Pairs

variable {vectors cell : List Binary64} {row : Nat}

private theorem checkPair_eq (read : system.positions.data.toFloats = .ok vectors)
    (count : vectors.length = 3 * system.size) (cell_read : system.cell.data.toFloats = .ok cell)
    (nine : cell.length = 9) :
    checkPair (Vec3.rows vectors) (cellRows cell) system.size (tolerance list.values.dtype)
        (pairAt list row) (list.values.data.vector row) =
      firstOf (rowObjections system list row) := by
  have positions : (fun atom => (Vec3.rows vectors).getD atom .zero) =
      system.positions.data.vector := funext (Dense.getD_eq_vector read count)
  rw [checkPair, positions, Dense.cellRows_eq_cellVectors cell_read nine, distance_eq,
    rowObjections, firstOf_append, firstOf_append]
  simp only [norm_eq, tolerance_eq, checkAtom, check_eq_firstOf]

end Pairs

/-- The tables of a list with the right layout that is on the device of a system, and those
of the system, have as many entries as they have rows. -/
theorem tables (sound : system.Sound tape) (list_sound : list.Sound tape)
    (holds : tape.Holds Dense.Valid) (device : system.positions.device = list.values.device)
    (layout : checkLayout list = .ok ()) (present : system.positions.device ≠ .metadata) :
    (∃ vectors, system.positions.data.toFloats = .ok vectors ∧ vectors.length = 3 * system.size) ∧
    (∃ cell, system.cell.data.toFloats = .ok cell ∧ cell.length = 9) ∧
    (∃ samples, list.samples.values.data.toIntegers = .ok samples ∧
      samples.length = 5 * list.samples.count) ∧
    ∃ distances, list.values.data.toFloats = .ok distances ∧
      distances.length = 3 * list.samples.count := by
  obtain ⟨samples_shape, shape⟩ := shapes_of_layout list_sound layout
  have system_placed := sound.placed fun gone => present ((sound.together .positions).trans gone)
  have counted {data : Dense} {shape : Shape} {length : Nat} (same : data.shape = shape)
      (checked : data.shape.checkedCount = some length) : length = shape.count :=
    same ▸ (Shape.count_of_checked checked).symm
  obtain ⟨samples_sound, together⟩ := list_sound.samples
  cases list_sound with
  | mk known _ _ _ _ _ =>
      have samples_placed : list.samples.values.data.device ≠ .metadata := by
        rw [show list.samples.values.data.device = list.values.device from together, ← device]
        exact present
      obtain ⟨vectors, read, length⟩ := (holds.knows (sound.known .positions)).toFloats_ok
        (system_placed .positions)
      obtain ⟨cell, cell_read, cell_length⟩ := (holds.knows (sound.known .cell)).toFloats_ok
        (system_placed .cell)
      obtain ⟨samples, samples_read, samples_length⟩ :=
        (holds.knows samples_sound.known).toIntegers_ok samples_placed
      obtain ⟨distances, distances_read, distances_length⟩ := (holds.knows known).toFloats_ok
        (device ▸ present : list.values.device ≠ .metadata)
      have rows := counted sound.positions.1 length
      have nine := counted sound.cell.1 cell_length
      have pairs := counted samples_shape samples_length
      have triples := counted shape distances_length
      simp only [Shape.count, List.foldl_cons, List.foldl_nil] at rows nine pairs triples
      exact ⟨⟨vectors, read, by omega⟩, ⟨cell, cell_read, by omega⟩,
        ⟨samples, samples_read, by omega⟩, distances, distances_read, by omega⟩

/-- The check of the pairs fails with the first objection to them, and otherwise counts
them. -/
theorem checkPairs_eq (sound : system.Sound tape) (list_sound : list.Sound tape)
    (holds : tape.Holds Dense.Valid) (device : system.positions.device = list.values.device)
    (layout : checkLayout list = .ok ()) :
    checkPairs system.positions.data system.cell.data list =
      (firstOf (pairObjections system list) >>= fun _ => .ok list.samples.count) := by
  by_cases gone : system.positions.device = .metadata
  · have valid : system.positions.data.Valid := holds.knows (sound.known .positions)
    have unread : system.positions.data.toFloats = .error (.metaData .floats) := by
      rw [Dense.toFloats, valid.absent_iff.mpr gone]
    rw [checkPairs, unread, pairObjections, firstOf_faultIf, if_pos (by rw [gone]; rfl)]
    rfl
  · obtain ⟨⟨vectors, read, count⟩, ⟨cell, cell_read, nine⟩, ⟨samples, samples_read, pairs⟩,
      distances, distances_read, triples⟩ := tables sound list_sound holds device layout gone
    have five : list.samples.names.length = 5 := by rw [(checkLayout_ok layout).1]; rfl
    have atoms : system.positions.data.size 0 = system.size := by
      rw [Dense.size, show system.positions.data.shape = _ from sound.positions.1]
      rfl
    have rows : (Pair.rows samples).zip (Vec3.rows distances) =
        (List.range list.samples.count).map fun row =>
          (pairAt list row, list.values.data.vector row) := by
      rw [Dense.rows_eq_pairs samples_read pairs, Dense.rows_eq_vectors distances_read triples,
        List.zip_map']
      rfl
    have placed : ¬ system.positions.device.isMeta := by simpa [Device.isMeta] using gone
    rw [checkPairs, read, cell_read, samples_read, distances_read, pairObjections, firstOf_faultIf,
      if_neg placed]
    simp only [Except.mapError, ok_bind]
    have whole : ¬ (list.samples.names.length ≠ 5 ∨ distances.length ≠ 3 * list.samples.count) :=
      not_or.mpr ⟨not_not.mpr five, not_not.mpr triples⟩
    rw [if_neg whole, rows, List.forM_eq_forM, List.forM_map, atoms, Pair.length_rows pairs]
    exact congrArg (· >>= fun _ => .ok list.samples.count)
      (forM_eq_firstOf fun row _ => checkPair_eq read count cell_read nine)

end NeighborList

end Atomistic
