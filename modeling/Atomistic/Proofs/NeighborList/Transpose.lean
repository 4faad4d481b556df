import Atomistic.NeighborList.Bridge
import Mathlib.Algebra.BigOperators.Fin
import Mathlib.Algebra.BigOperators.Intervals
import Mathlib.Algebra.Ring.Int.Defs
import Mathlib.Data.List.GetD
import Mathlib.Tactic.Ring
import Mathlib.Tactic.IntervalCases

/-!
# Gradients of distance vectors are the transpose of distances

Over a commutative ring the distance vectors of a list of pairs are linear in the
positions and the cell. The maps that carry gradients of distance vectors back,
`Atomistic.Pair.positionsGradient` and `Atomistic.Pair.cellGradient`, are the two
blocks of the transpose of that map
(`Atomistic.NeighborList.positionsGradient_cellGradient_transpose`). All tables are
read in row-major order, so that a swapped column or a transposed cell would
break the identity.
-/

namespace Atomistic

open Finset

/-- Exact arithmetic: the operations of a commutative ring. An accumulator and a
sum start from the same zero. -/
instance Scalar.ofCommRing {α : Type} [CommRing α] : Scalar α where
  zero := 0
  neutral := 0
  add a b := a + b
  sub a b := a - b
  mul a b := a * b
  ofInt i := (i : α)

/-- The entry of a row-major table with rows of a width. -/
def entryAt {β : Type} [Zero β] (width : Nat) (table : List β) (row column : Nat) : β :=
  table.getD (width * row + column) 0

/-- The first rows of a table do not move the entries of later ones. -/
theorem entryAt_append {β : Type} [Zero β] {width : Nat} (front : List β)
    (full : front.length = width) (rest : List β) (row column : Nat) :
    entryAt width (front ++ rest) (row + 1) column = entryAt width rest row column := by
  have place : width * (row + 1) + column = front.length + (width * row + column) := by
    rw [full]
    ring
  rw [entryAt, place, List.getD_append_right _ _ _ _ (Nat.le_add_right _ _),
    Nat.add_sub_cancel_left, entryAt]

namespace Vec3

variable {α : Type}

/-- The coordinate with a number, counted from zero. -/
def coordinate (v : Vec3 α) : Nat → α
  | 0 => v.x
  | 1 => v.y
  | _ => v.z

/-- A vector has three entries. -/
@[simp] theorem length_flatten (vs : List (Vec3 α)) : (flatten vs).length = 3 * vs.length := by
  induction vs with
  | nil => rfl
  | cons v vs ih =>
      simp only [flatten, List.flatMap_cons, List.length_append, List.length_cons] at ih ⊢
      rw [ih, toList]
      simp only [List.length_cons, List.length_nil]
      ring

/-- A table of three columns has a row for every three entries. -/
theorem length_rows {rows : Nat} {table : List α} (count : table.length = 3 * rows) :
    (Vec3.rows table).length = rows := by
  induction rows generalizing table with
  | zero =>
      rw [List.length_eq_zero_iff.mp count]
      rfl
  | succ rows ih =>
      match table, count with
      | x :: y :: z :: rest, count =>
          have tailCount : rest.length = 3 * rows := by
            simp only [List.length_cons] at count
            omega
          rw [Vec3.rows, List.length_cons, ih tailCount]

/-- The rows of a flat table with three columns. -/
theorem rows_getElem? [Zero α] {rows : Nat} {table : List α} (count : table.length = 3 * rows)
    {row : Nat} (inside : row < rows) :
    (Vec3.rows table)[row]? =
      some ⟨entryAt 3 table row 0, entryAt 3 table row 1, entryAt 3 table row 2⟩ := by
  induction rows generalizing table row with
  | zero => exact absurd inside (Nat.not_lt_zero row)
  | succ rows ih =>
      match table, count with
      | x :: y :: z :: rest, count =>
          have tailCount : rest.length = 3 * rows := by
            simp only [List.length_cons] at count
            omega
          cases row with
          | zero => rfl
          | succ row =>
              have tail := ih tailCount (Nat.lt_of_succ_lt_succ inside)
              have shift (column : Nat) :
                  entryAt 3 (x :: y :: z :: rest) (row + 1) column = entryAt 3 rest row column :=
                entryAt_append [x, y, z] rfl rest row column
              rw [shift, shift, shift, ← tail]
              rfl

variable [CommRing α]

private theorem getD_rows {rows : Nat} {table : List α} (count : table.length = 3 * rows)
    {row : Nat}
    (inside : row < rows) :
    (Vec3.rows table).getD row Vec3.zero =
      ⟨entryAt 3 table row 0, entryAt 3 table row 1, entryAt 3 table row 2⟩ := by
  rw [List.getD_eq_getElem?_getD, rows_getElem? count inside]
  rfl

/-- The entries of the flat table of a list of vectors. -/
theorem entryAt_flatten (vs : List (Vec3 α)) (row : Nat) {column : Nat} (inside : column < 3) :
    entryAt 3 (flatten vs) row column = (vs.getD row Vec3.zero).coordinate column := by
  induction vs generalizing row with
  | nil =>
      interval_cases column <;> simp [entryAt, flatten, zero, constant, coordinate, Scalar.zero]
  | cons v vs ih =>
      cases row with
      | zero => interval_cases column <;> rfl
      | succ row => exact (entryAt_append v.toList rfl (flatten vs) row column).trans (ih row)

/-- The product of two vectors, summed over the coordinates. -/
def dot (v w : Vec3 α) : α := v.x * w.x + v.y * w.y + v.z * w.z

private theorem dot_eq_sum (v w : Vec3 α) :
    v.dot w = ∑ k ∈ range 3, v.coordinate k * w.coordinate k := by
  simp only [sum_range_succ, sum_range_zero, zero_add, dot, coordinate]

@[simp] private theorem dot_zero (v : Vec3 α) : v.dot Vec3.zero = 0 := by
  simp [dot, zero, constant, Scalar.zero]

@[simp] private theorem dot_add (v w u : Vec3 α) : v.dot (w.add u) = v.dot w + v.dot u := by
  simp only [dot, add, map₂, Scalar.add]
  ring

@[simp] private theorem dot_sub (v w u : Vec3 α) : v.dot (w.sub u) = v.dot w - v.dot u := by
  simp only [dot, sub, map₂, Scalar.sub]
  ring

@[simp] private theorem dot_scale (v w : Vec3 α) (a : α) : v.dot (w.scale a) = a * v.dot w := by
  simp only [dot, scale, map, Scalar.mul]
  ring

private theorem dot_comm (v w : Vec3 α) : v.dot w = w.dot v := by
  simp only [dot]
  ring

end Vec3

namespace Pair

/-- The rows of a flat sample table. -/
theorem rows_getElem? {pairs : Nat} {samples : List Int} (count : samples.length = 5 * pairs)
    {row : Nat} (inside : row < pairs) :
    (rows samples)[row]? = some
      ⟨entryAt 5 samples row 0, entryAt 5 samples row 1,
        ⟨entryAt 5 samples row 2, entryAt 5 samples row 3, entryAt 5 samples row 4⟩⟩ := by
  induction pairs generalizing samples row with
  | zero => exact absurd inside (Nat.not_lt_zero row)
  | succ pairs ih =>
      match samples, count with
      | first :: second :: a :: b :: c :: rest, count =>
          have tailCount : rest.length = 5 * pairs := by
            simp only [List.length_cons] at count
            omega
          cases row with
          | zero => rfl
          | succ row =>
              have tail := ih tailCount (Nat.lt_of_succ_lt_succ inside)
              have shift (column : Nat) :
                  entryAt 5 (first :: second :: a :: b :: c :: rest) (row + 1) column =
                    entryAt 5 rest row column :=
                entryAt_append [first, second, a, b, c] rfl rest row column
              rw [shift, shift, shift, shift, shift, ← tail]
              rfl

/-- A table of five columns has a pair for every five entries. -/
theorem length_rows {pairs : Nat} {samples : List Int} (count : samples.length = 5 * pairs) :
    (rows samples).length = pairs := by
  induction pairs generalizing samples with
  | zero =>
      rw [List.length_eq_zero_iff.mp count]
      rfl
  | succ pairs ih =>
      match samples, count with
      | first :: second :: a :: b :: c :: rest, count =>
          have tailCount : rest.length = 5 * pairs := by
            simp only [List.length_cons] at count
            omega
          rw [rows, List.length_cons, ih tailCount]

variable {α : Type} [CommRing α]

/-- Both atoms of a pair are among a number of atoms. -/
def InRange (atoms : Nat) (pair : Pair) : Prop :=
  (0 ≤ pair.first ∧ pair.first < atoms) ∧ (0 ≤ pair.second ∧ pair.second < atoms)

/-- A table of vectors, one for each atom, paired with positions. -/
def pairing (positions : Nat → Vec3 α) (table : List (Vec3 α)) : α :=
  ∑ atom ∈ range table.length, (positions atom).dot (table.getD atom Vec3.zero)

/-- A change of one row changes a pairing by the change of that row alone. -/
theorem pairing_modify (positions : Nat → Vec3 α) (table : List (Vec3 α)) {row : Nat}
    (inside : row < table.length) (u : Vec3 α) :
    pairing positions (table.modify row fun old => old.add u) =
      pairing positions table + (positions row).dot u := by
  have entry (atom : Nat) (bound : atom ∈ range table.length) :
      (positions atom).dot ((table.modify row fun old => old.add u).getD atom Vec3.zero) =
        (positions atom).dot (table.getD atom Vec3.zero) +
          if atom = row then (positions row).dot u else 0 := by
    have present := mem_range.mp bound
    rw [List.getD_eq_getElem _ _ (by rw [List.length_modify]; exact present),
      List.getD_eq_getElem _ _ present, List.getElem_modify]
    by_cases same : row = atom
    · subst same
      rw [if_pos rfl, if_pos rfl, Vec3.dot_add]
    · rw [if_neg same, if_neg (Ne.symm same), add_zero]
  rw [pairing, List.length_modify, sum_congr rfl entry, sum_add_distrib,
    sum_ite_eq' (range table.length) row, if_pos (mem_range.mpr inside), pairing]

/-- Scattering succeeds on atoms that exist. It keeps the number of rows, and
adds to a pairing what the gradients contribute at their atoms. -/
theorem scatter_of_inRange (positions : Nat → Vec3 α) (sign : α) (atom : Pair → Int)
    (gradients : List (Pair × Vec3 α)) (table : List (Vec3 α))
    (inRange : ∀ entry ∈ gradients, 0 ≤ atom entry.1 ∧ atom entry.1 < table.length) :
    ∃ scattered, scatter table.length sign atom gradients table = .ok scattered ∧
      scattered.length = table.length ∧
      pairing positions scattered = pairing positions table +
        (gradients.map fun entry =>
          sign * entry.2.dot (positions (atom entry.1).toNat)).sum := by
  induction gradients generalizing table with
  | nil => exact ⟨table, rfl, rfl, by rw [List.map_nil, List.sum_nil, add_zero]⟩
  | cons entry gradients ih =>
      have here := inRange entry List.mem_cons_self
      have inside : (atom entry.1).toNat < table.length := by omega
      let next := table.modify (atom entry.1).toNat fun old => old.add (.scale sign entry.2)
      have kept : next.length = table.length := List.length_modify ..
      obtain ⟨scattered, succeeds, count, paired⟩ := ih next (by
        rw [kept]
        exact fun later member => inRange later (List.mem_cons_of_mem _ member))
      have found : atomRow table.length (atom entry.1) = .ok (atom entry.1).toNat := if_pos here
      refine ⟨scattered, ?_, count.trans kept, ?_⟩
      · rw [kept] at succeeds
        rw [scatter, List.foldlM_cons, found]
        exact succeeds
      · rw [paired, pairing_modify positions table inside, Vec3.dot_scale, Vec3.dot_comm,
          List.map_cons, List.sum_cons, add_assoc]

/-- The table of gradients for the positions: it exists when all atoms do, has
one row for each atom, and pairs with positions as the gradients pair with the
differences of positions. -/
theorem positionsGradient_pairing (positions : Nat → Vec3 α) {atoms : Nat}
    (gradients : List (Pair × Vec3 α)) (inRange : ∀ entry ∈ gradients, entry.1.InRange atoms) :
    ∃ table, positionsGradient atoms gradients = .ok table ∧ table.length = atoms ∧
      pairing positions table = (gradients.map fun entry => entry.2.dot
        ((positions entry.1.second.toNat).sub (positions entry.1.first.toNat))).sum := by
  let start : List (Vec3 α) := List.replicate atoms Vec3.zero
  have startCount : start.length = atoms := List.length_replicate
  have startPairing : pairing positions start = 0 := by
    refine sum_eq_zero fun atom bound => ?_
    rw [List.getD_replicate _ (startCount ▸ mem_range.mp bound), Vec3.dot_zero]
  obtain ⟨middle, first, middleCount, middlePairing⟩ :=
    scatter_of_inRange positions (Scalar.ofInt 1) Pair.second gradients start
      fun entry member => by
        rw [startCount]
        exact (inRange entry member).2
  obtain ⟨table, second, count, paired⟩ :=
    scatter_of_inRange positions (Scalar.ofInt (-1)) Pair.first gradients middle
      fun entry member => by
        rw [middleCount, startCount]
        exact (inRange entry member).1
  rw [startCount] at first
  rw [middleCount, startCount] at second
  refine ⟨table, ?_, count.trans (middleCount.trans startCount), ?_⟩
  · rw [positionsGradient]
    exact (congrArg (· >>= _) first).trans second
  · rw [paired, middlePairing, startPairing, zero_add, ← List.sum_map_add]
    congr 2
    funext entry
    simp only [Scalar.ofInt, Int.cast_one, Int.cast_neg, Vec3.dot_sub]
    ring

/-- Two cells paired row by row. -/
def cellPairing (cell other : Vec3 (Vec3 α)) : α :=
  cell.x.dot other.x + cell.y.dot other.y + cell.z.dot other.z

private theorem cellPairing_eq_sum (cell other : Vec3 (Vec3 α)) :
    cellPairing cell other =
      ∑ a ∈ range 3, ∑ k ∈ range 3,
        (cell.coordinate a).coordinate k * (other.coordinate a).coordinate k := by
  simp only [← Vec3.dot_eq_sum]
  simp only [sum_range_succ, sum_range_zero, zero_add, cellPairing, Vec3.coordinate]

/-- The gradient for the cell pairs with a cell as the gradients pair with the
offsets of their pairs. -/
theorem cellPairing_cellGradient (cell : Vec3 (Vec3 α)) (gradients : List (Pair × Vec3 α)) :
    cellPairing cell (cellGradient gradients) =
      (gradients.map fun entry => entry.2.dot (offset cell entry.1.shift)).sum := by
  have accumulated (start : Vec3 (Vec3 α)) :
      cellPairing cell (gradients.foldl (fun cell entry =>
          Vec3.map₂ (fun row times => row.add (.scale (Scalar.ofInt times) entry.2))
            cell entry.1.shift) start) =
        cellPairing cell start +
          (gradients.map fun entry => entry.2.dot (offset cell entry.1.shift)).sum := by
    induction gradients generalizing start with
    | nil => rw [List.foldl_nil, List.map_nil, List.sum_nil, add_zero]
    | cons entry gradients ih =>
        rw [List.foldl_cons, ih, List.map_cons, List.sum_cons, ← add_assoc]
        congr 1
        simp only [cellPairing, offset, sum3, Vec3.map₂, Vec3.dot_add, Vec3.dot_scale]
        simp only [Vec3.dot, Vec3.constant, Scalar.neutral]
        ring
  rw [cellGradient, accumulated]
  simp only [cellPairing, Vec3.constant, Vec3.dot_zero, add_zero, zero_add]

/-- **The transpose of the distances.** For pairs of atoms that exist, gradients
paired with distance vectors are the positions paired with the gradient for the
positions, plus the cell paired with the gradient for the cell. -/
theorem distance_pairing (positions : Nat → Vec3 α) (cell : Vec3 (Vec3 α)) {atoms : Nat}
    (gradients : List (Pair × Vec3 α)) (inRange : ∀ entry ∈ gradients, entry.1.InRange atoms) :
    ∃ table, positionsGradient atoms gradients = .ok table ∧ table.length = atoms ∧
      (gradients.map fun entry => entry.2.dot (distance positions cell entry.1)).sum =
        pairing positions table + cellPairing cell (cellGradient gradients) := by
  obtain ⟨table, succeeds, count, paired⟩ :=
    positionsGradient_pairing positions gradients inRange
  refine ⟨table, succeeds, count, ?_⟩
  rw [paired, cellPairing_cellGradient, ← List.sum_map_add]
  congr 2
  funext entry
  rw [distance, Vec3.dot_add]

end Pair

namespace NeighborList

open Finset

variable {α : Type} [CommRing α]

/-- One coordinate of the distance vector of a row of a sample table, from flat
tables of positions and of a cell with the cell vectors as rows. -/
def distanceEntry (samples : List Int) (positions cell : List α) (row column : Nat) : α :=
  entryAt 3 positions (entryAt 5 samples row 1).toNat column -
      entryAt 3 positions (entryAt 5 samples row 0).toNat column +
    ∑ a ∈ range 3, ((entryAt 5 samples row (2 + a) : Int) : α) * entryAt 3 cell a column

/-- The rows of a cell are its vectors. -/
theorem cellRows_eq {cell : List α} (count : cell.length = 9) :
    cellRows cell =
      ⟨⟨entryAt 3 cell 0 0, entryAt 3 cell 0 1, entryAt 3 cell 0 2⟩,
        ⟨entryAt 3 cell 1 0, entryAt 3 cell 1 1, entryAt 3 cell 1 2⟩,
        ⟨entryAt 3 cell 2 0, entryAt 3 cell 2 1, entryAt 3 cell 2 2⟩⟩ := by
  match cell, count with
  | [_, _, _, _, _, _, _, _, _], _ => rfl

/-- The distance vector that a pair is checked against, coordinate by coordinate. -/
theorem coordinate_distance {atoms : Nat} {positions cell : List α}
    (positionCount : positions.length = 3 * atoms) (cellCount : cell.length = 9) {pair : Pair}
    (inRange : pair.InRange atoms) {column : Nat} (inside : column < 3) :
    (pair.distance (fun atom => (Vec3.rows positions).getD atom .zero)
        (cellRows cell)).coordinate column =
      entryAt 3 positions pair.second.toNat column - entryAt 3 positions pair.first.toNat column +
        ((pair.shift.x : α) * entryAt 3 cell 0 column +
            (pair.shift.y : α) * entryAt 3 cell 1 column +
          (pair.shift.z : α) * entryAt 3 cell 2 column) := by
  obtain ⟨⟨_, _⟩, _, _⟩ := inRange
  rw [Pair.distance, Vec3.getD_rows positionCount (by omega : pair.second.toNat < atoms),
    Vec3.getD_rows positionCount (by omega : pair.first.toNat < atoms), cellRows_eq cellCount]
  interval_cases column <;>
    simp only [Pair.offset, Pair.sum3, Vec3.add, Vec3.sub, Vec3.scale, Vec3.map, Vec3.map₂,
      Vec3.constant, Vec3.coordinate, Scalar.add, Scalar.sub, Scalar.mul, Scalar.ofInt,
      Scalar.neutral] <;>
    ring

/-- The sum over a list of pairs with vectors, row by row. -/
theorem sum_zip_rows {pairs : Nat} {samples : List Int} {gradient : List α}
    (sampleCount : samples.length = 5 * pairs) (gradientCount : gradient.length = 3 * pairs)
    (f : Pair → Vec3 α → α) (g : Nat → α)
    (rowwise : ∀ row < pairs, ∀ pair, (Pair.rows samples)[row]? = some pair →
      f pair ((Vec3.rows gradient).getD row .zero) = g row) :
    (((Pair.rows samples).zip (Vec3.rows gradient)).map fun entry => f entry.1 entry.2).sum =
      ∑ row ∈ range pairs, g row := by
  have pairCount := Pair.length_rows sampleCount
  have vectorCount := Vec3.length_rows gradientCount
  have count : ((Pair.rows samples).zip (Vec3.rows gradient)).length = pairs := by
    rw [List.length_zip, pairCount, vectorCount, Nat.min_self]
  rw [← Fin.sum_univ_fun_getElem, ← count, Finset.sum_range]
  refine sum_congr rfl fun row _ => ?_
  have bound : row.val < pairs := count ▸ row.isLt
  rw [List.getElem_zip]
  have vector : (Vec3.rows gradient)[row.val] = (Vec3.rows gradient).getD row.val .zero :=
    (List.getD_eq_getElem _ _ (vectorCount ▸ bound)).symm
  rw [vector]
  exact rowwise row.val bound _ (List.getElem?_eq_getElem (pairCount ▸ bound))

/-- Positions paired with a table, entry by entry. -/
theorem pairing_eq_entries {atoms : Nat} {positions : List α}
    (positionCount : positions.length = 3 * atoms) {table : List (Vec3 α)}
    (count : table.length = atoms) :
    Pair.pairing (fun atom => (Vec3.rows positions).getD atom .zero) table =
      ∑ atom ∈ range atoms, ∑ k ∈ range 3,
        entryAt 3 positions atom k * entryAt 3 (Vec3.flatten table) atom k := by
  rw [Pair.pairing, count]
  refine sum_congr rfl fun atom bound => ?_
  rw [Vec3.dot_eq_sum, Vec3.getD_rows positionCount (mem_range.mp bound)]
  refine sum_congr rfl fun k inside => ?_
  have column := mem_range.mp inside
  rw [Vec3.entryAt_flatten table atom column]
  interval_cases k <;> rfl

/-- A cell paired with another, entry by entry. -/
theorem cellPairing_eq_entries {cell : List α} (count : cell.length = 9) (other : Vec3 (Vec3 α)) :
    Pair.cellPairing (cellRows cell) other =
      ∑ a ∈ range 3, ∑ k ∈ range 3,
        entryAt 3 cell a k * entryAt 3 (Vec3.flatten other.toList) a k := by
  rw [Pair.cellPairing_eq_sum, cellRows_eq count]
  refine sum_congr rfl fun a row => sum_congr rfl fun k inside => ?_
  have column := mem_range.mp inside
  have vector := mem_range.mp row
  rw [Vec3.entryAt_flatten _ a column]
  interval_cases a <;> interval_cases k <;> rfl

/-- **The backward maps of a neighbor list are the transpose of its distances.**
The distance vectors that a sample table is checked against have the coordinates
of `distanceEntry`; for tables of atoms that exist, gradients paired with them are
the positions paired with the gradient for the positions plus the cell paired with
the gradient for the cell. -/
theorem positionsGradient_cellGradient_transpose {pairs atoms : Nat} {samples : List Int}
    {gradient positions cell : List α} (sampleCount : samples.length = 5 * pairs)
    (gradientCount : gradient.length = 3 * pairs)
    (positionCount : positions.length = 3 * atoms) (cellCount : cell.length = 9)
    (inRange : ∀ row < pairs, ∀ column < 2,
      0 ≤ entryAt 5 samples row column ∧ entryAt 5 samples row column < atoms) :
    let gradients := (Pair.rows samples).zip (Vec3.rows gradient)
    let expected := Pair.distance (fun atom => (Vec3.rows positions).getD atom .zero)
      (cellRows cell)
    (∀ row < pairs, ∀ column < 3,
      ((Pair.rows samples)[row]?.map fun pair => (expected pair).coordinate column) =
        some (distanceEntry samples positions cell row column)) ∧
    ∃ table, Pair.positionsGradient atoms gradients = .ok table ∧ table.length = atoms ∧
      ∑ row ∈ range pairs, ∑ k ∈ range 3,
          entryAt 3 gradient row k * distanceEntry samples positions cell row k =
        ∑ atom ∈ range atoms, ∑ k ∈ range 3,
            entryAt 3 positions atom k * entryAt 3 (Vec3.flatten table) atom k +
          ∑ a ∈ range 3, ∑ k ∈ range 3, entryAt 3 cell a k *
            entryAt 3 (Vec3.flatten (Pair.cellGradient gradients).toList) a k := by
  intro gradients expected
  have pairInRange : ∀ row < pairs, ∀ pair, (Pair.rows samples)[row]? = some pair →
      pair.InRange atoms := by
    intro row bound pair found
    rw [Pair.rows_getElem? sampleCount bound, Option.some.injEq] at found
    subst found
    exact ⟨inRange row bound 0 (by omega), inRange row bound 1 (by omega)⟩
  have coordinates : ∀ row < pairs, ∀ pair, (Pair.rows samples)[row]? = some pair →
      ∀ column < 3, (expected pair).coordinate column =
        distanceEntry samples positions cell row column := by
    intro row bound pair found column inside
    rw [coordinate_distance positionCount cellCount (pairInRange row bound pair found) inside]
    rw [Pair.rows_getElem? sampleCount bound, Option.some.injEq] at found
    subst found
    simp only [distanceEntry, sum_range_succ, sum_range_zero, zero_add]
  have member : ∀ entry ∈ gradients, entry.1.InRange atoms := by
    intro entry present
    obtain ⟨row, bound, found⟩ := List.getElem_of_mem (List.of_mem_zip present).1
    rw [Pair.length_rows sampleCount] at bound
    exact pairInRange row bound entry.1 (found ▸ List.getElem?_eq_getElem _)
  obtain ⟨table, succeeds, count, paired⟩ := Pair.distance_pairing
    (fun atom => (Vec3.rows positions).getD atom .zero) (cellRows cell) gradients member
  refine ⟨fun row bound column inside => ?_, table, succeeds, count, ?_⟩
  · have found := Pair.rows_getElem? sampleCount bound
    rw [found, Option.map_some, coordinates row bound _ found column inside]
  · have forward := sum_zip_rows sampleCount gradientCount
      (fun pair vector => vector.dot (expected pair))
      (fun row => ∑ k ∈ range 3,
        entryAt 3 gradient row k * distanceEntry samples positions cell row k)
      (fun row bound pair found => by
        rw [Vec3.dot_eq_sum, Vec3.getD_rows gradientCount bound]
        refine sum_congr rfl fun k inside => ?_
        rw [coordinates row bound pair found k (mem_range.mp inside)]
        have column := mem_range.mp inside
        interval_cases k <;> rfl)
    rw [← forward, ← pairing_eq_entries positionCount count, ← cellPairing_eq_entries cellCount]
    exact paired

/-- Two pairs, one of an atom with its own image. -/
theorem positionsGradient_cellGradient_transpose_twoPairs :
    let samples := [0, 1, 1, 0, -1, 1, 1, 0, 2, 0]
    let gradient : List ℤ := [1, 2, 3, 4, 5, 6]
    let positions : List ℤ := [0, 1, 2, 3, 4, 5]
    let cell : List ℤ := [3, 0, 1, 0, 4, 0, 2, 0, 5]
    let gradients := (Pair.rows samples).zip (Vec3.rows gradient)
    (∀ row < 2, ∀ column < 2,
      0 ≤ entryAt 5 samples row column ∧ entryAt 5 samples row column < (2 : Nat)) ∧
    ∃ table, Pair.positionsGradient 2 gradients = .ok table ∧
      ∑ row ∈ range 2, ∑ k ∈ range 3,
          entryAt 3 gradient row k * distanceEntry samples positions cell row k =
        ∑ atom ∈ range 2, ∑ k ∈ range 3,
            entryAt 3 positions atom k * entryAt 3 (Vec3.flatten table) atom k +
          ∑ a ∈ range 3, ∑ k ∈ range 3, entryAt 3 cell a k *
            entryAt 3 (Vec3.flatten (Pair.cellGradient gradients).toList) a k := by
  intro samples gradient positions cell gradients
  have inRange : ∀ row < 2, ∀ column < 2,
      0 ≤ entryAt 5 samples row column ∧ entryAt 5 samples row column < (2 : Nat) := by decide
  obtain ⟨_, table, succeeds, _, paired⟩ :=
    @positionsGradient_cellGradient_transpose ℤ _ 2 2 samples gradient positions cell rfl rfl rfl
      rfl inRange
  exact ⟨inRange, table, succeeds, paired⟩

end NeighborList

end Atomistic
