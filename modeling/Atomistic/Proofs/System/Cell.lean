import Atomistic.Proofs.Binary64.Values
import Atomistic.Proofs.Results
import Atomistic.System.Basic

/-!
# Directions that are not periodic

What the check of a cell against a periodicity finds out, in terms of the nine numbers
of the cell (`Atomistic.System.checkCell_iff`).
-/

namespace Atomistic

namespace System

/-- The three numbers of a row are zeros, of either sign. -/
def ZeroRow (vectors : List Binary64) (row : Nat) : Prop :=
  ∀ axis < 3, ∃ x, vectors[3 * row + axis]? = some x ∧ x.isZero

/-- The cell vector of every direction that is not periodic is zero. -/
def CellAgrees (cell pbc : Dense) : Prop :=
  ∀ periodic vectors, pbc.toBooleans = .ok periodic → cell.toFloats = .ok vectors →
    ∀ direction, periodic[direction]? = some false → ZeroRow vectors direction

private theorem zeroRow_zero (v : Vec3 Binary64) (rest : List Binary64) :
    ZeroRow (v.toList ++ rest) 0 ↔ v.toList.all fun x => x.equal .zero := by
  simp only [Vec3.toList, Binary64.equal_zero, List.all_cons, List.all_nil, Bool.and_true,
    Bool.and_eq_true]
  constructor
  · intro zeros
    have entry (axis : Nat) (inside : axis < 3) := zeros axis inside
    simp only [Nat.mul_zero, Nat.zero_add] at entry
    obtain ⟨_, same, first⟩ := entry 0 (by decide)
    cases same
    obtain ⟨_, same, second⟩ := entry 1 (by decide)
    cases same
    obtain ⟨_, same, third⟩ := entry 2 (by decide)
    cases same
    exact ⟨first, second, third⟩
  · rintro ⟨first, second, third⟩ axis inside
    match axis, inside with
    | 0, _ => exact ⟨v.x, rfl, first⟩
    | 1, _ => exact ⟨v.y, rfl, second⟩
    | 2, _ => exact ⟨v.z, rfl, third⟩

private theorem zeroRow_succ (v : Vec3 Binary64) (rest : List Binary64) (row : Nat) :
    ZeroRow (v.toList ++ rest) (row + 1) ↔ ZeroRow rest row := by
  have shift (axis : Nat) : (v.toList ++ rest)[3 * (row + 1) + axis]? = rest[3 * row + axis]? := by
    have place : 3 * (row + 1) + axis = v.toList.length + (3 * row + axis) := by
      simp only [Vec3.toList, List.length_cons, List.length_nil]
      omega
    rw [place, List.getElem?_append_right (Nat.le_add_right _ _), Nat.add_sub_cancel_left]
  simp only [ZeroRow, shift]

/-- The cell agrees with the periodic directions if its row is zero along every other one. -/
theorem rows_agree (periodic : List Bool) : ∀ {vectors : List Binary64},
    vectors.length = 3 * periodic.length →
      (((periodic.zip (Vec3.rows vectors)).any fun (periodic, v) =>
          !periodic && !(v.toList.all fun x => x.equal .zero)) = false ↔
        ∀ direction, periodic[direction]? = some false → ZeroRow vectors direction) := by
  induction periodic with
  | nil =>
      intro vectors _
      simp
  | cons flag rest ih =>
      intro vectors count
      match vectors, count with
      | x :: y :: z :: others, count =>
        have fewer : others.length = 3 * rest.length := by
          simp only [List.length_cons] at count
          omega
        have split : x :: y :: z :: others = (⟨x, y, z⟩ : Vec3 Binary64).toList ++ others := rfl
        rw [Vec3.rows, List.zip_cons_cons, List.any_cons, Bool.or_eq_false_iff, ih fewer, split]
        constructor
        · rintro ⟨first, later⟩ direction off
          cases direction with
          | zero =>
              cases off
              rw [zeroRow_zero]
              simpa using first
          | succ direction => exact (zeroRow_succ _ _ _).mpr (later direction off)
        · intro all
          refine ⟨?_, fun direction off => (zeroRow_succ _ _ _).mp (all (direction + 1) off)⟩
          cases flag with
          | true => rfl
          | false =>
              have zero := (zeroRow_zero _ _).mp (all 0 rfl)
              simpa using zero

/-- **What the check of a cell finds out.** -/
theorem checkCell_iff {cell pbc : Dense} (present : pbc.device ≠ .metadata) {periodic : List Bool}
    {vectors : List Binary64} (pbc_read : pbc.toBooleans = .ok periodic)
    (cell_read : cell.toFloats = .ok vectors) (count : vectors.length = 3 * periodic.length) :
    checkCell cell pbc = .ok () ↔ CellAgrees cell pbc := by
  have agrees : CellAgrees cell pbc ↔
      ∀ direction, periodic[direction]? = some false → ZeroRow vectors direction := by
    refine ⟨fun all => all periodic vectors pbc_read cell_read, fun all flags entries read also =>
      ?_⟩
    rw [pbc_read] at read
    rw [cell_read] at also
    cases read
    cases also
    exact all
  have placed : ¬ pbc.device.isMeta := by simpa [Device.isMeta] using present
  rw [agrees, ← rows_agree periodic count, checkCell, if_neg placed, pbc_read, cell_read]
  simp only [Except.mapError, bind, Except.bind]
  split
  next wrong => simp [wrong]
  next right => exact ⟨fun _ => by simpa using right, fun _ => rfl⟩

end System

end Atomistic
