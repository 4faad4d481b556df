import Atomistic.Scalar
import Atomistic.Tensor.Error

/-!
# Pairs of neighbors

The distance vector of a pair is computed from the positions of its atoms and
the cell, and gradients of distance vectors are carried back to both.  Forward
and backward are written over any scalars: over doubles every step is rounded,
and the order of the additions is part of the definition; over a ring the
backward maps are the transpose of the forward map.
-/

namespace Atomistic

/-- A pair: its two atoms, and how many cell vectors lie between them in each
direction. -/
structure Pair where
  first : Int
  second : Int
  shift : Vec3 Int
deriving DecidableEq

namespace Pair

/-- The pairs of a table with five columns, from its values in row-major
order. -/
def rows : List Int → List Pair
  | first :: second :: a :: b :: c :: rest => ⟨first, second, ⟨a, b, c⟩⟩ :: rows rest
  | _ => []

variable {α : Type} [Scalar α]

/-- The sum of three vectors. -/
def sum3 (u v w : Vec3 α) : Vec3 α :=
  (((Vec3.constant Scalar.neutral).add u).add v).add w

/-- The vector of a cell shift: each cell vector as often as the shift says. -/
def offset (cell : Vec3 (Vec3 α)) (shift : Vec3 Int) : Vec3 α :=
  sum3 (.scale (Scalar.ofInt shift.x) cell.x) (.scale (Scalar.ofInt shift.y) cell.y)
    (.scale (Scalar.ofInt shift.z) cell.z)

/-- The distance vector of a pair: from the first atom to the image of the second
atom that the shift leads to. -/
def distance (positions : Nat → Vec3 α) (cell : Vec3 (Vec3 α)) (pair : Pair) : Vec3 α :=
  ((positions pair.second.toNat).sub (positions pair.first.toNat)).add (offset cell pair.shift)

/-- The row of an atom in a table of a number of atoms. -/
def atomRow (atoms : Nat) (atom : Int) : Except RuleFault Nat :=
  if 0 ≤ atom ∧ atom < atoms then .ok atom.toNat else .error (.atomIndex atom atoms)

/-- Add the gradient of each pair, times a sign, to the row of one of its
atoms. -/
def scatter (atoms : Nat) (sign : α) (atom : Pair → Int)
    (gradients : List (Pair × Vec3 α)) (table : List (Vec3 α)) :
    Except RuleFault (List (Vec3 α)) :=
  gradients.foldlM (fun table entry => do
    let row ← atomRow atoms (atom entry.1)
    return table.modify row fun old => old.add (.scale sign entry.2)) table

/-- Gradients of distance vectors carried back to the positions: added at the
second atoms of all pairs, then subtracted at the first atoms. -/
def positionsGradient (atoms : Nat) (gradients : List (Pair × Vec3 α)) :
    Except RuleFault (List (Vec3 α)) := do
  let table := List.replicate atoms Vec3.zero
  let table ← scatter atoms (Scalar.ofInt 1) Pair.second gradients table
  scatter atoms (Scalar.ofInt (-1)) Pair.first gradients table

/-- Gradients of distance vectors carried back to the cell: each one is added to
the cell vectors as often as the shift of its pair says. -/
def cellGradient (gradients : List (Pair × Vec3 α)) : Vec3 (Vec3 α) :=
  gradients.foldl (fun cell entry =>
    Vec3.map₂ (fun row times => row.add (.scale (Scalar.ofInt times) entry.2))
      cell entry.1.shift) (Vec3.constant Vec3.zero)

end Pair

end Atomistic
