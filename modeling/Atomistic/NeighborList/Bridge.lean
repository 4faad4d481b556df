import Atomistic.NeighborList.Pairs
import Atomistic.System.Basic

/-!
# Distances in the graph of gradients

Neighbor lists come with distance vectors that were computed elsewhere.
`NeighborList.register` makes the vectors of a list behave as if they had been
computed from the positions and the cell of a system, so that gradients flow
back to both.  On request every pair is first computed again and compared.
-/

namespace Atomistic

namespace NeighborList

/-- The name of the node that a registration makes. -/
def bridgeName : String := "NeighborsAutogradBackward"

/-- Pairs with their gradients, after the shapes of the sample table and of the
gradient have been compared. -/
def pairGradients (samples gradient : Dense) :
    Except TensorError (List (Pair × Vec3 Binary64)) := do
  let pairs := samples.size 0
  if samples.shape ≠ [pairs, 5] then
    throw (.backward bridgeName (.sampleTable samples.shape))
  if gradient.count ≠ 3 * pairs then
    throw (.backward bridgeName (.gradientShape pairs gradient.shape))
  let samples ← samples.toIntegers
  let gradient ← gradient.toFloats
  return (Pair.rows samples).zip (Vec3.rows gradient)

/-- Values in the shape, type and place of other data. -/
def valuesLike (data : Dense) (values : List (Vec3 Binary64)) : Except TensorError Outcome := do
  let made ← Dense.ofFloats (Vec3.flatten values) data.shape data.dtype
  return ⟨← made.convert data.dtype data.device, none⟩

/-- The gradient for the positions. -/
def positionsBackward (positions samples gradient : Dense) : Except TensorError Outcome := do
  if positions.device.isMeta then return ⟨.onMeta positions.shape positions.dtype, none⟩
  let gradients ← pairGradients samples gradient
  let table ← (Pair.positionsGradient (positions.size 0) gradients).mapError
    (TensorError.backward bridgeName)
  valuesLike positions table

/-- The gradient for the cell. -/
def cellBackward (cell samples gradient : Dense) : Except TensorError Outcome := do
  if cell.device.isMeta then return ⟨.onMeta cell.shape cell.dtype, none⟩
  let gradients ← pairGradients samples gradient
  valuesLike cell (Pair.cellGradient gradients).toList

/-- The operation whose output is the distance vectors of a neighbor list. -/
def bridge : Operation where
  name := bridgeName
  rule := fun context gradient => do
    match context.saved with
    | [positions, cell, _, samples] =>
      let forPositions ←
        if context.needsGrad 0 then
          some <$> positionsBackward positions.data samples.data gradient.data
        else pure none
      let forCell ←
        if context.needsGrad 1 then
          some <$> cellBackward cell.data samples.data gradient.data
        else pure none
      return [forPositions, forCell]
    | _ => return []

/-- How far a stored distance may be from the computed one. -/
def tolerance (dtype : DType) : Binary64 :=
  match dtype with
  | .float64 => .ofDecimal false 1 (-6)
  | _ => .ofDecimal false 1 (-4)

/-- The length of a vector. -/
def norm (v : Vec3 Binary64) : Binary64 :=
  (Binary64.sum (v.map fun x => x.mul x).toList).sqrt

/-- Check that an atom of a pair is one of a number of atoms. -/
def checkAtom (atoms : Nat) (pairEnd : PairEnd) (atom : Int) : Except Error Unit := do
  if atom < 0 ∨ (atoms : Int) ≤ atom then throw (.pairIndex pairEnd atom atoms)

/-- Check that the distance vector of a pair agrees with the positions and the
cell. -/
def checkPair (positions : List (Vec3 Binary64)) (cell : Vec3 (Vec3 Binary64)) (atoms : Nat)
    (tolerance : Binary64) (pair : Pair) (actual : Vec3 Binary64) : Except Error Unit := do
  checkAtom atoms .first pair.first
  checkAtom atoms .second pair.second
  let expected := pair.distance (fun atom => positions.getD atom .zero) cell
  let off := norm (actual.sub expected)
  if !off.atMost tolerance then
    throw (.pairMismatch ⟨pair.first, pair.second, pair.shift, expected, actual, off⟩)

/-- The three rows of a cell. -/
def cellRows {α : Type} [Scalar α] (values : List α) : Vec3 (Vec3 α) :=
  match Vec3.rows values with
  | [a, b, c] => ⟨a, b, c⟩
  | _ => .constant .zero

/-- Check every pair of a neighbor list against positions and a cell.  The result
is the number of pairs. -/
def checkPairs (positions cell : Dense) (list : Block) : Except Error Nat := do
  let tolerance := tolerance list.values.dtype
  let vectors ← positions.toFloats.mapError Error.tensor
  let cell ← cell.toFloats.mapError Error.tensor
  let samples ← list.samples.values.data.toIntegers.mapError Error.tensor
  let distances ← list.values.data.toFloats.mapError Error.tensor
  let columns := list.samples.names.length
  if columns ≠ 5 ∨ distances.length ≠ 3 * list.samples.count then
    throw (.pairData columns distances.length)
  let pairs := Pair.rows samples
  (pairs.zip (Vec3.rows distances)).forM fun (pair, actual) =>
    checkPair (Vec3.rows vectors) (cellRows cell) (positions.size 0) tolerance pair actual
  return pairs.length

/-- Check that a neighbor list has the device and the element type of a system,
and the layout of a neighbor list. -/
def checkAgainst (system : System) (list : Block) : Except Error Unit := do
  let distances := list.values
  if system.positions.device ≠ distances.device then
    throw (.registerDevice system.positions.device distances.device)
  if system.positions.dtype ≠ distances.dtype then
    throw (.registerDType system.positions.dtype distances.dtype)
  checkLayout list

/-- Attach the distance vectors of a neighbor list to the graph of the positions
and the cell of a system, after a check of every pair if that is asked for. -/
def register (system : System) (list : Block) (check : Bool) : Session Error Unit := do
  let distances := list.values
  if ← Session.requiresGrad distances then throw .alreadyInGraph
  if check then Session.ofExcept (checkAgainst system list)
  let forward : Session Error Forward := do
    if check then
      let pairs ← Session.ofExcept (checkPairs system.positions.data system.cell.data list)
      Session.note .trace "mlsys_system::neighbors"
        (toString pairs ++ " neighbor pairs are consistent with the system")
    return {
      output := distances
      saved := [system.positions, system.cell, distances, list.samples.values] }
  let _ ← bridge.apply Error.tensor [system.positions, system.cell] forward

end NeighborList

end Atomistic
