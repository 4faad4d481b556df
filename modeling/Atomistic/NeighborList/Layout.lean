import Atomistic.Block.Basic

/-!
# The layout of neighbor lists

A neighbor list is a block with one sample for each pair: the two atoms and the
three cell shifts between them.  Its values are the distance vectors, with a
single component `xyz` and a single property `distance`.
-/

namespace Atomistic

namespace NeighborList

/-- The sample names of a neighbor list. -/
def sampleNames : List String :=
  ["first_atom", "second_atom", "cell_shift_a", "cell_shift_b", "cell_shift_c"]

/-- The neighbor list with a table of pairs and their distance vectors. -/
def assemble (samples distances : Tensor) : Session Error Block := do
  let device := distances.device
  let samples ← Session.ofExcept (Labels.ofTensor sampleNames samples)
  let xyz ← Labels.range "xyz" 3
  let xyz ← xyz.transfer device
  let distance ← Labels.range "distance" 1
  let distance ← distance.transfer device
  Session.ofExcept (Block.create distances samples [xyz] distance)

/-- Whether labels have one name and the given entries.  On the meta device only
the number of entries is known. -/
def labelsAre (labels : Labels) (name : String) (entries : List Int) : Except Error Bool := do
  if labels.names ≠ [name] ∨ labels.count ≠ entries.length then return false
  if labels.device.isMeta then return true
  return (← labels.values.data.toIntegers.mapError Error.tensor) == entries

/-- Check that a block has the layout of a neighbor list. -/
def checkLayout (block : Block) : Except Error Unit := do
  if block.samples.names ≠ sampleNames then throw .sampleNames
  match block.components with
  | [component] => if !(← labelsAre component "xyz" [0, 1, 2]) then throw .componentLayout
  | _ => throw .componentLayout
  if !(← labelsAre block.properties "distance" [0]) then throw .propertyLayout

end NeighborList

end Atomistic
