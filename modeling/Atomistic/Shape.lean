/-!
# Shapes

The extents of a tensor along its axes, and how many elements they make.
-/

namespace Atomistic

/-- The extent along each axis; no axes make a single element. -/
abbrev Shape := List Nat

namespace Shape

/-- The number of elements. -/
def count (shape : Shape) : Nat := shape.foldl (· * ·) 1

/-- The number of elements, multiplied up from left to right as long as it fits
in 64 bits. -/
def checkedCount (shape : Shape) : Option Nat :=
  shape.foldlM (fun count extent =>
    if count * extent < 0x10000000000000000 then some (count * extent) else none) 1

/-- The extents in brackets. -/
def text (shape : Shape) : String :=
  "[" ++ ", ".intercalate (shape.map fun extent => toString extent) ++ "]"

end Shape

end Atomistic
