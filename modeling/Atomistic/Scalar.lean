/-!
# Scalars

The operations that the geometry of neighbor pairs needs of a number.  The maps
between distances, positions and cells are written over any type with these
operations, so that they can be read over doubles, with rounding, and over a
ring, exactly.
-/

namespace Atomistic

/-- A type of numbers.  `zero` is what an accumulator holds at first, and
`neutral` is what a sum of several terms starts from; they differ only where a
number type has two zeros. -/
class Scalar (α : Type) where
  zero : α
  neutral : α
  add : α → α → α
  sub : α → α → α
  mul : α → α → α
  ofInt : Int → α

/-- A vector in three dimensions. -/
structure Vec3 (α : Type) where
  x : α
  y : α
  z : α
deriving DecidableEq

namespace Vec3

variable {α β γ : Type}

/-- Apply a function to each coordinate. -/
def map (f : α → β) (v : Vec3 α) : Vec3 β := ⟨f v.x, f v.y, f v.z⟩

/-- Combine two vectors coordinate by coordinate. -/
def map₂ (f : α → β → γ) (v : Vec3 α) (w : Vec3 β) : Vec3 γ :=
  ⟨f v.x w.x, f v.y w.y, f v.z w.z⟩

/-- The coordinates in order. -/
def toList (v : Vec3 α) : List α := [v.x, v.y, v.z]

/-- The vectors of a flat list of coordinates; one or two coordinates left over
at the end make no vector. -/
def rows : List α → List (Vec3 α)
  | x :: y :: z :: rest => ⟨x, y, z⟩ :: rows rest
  | _ => []

/-- The coordinates of a list of vectors, in order. -/
def flatten (vs : List (Vec3 α)) : List α := vs.flatMap toList

/-- The vector with the same number in every coordinate. -/
def constant (a : α) : Vec3 α := ⟨a, a, a⟩

variable [Scalar α]

def add : Vec3 α → Vec3 α → Vec3 α := map₂ Scalar.add

def sub : Vec3 α → Vec3 α → Vec3 α := map₂ Scalar.sub

/-- The vector times a number on its left. -/
def scale (a : α) (v : Vec3 α) : Vec3 α := v.map (Scalar.mul a)

/-- The vector whose coordinates are all zero. -/
def zero : Vec3 α := constant Scalar.zero

end Vec3

end Atomistic
