import Atomistic.Binary64.Rounding

/-!
# Element types

The types of tensor elements, their names, which casts are implicit, and how a
value is brought into the range of a type: integers wrap around, floating point
numbers are rounded.
-/

namespace Atomistic

/-- The element type of a tensor. -/
inductive DType
  | bool
  | uint8
  | int8
  | int16
  | int32
  | int64
  | float32
  | float64
deriving DecidableEq, Inhabited

namespace DType

/-- Every element type, from the narrowest to the widest. -/
def all : List DType := [bool, uint8, int8, int16, int32, int64, float32, float64]

/-- The name without the family it belongs to. -/
def shortName : DType → String
  | bool => "bool"
  | uint8 => "uint8"
  | int8 => "int8"
  | int16 => "int16"
  | int32 => "int32"
  | int64 => "int64"
  | float32 => "float32"
  | float64 => "float64"

/-- What stands in front of a short name in documents and messages. -/
def family : String := "torch."

/-- The name in documents and messages. -/
def name (dtype : DType) : String := family ++ dtype.shortName

/-- The name of the constructor, for debugging. -/
def debugName : DType → String
  | bool => "Bool"
  | uint8 => "UInt8"
  | int8 => "Int8"
  | int16 => "Int16"
  | int32 => "Int32"
  | int64 => "Int64"
  | float32 => "Float32"
  | float64 => "Float64"

/-- Drop every occurrence of a nonempty text at the start of another. -/
def dropRepeated (front : List Char) : Nat → List Char → List Char
  | 0, text => text
  | fuel + 1, text =>
    if front.isPrefixOf text then dropRepeated front fuel (text.drop front.length) else text

/-- The type with a name, which may have the family in front any number of
times; four short names are synonyms. -/
def ofName? (text : String) : Option DType :=
  let short := String.ofList (dropRepeated family.toList text.length text.toList)
  match short with
  | "float" => some float32
  | "double" => some float64
  | "int" => some int32
  | "long" => some int64
  | _ => all.find? fun dtype => dtype.shortName == short

def isFloating : DType → Bool
  | float32 | float64 => true
  | _ => false

/-- Whether values may be converted implicitly: floating point data never
becomes integers or booleans, and only booleans become booleans. -/
def canCast (source target : DType) : Bool :=
  !(source.isFloating && !target.isFloating) && !(source != bool && target == bool)

/-- Bring an integer into the range of an integral type.  Integers wrap around;
a boolean is one for every integer but zero. -/
def wrap (dtype : DType) (i : Int) : Int :=
  match dtype with
  | bool => if i = 0 then 0 else 1
  | uint8 => i % 0x100
  | int8 => Int.bmod i 0x100
  | int16 => Int.bmod i 0x10000
  | int32 => Int.bmod i 0x100000000
  | int64 => Int.bmod i 0x10000000000000000
  | float32 | float64 => i

/-- Round a number to the precision of a floating point type. -/
def round (dtype : DType) (x : Binary64) : Binary64 :=
  match dtype with
  | float32 => x.toSingle
  | _ => x

end DType

end Atomistic
