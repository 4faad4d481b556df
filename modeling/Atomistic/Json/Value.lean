import Atomistic.Binary64.Rounding
import Atomistic.Registry

/-!
# JSON values

Numbers are integers in the range of 64-bit words, signed or unsigned, or finite
doubles.  An object lists its keys in order, each key once.
-/

namespace Atomistic

/-- A JSON value. -/
inductive Json
  | null
  | bool (value : Bool)
  | integer (value : Int)
  | real (value : Binary64)
  | string (value : String)
  | array (items : List Json)
  | object (fields : List (String × Json))

namespace Json

/-- The number with a value; one that is not finite has no number and becomes
null. -/
def ofBinary64 (x : Binary64) : Json := if x.isFinite then real x else null

/-- The array of some natural numbers. -/
def ofSizes (sizes : List Nat) : Json := array (sizes.map fun (size : Nat) => integer size)

/-- The fields of an object. -/
def object? : Json → Option (List (String × Json))
  | object fields => some fields
  | _ => none

def array? : Json → Option (List Json)
  | array items => some items
  | _ => none

def string? : Json → Option String
  | string value => some value
  | _ => none

def bool? : Json → Option Bool
  | bool value => some value
  | _ => none

/-- An integer in the range of signed 64-bit words. -/
def integer? : Json → Option Int
  | integer value => 
    if -0x8000000000000000 ≤ value ∧ value < 0x8000000000000000 then some value else none
  | _ => none

/-- An integer that is not negative. -/
def natural? : Json → Option Nat
  | integer value => if 0 ≤ value then some value.toNat else none
  | _ => none

/-- Any number, rounded to a double. -/
def number? : Json → Option Binary64
  | integer value => some (.ofInt value)
  | real value => some value
  | _ => none

/-- The value under a key of an object. -/
def get? (value : Json) (key : String) : Option Json :=
  value.object?.bind fun fields => Registry.find? fields key

end Json

end Atomistic
