import Atomistic.Binary64.Arithmetic
import Atomistic.Text.Blank
import Atomistic.Text.Folding

/-!
# Units

Conversion factors between the units of lengths and of energies.  Names of units
are matched in any case and with blanks around them.  The empty name stands for
an unknown unit, which converts to and from anything with a factor of one.
-/

namespace Atomistic

/-- What can be wrong with a unit. -/
inductive UnitError
  | unknownUnit (quantity unit : String)
  | unknownQuantity (quantity : String)
deriving DecidableEq

/-- The message of an error. -/
def UnitError.message : UnitError → String
  | .unknownUnit quantity unit => s!"unknown unit '{unit}' for {quantity}"
  | .unknownQuantity quantity => s!"unknown physical quantity '{quantity}'"

namespace Units

/-- A factor from its decimal digits and a power of ten. -/
def factor (coefficient : Nat) (exponent : Int) : Binary64 :=
  Binary64.ofDecimal false coefficient exponent

/-- The units of length with their sizes in angstrom. -/
def lengths : List (List String × Binary64) :=
  [ (["angstrom", "a"], factor 1 0),
    (["bohr"], factor 529177210903 (-12)),
    (["nanometer", "nm"], factor 1 1),
    (["micrometer", "um", "µm"], factor 1 4),
    (["millimeter", "mm"], factor 1 7),
    (["centimeter", "cm"], factor 1 8),
    (["meter", "m"], factor 1 10) ]

/-- The units of energy with their sizes in electronvolt. -/
def energies : List (List String × Binary64) :=
  [ (["ev"], factor 1 0),
    (["mev"], factor 1 (-3)),
    (["hartree"], factor 27211386245988 (-12)),
    (["rydberg", "ry"], factor 13605693122994 (-12)),
    (["kcal/mol"], factor 43364104241800934 (-18)),
    (["kj/mol"], factor 10364269656262175 (-18)),
    (["joule", "j"], factor 6241509074460763 3) ]

/-- The units of a quantity. -/
def table? (quantity : String) : Option (List (List String × Binary64)) :=
  match quantity with
  | "length" => some lengths
  | "energy" => some energies
  | _ => none

/-- The name under which a unit is looked up. -/
def canonical (unit : String) : String :=
  Text.fold (String.ofList (Text.trim unit.toList))

/-- The size of a unit in the reference unit of its quantity. -/
def size (quantity unit : String) : Except UnitError Binary64 :=
  match table? quantity with
  | none => .error (.unknownQuantity quantity)
  | some table =>
    match table.find? fun entry => entry.1.contains (canonical unit) with
    | some entry => .ok entry.2
    | none => .error (.unknownUnit quantity unit)

/-- Check that a unit is known for a quantity, or empty. -/
def validate (quantity unit : String) : Except UnitError Unit :=
  match size quantity unit with
  | .ok _ => .ok ()
  | .error fault =>
    match fault with
    | .unknownUnit .. => if unit = "" then .ok () else .error fault
    | .unknownQuantity _ => .error fault

/-- What a value in one unit is multiplied by to express it in another. -/
def conversion (quantity source target : String) : Except UnitError Binary64 := do
  validate quantity source
  validate quantity target
  if source = "" ∨ target = "" then return .one
  return (← size quantity source).div (← size quantity target)

end Units

end Atomistic
