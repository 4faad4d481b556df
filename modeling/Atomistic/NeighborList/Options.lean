import Atomistic.Decimal.Layout
import Atomistic.InPlace
import Atomistic.Units

/-!
# Neighbor list options

What a model asks of a neighbor list: the cutoff, whether pairs are listed in
both directions, and the unit of the cutoff.  These three identify a list.  Who
asked for it is kept beside them and changes neither equality nor order.
-/

namespace Atomistic

/-- The options of a neighbor list. -/
structure NeighborListOptions where
  cutoff : Binary64
  fullList : Bool
  /-- The unit of the cutoff, empty if it was never given. -/
  lengthUnit : String := ""
  /-- Everyone who asked for the list, in the order in which they asked. -/
  requestors : List String := []
deriving DecidableEq

namespace NeighborListOptions

/-- Add someone who asked.  Repeated and empty names are not recorded. -/
def addRequestor (options : NeighborListOptions) (requestor : String) : NeighborListOptions :=
  if requestor = "" ∨ requestor ∈ options.requestors then options
  else { options with requestors := options.requestors ++ [requestor] }

/-- The options that someone asks for, without a unit. -/
def create (cutoff : Binary64) (fullList : Bool) (requestor : String) : NeighborListOptions :=
  addRequestor { cutoff, fullList } requestor

/-- Set the unit of the cutoff.  It is stored after it was checked. -/
def assignLengthUnit (unit : String) : InPlace NeighborListOptions UnitError Id Unit := do
  InPlace.ofExcept (Units.validate "length" unit)
  modify fun options => { options with lengthUnit := unit }

/-- The same options with another unit of the cutoff. -/
def setLengthUnit (options : NeighborListOptions) (unit : String) :
    Except UnitError NeighborListOptions :=
  (assignLengthUnit unit).copied options

/-- The cutoff in the length unit of an engine. -/
def engineCutoff (options : NeighborListOptions) (unit : String) : Except UnitError Binary64 := do
  return options.cutoff.mul (← Units.conversion "length" options.lengthUnit unit)

/-- Order by cutoff, in the total order of bit patterns, then by direction, then
by unit. -/
def order (a b : NeighborListOptions) : Ordering :=
  (compare a.cutoff.rank b.cutoff.rank).then
    ((compare a.fullList b.fullList).then (compare a.lengthUnit b.lengthUnit))

instance : Ord NeighborListOptions where
  compare := order

/-- The order as a partial one, in which any two options can be compared. -/
def partialOrder (a b : NeighborListOptions) : Option Ordering := some (order a b)

/-- Whether two options ask for the same list. -/
def sameList (a b : NeighborListOptions) : Bool :=
  a.cutoff == b.cutoff && a.fullList == b.fullList && a.lengthUnit == b.lengthUnit

/-- A truth value as it is shown. -/
def flagText (flag : Bool) : String := if flag then "True" else "False"

/-- A description in one line. -/
def display (options : NeighborListOptions) : String :=
  "NeighborListOptions(cutoff=" ++ fixedPlaces 6 options.cutoff ++ ", full_list=" ++
    flagText options.fullList ++ ")"

/-- A description in several lines, with everyone who asked. -/
def describe (options : NeighborListOptions) : String :=
  let unit := if options.lengthUnit = "" then "" else " " ++ options.lengthUnit
  let requested :=
    if options.requestors = [] then ""
    else "    requested by:\n" ++
      String.join (options.requestors.map fun requestor => "        - " ++ requestor ++ "\n")
  "NeighborListOptions\n    cutoff: " ++ fixedPlaces 6 options.cutoff ++ unit ++
    "\n    full_list: " ++ flagText options.fullList ++ "\n" ++ requested

end NeighborListOptions

end Atomistic
