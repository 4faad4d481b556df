import Atomistic.Document.System
import Atomistic.Inspect.Arguments
import Atomistic.Inspect.Files
import Atomistic.NeighborList.Bridge

/-!
# Reports

A system that is stored as a document is read, converted if that is asked for,
and described together with its neighbor lists.  On request the pairs of every
list are compared with the positions and the cell; the comparison works on a
copy of the distances and leaves the stored list as it is.
-/

namespace Atomistic.Inspect

/-- Why an inspection failed.  A file is named where the cause is in it. -/
inductive Failure
  | reading (path : String) (cause : FileError)
  | parsing (path : String) (cause : Error)
  | writing (path : String) (cause : FileError)
  | system (cause : Error)
deriving DecidableEq

/-- The messages of a failure, from what was being done to the cause. -/
def Failure.messages : Failure → List String
  | reading path cause => ["while reading " ++ path ++ ": " ++ cause.message, cause.message]
  | parsing path cause => ["while parsing " ++ path ++ ": " ++ cause.message, cause.message]
  | writing path cause => ["while writing " ++ path ++ ": " ++ cause.message, cause.message]
  | system cause => [cause.message]

instance : MonadLift (Session Error) (Session Failure) := ⟨ExceptT.adapt Failure.system⟩

/-- Where the records of an inspection come from. -/
def target : String := "mlsys::inspect"

/-- Compare the pairs of a neighbor list with the positions and the cell of its
system. -/
def checkList (system : System) (options : NeighborListOptions) : Session Error Unit := do
  let list ← Session.ofExcept (system.neighborList options)
  let distances ← list.values.detach
  let copy ← NeighborList.assemble list.samples.values distances
  NeighborList.register system copy true
  Session.note .debug target (options.display ++ " is consistent with the system")

/-- The line about a neighbor list. -/
def describeList (options : NeighborListOptions) (list : Block) : String :=
  let unit := if options.lengthUnit = "" then "" else " [" ++ options.lengthUnit ++ "]"
  "  - " ++ options.display ++ unit ++ ": " ++ toString (list.values.size 0) ++ " pairs\n"

/-- The lines about a system, before those about its neighbor lists. -/
def describeSystem (system : System) : String :=
  system.display ++ "\ndtype: " ++ system.dtype.name ++ ", device: " ++ system.device.name ++
    "\n" ++ toString system.neighborLists.length ++ " neighbor list(s)\n"

/-- Describe every neighbor list of a system, each after it was checked if that is
asked for. -/
def reportLists (system : System) (check : Bool) : Session Error (List String) :=
  system.knownNeighborLists.mapM fun options => do
    let list ← Session.ofExcept (system.neighborList options)
    if check then checkList system options
    return describeList options list

/-- A system that was inspected. -/
structure Inspection where
  report : String
  /-- Where the system is to be stored, and its document. -/
  output : Option (String × String)

/-- The system from a document, converted if that is asked for. -/
def load (arguments : Arguments) (text : String) : Session Failure System := do
  let system ← ExceptT.adapt (Failure.parsing arguments.input) (System.ofJson text)
  Session.note .info target ("read " ++ system.display ++ " from " ++ arguments.input)
  if arguments.dtype.isNone ∧ arguments.device.isNone then return system
  else system.transfer arguments.dtype arguments.device

/-- Inspect the system in a document. -/
def examine (arguments : Arguments) (text : String) : Session Failure Inspection := do
  let system ← load arguments text
  let lists ← reportLists system arguments.checkConsistency
  let output ← arguments.output.mapM fun path => do
    let document ← Session.ofExcept (system.toJson.mapError Failure.system)
    return (path, document)
  return { report := describeSystem system ++ String.join lists, output }

end Atomistic.Inspect
