import Atomistic.Document.Options
import Atomistic.Document.Tensor
import Atomistic.System.Attachments

/-!
# Systems in documents

A system is stored with its neighbor lists, in order, and without custom data.
The periodicity is stored as integers, since booleans are not stored.
-/

namespace Atomistic

namespace Document

/-- The class of documents for systems. -/
def systemClass : String := "System"

/-- The object for a neighbor list. -/
def listToJson (list : Block) : Except Error Json := do
  let samples ← tensorToJson list.samples.values.data
  let values ← tensorToJson list.values.data
  return .object [("samples", samples), ("values", values)]

/-- The neighbor list from its fields. -/
def listOfJson (fields : List (String × Json)) : Session Error Block := do
  let what := "neighbor list block"
  let samples ← Session.ofExcept (field fields "samples" what)
  let samples ← Session.create (← Session.ofExcept (tensorOfJson samples))
  let values ← Session.ofExcept (field fields "values" what)
  let values ← Session.create (← Session.ofExcept (tensorOfJson values))
  NeighborList.assemble samples values

/-- The object for a neighbor list with its options. -/
def entryToJson (entry : NeighborListOptions × Block) : Except Error Json := do
  return .object [("data", ← listToJson entry.2), ("options", optionsToJson entry.1)]

/-- The object for a system. -/
def systemToJson (system : System) : Except Error Json := do
  let positions ← tensorToJson system.positions.data
  let cell ← tensorToJson system.cell.data
  let types ← tensorToJson system.types.data
  let pbc ← (system.pbc.data.convert .int32 system.pbc.device).mapError Error.tensor
  let pbc ← tensorToJson pbc
  let lists ← system.neighborLists.mapM entryToJson
  return .object
    [ ("cell", cell),
      ("class", .string systemClass),
      ("neighbor_lists", .array lists),
      ("pbc", pbc),
      ("positions", positions),
      ("types", types) ]

/-- The options and the neighbor list from their object. -/
def entryOfJson (value : Json) : Session Error (NeighborListOptions × Block) := do
  let what := "neighbor list"
  let some options := (value.get? "options").filter fun options => options.object?.isSome
    | throw (.keyMissing "options" what)
  let options ← Session.ofExcept (optionsOfJson options)
  let some fields := (value.get? "data").bind Json.object? | throw (.keyMissing "data" what)
  return (options, ← listOfJson fields)

/-- Attach a neighbor list that was read to a system. -/
def attachEntry (system : System) (value : Json) : Session Error System := do
  let (options, list) ← entryOfJson value
  Session.note .debug "mlsys_system::json"
    ("read " ++ toString (list.values.size 0) ++ " neighbor pairs for " ++ options.display)
  system.addNeighborList options list

/-- The tensor under a key of a system. -/
def systemTensor (fields : List (String × Json)) (key : String) : Session Error Tensor := do
  let value ← Session.ofExcept (field fields key systemClass)
  Session.create (← Session.ofExcept (tensorOfJson value))

/-- The system from its object. -/
def systemOfJson (value : Json) : Session Error System := do
  let fields ← Session.ofExcept (ofClass value systemClass)
  let positions ← systemTensor fields "positions"
  let cell ← systemTensor fields "cell"
  let types ← systemTensor fields "types"
  let pbc ← systemTensor fields "pbc"
  let pbc ← pbc.transfer (some .bool) none
  let system ← System.create types positions cell pbc
  match Registry.find? fields "neighbor_lists" with
  | none => return system
  | some lists =>
    let some lists := lists.array? | throw (.wrongValue "neighbor_lists" systemClass "an array")
    lists.foldlM attachEntry system

end Document

namespace System

/-- The document for a system and its neighbor lists. -/
def toJson (system : System) : Except Error String := do
  return (← Document.systemToJson system).dump

/-- The system from its document.  Everything ends up on the CPU. -/
def ofJson (text : String) : Session Error System := do
  Document.systemOfJson (← Session.ofExcept (Document.parse text))

end System

end Atomistic
