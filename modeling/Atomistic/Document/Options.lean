import Atomistic.Document.Access
import Atomistic.Json.Writer

/-!
# Options in documents

The cutoff of a neighbor list is stored as its bit pattern, read as a signed
integer.  Who asked for the list is not stored.
-/

namespace Atomistic

namespace Document

/-- The class of documents for options. -/
def optionsClass : String := "NeighborListOptions"

/-- The object for options. -/
def optionsToJson (options : NeighborListOptions) : Json :=
  .object
    [ ("class", .string optionsClass),
      ("cutoff", .integer options.cutoff.signedBits),
      ("full_list", .bool options.fullList),
      ("length_unit", .string options.lengthUnit) ]

/-- The options from their object. -/
def optionsOfJson (value : Json) : Except Error NeighborListOptions := do
  let fields ← ofClass value optionsClass
  let some bits := (Registry.find? fields "cutoff").bind Json.integer?
    | throw (.wrongValue "cutoff" optionsClass "a number")
  let some fullList := (Registry.find? fields "full_list").bind Json.bool?
    | throw (.wrongValue "full_list" optionsClass "a boolean")
  let options : NeighborListOptions := { cutoff := .ofSignedBits bits, fullList }
  match Registry.find? fields "length_unit" with
  | none => return options
  | some unit =>
    let some unit := unit.string? | throw (.wrongValue "length_unit" optionsClass "a string")
    (options.setLengthUnit unit).mapError Error.units

end Document

namespace NeighborListOptions

/-- The document for options. -/
def toJson (options : NeighborListOptions) : String :=
  (Document.optionsToJson options).dump

/-- The options from their document. -/
def ofJson (text : String) : Except Error NeighborListOptions := do
  Document.optionsOfJson (← Document.parse text)

end NeighborListOptions

end Atomistic
