import Atomistic.Error
import Atomistic.Json.Reader

/-!
# Documents

A document is a JSON object that names its class.  What is missing or of the
wrong kind is reported with the key and the thing that the document describes.
-/

namespace Atomistic

namespace Document

/-- The JSON value of a text. -/
def parse (text : String) : Except Error Json :=
  match Json.parse text with
  | some value => .ok value
  | none => .error .notJson

/-- The value under a key that has to be there. -/
def field (fields : List (String × Json)) (key what : String) : Except Error Json :=
  match Registry.find? fields key with
  | some value => .ok value
  | none => .error (.keyMissing key what)

/-- The fields of a document of a class. -/
def ofClass (value : Json) (className : String) : Except Error (List (String × Json)) :=
  match value.object? with
  | none => .error (.notAnObject className)
  | some fields =>
    match (Registry.find? fields "class").bind Json.string? with
    | none => .error (.keyMissing "class" className)
    | some name => if name = className then .ok fields else .error (.wrongClass className)

end Document

end Atomistic
