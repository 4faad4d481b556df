import Atomistic.Proofs.Json.Identity

/-!
# What documents rely on

What is proved of documents rests on a few laws of a reader and a writer of JSON
(`Atomistic.Json.Lawful`), and on nothing else about the form of the texts.  `Atomistic.Json.parse`
and `Atomistic.Json.dump` obey them (`Atomistic.Json.lawful`).
-/

namespace Atomistic

namespace Json

/-- The laws of a reader and a writer of texts.  They are about the values whose integers are in
the range of 64-bit words, whose doubles are finite, whose objects have sorted and distinct keys,
and that are nested at most 127 deep. -/
structure Lawful (read : String → Option Json) (write : Json → String) : Prop where
  /-- Such a value is read back from its text. -/
  reads : ∀ {value}, value.Writable maxDepth → read (write value) = some value
  /-- Nothing but such values is read, from any text. -/
  gives : ∀ {text value}, read text = some value → value.Writable maxDepth
  /-- Texts have only characters of ASCII. -/
  ascii : ∀ value, Ascii (write value).toList
  /-- The text of an object is not empty. -/
  nonempty : ∀ fields, write (object fields) ≠ ""

namespace Lawful

variable {read : String → Option Json} {write : Json → String}

/-- All numbers in what was read from a text are in range. -/
theorem inRange (lawful : Lawful read write) {text : String} {value : Json}
    (accepted : read text = some value) : value.InRange :=
  ⟨maxDepth, lawful.gives accepted⟩

end Lawful

/-- **The reader and the writer are lawful.** -/
theorem lawful : Lawful parse dump where
  reads := parse_dump
  gives := parse_writable
  ascii := dump_ascii
  nonempty fields empty := by
    have chars := congrArg String.toList empty
    rw [dump, String.toList_ofList] at chars
    cases fields <;> cases chars

end Json

end Atomistic
