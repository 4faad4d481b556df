import Atomistic.Proofs.Document.Options
import Atomistic.Proofs.NeighborList.Options
import Atomistic.Proofs.World

/-!
# Options that go through their text

Options can be written whatever the pattern of their cutoff and the spelling of their unit, since
the operations that give options only accept units that the reader accepts too.  What is read
from the text asks for the same list and is written as the same text
(`Atomistic.World.Reachable.options_return`).
-/

namespace Atomistic

namespace NeighborListOptions

/-- The options return from their text: it is ASCII, and is read as equal options, by nobody's
request, that are written as the same text again. -/
structure Returns (options : NeighborListOptions) : Prop where
  ascii : Json.Ascii options.toJson.toList
  reads : ∃ read, ofJson options.toJson = .ok read ∧ read.sameList options ∧
    read.cutoff.bits = options.cutoff.bits ∧ read.fullList = options.fullList ∧
    read.lengthUnit = options.lengthUnit ∧ read.requestors = [] ∧ read.toJson = options.toJson

private theorem Sound.returns {options : NeighborListOptions} (sound : options.Sound) :
    options.Returns where
  ascii := Json.lawful.ascii _
  reads := ⟨options.anonymous, ofJson_toJson sound, (sameList_iff _ _).mpr ⟨rfl, rfl, rfl⟩, rfl,
    rfl, rfl, rfl, rfl⟩

/-- What was read from a text is read from its own text again, without any change. -/
theorem ofJson_again {text : String} {accepted : NeighborListOptions}
    (read : ofJson text = .ok accepted) : ofJson accepted.toJson = .ok accepted := by
  obtain ⟨sound, unasked⟩ := Document.ofJson_options_sound read
  have same : accepted.anonymous = accepted := by rw [anonymous, ← unasked]
  rw [ofJson_toJson sound, same]

end NeighborListOptions

namespace World

/-- **Options return from their text.**  Whatever operations gave them, with any pattern as the
cutoff and any accepted spelling of the unit, options are read back equal from their text, and
options that were read from any text are read back without any change. -/
theorem Reachable.options_return {world : World} (reachable : world.Reachable)
    {options : NeighborListOptions} (present : options ∈ world.options) :
    options.Returns ∧ ∀ text accepted, NeighborListOptions.ofJson text = .ok accepted →
      NeighborListOptions.ofJson accepted.toJson = .ok accepted :=
  ⟨(reachable.sound.options options present).returns, fun _ _ => NeighborListOptions.ofJson_again⟩

namespace Micrometers

/-- Options with a negative NaN as the cutoff. -/
def asked : NeighborListOptions := .create ⟨0xfff800000000002a⟩ true "model"

/-- A unit in mixed case between blanks, with a letter that is not ASCII. -/
def unit : String := "\u00a0µM\u2003"

/-- The options with the unit. -/
def measured : NeighborListOptions := { asked with lengthUnit := unit }

/-- The options before and after the unit is set. -/
def world : World where
  options := [measured, asked]

private theorem world_reachable : world.Reachable := by
  have first : Step {} { options := [asked] } :=
    .options (.create ⟨0xfff800000000002a⟩ true "model")
  refine .tail (.single first) ?_
  have known : asked.setLengthUnit unit = .ok measured := by decide +kernel
  have second := @Step.setLengthUnit { options := [asked] } asked List.mem_cons_self unit
  rwa [setLengthUnit, change, NeighborListOptions.exec_assignLengthUnit, known] at second

/-- Options in micrometers are stored and read back. -/
theorem options_return_micrometers : world.Reachable ∧ measured ∈ world.options ∧
    measured.Returns :=
  ⟨world_reachable, List.mem_cons_self, (world_reachable.options_return List.mem_cons_self).1⟩

end Micrometers

end World

end Atomistic
