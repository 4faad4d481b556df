import Atomistic.Proofs.Document.Sound
import Atomistic.Proofs.Units

/-!
# The unit of a cutoff

A program holds options and changes them in place, by calls that may fail.  Whatever the calls,
the unit that is stored is empty or one of length, so the cutoff can be expressed in the unit of
an engine exactly if that unit is accepted, and an error is never about the unit that is stored
(`Atomistic.NeighborListOptions.Held.cutoff_expressed`).
-/

namespace Atomistic

namespace NeighborListOptions

/-- Options that a program holds after any calls, whether they succeed or fail. -/
inductive Held : NeighborListOptions → Prop
  | create (cutoff : Binary64) (fullList : Bool) (requestor : String) :
      Held (create cutoff fullList requestor)
  | ofJson {text : String} {options : NeighborListOptions}
      (read : NeighborListOptions.ofJson text = .ok options) : Held options
  | build {options built : NeighborListOptions} (held : Held options) {unit : String}
      (made : options.setLengthUnit unit = .ok built) : Held built
  | assign {options : NeighborListOptions} (held : Held options) (unit : String) :
      Held ((assignLengthUnit unit).run.run options).2
  | addRequestor {options : NeighborListOptions} (held : Held options) (requestor : String) :
      Held (options.addRequestor requestor)

variable {options : NeighborListOptions}

/-- A call that fails leaves the options as they were. -/
theorem assignLengthUnit_fails {unit : String} {fault : UnitError} {after : NeighborListOptions}
    (failed : (assignLengthUnit unit).run.run options = (.error fault, after)) :
    after = options := by
  rw [assignLengthUnit_run] at failed
  cases made : options.setLengthUnit unit with
  | ok changed =>
      rw [made] at failed
      cases failed
  | error found =>
      rw [made] at failed
      exact (Prod.mk.inj failed).2.symm

/-- A call keeps the unit fine, whether it succeeds or fails. -/
theorem Sound.assign (sound : options.Sound) (unit : String) :
    ((assignLengthUnit unit).run.run options).2.Sound := by
  rw [assignLengthUnit_run]
  cases made : options.setLengthUnit unit with
  | ok changed => exact (setLengthUnit_ok made).1
  | error fault => exact sound

/-- The unit stays fine, whatever is called. -/
theorem Held.sound (held : options.Held) : options.Sound := by
  induction held with
  | create cutoff fullList requestor => exact create_sound cutoff fullList requestor
  | ofJson read => exact (Document.ofJson_options_sound read).1
  | build _ made _ => exact (setLengthUnit_ok made).1
  | assign _ unit ih => exact ih.assign unit
  | addRequestor _ requestor ih => exact ih.addRequestor requestor

/-- What the cutoff is in the unit of an engine.  There is an error exactly if that unit is not
accepted, and the error names that unit, which is not the one that is stored.  Otherwise the
cutoff is multiplied by the ratio of the sizes of both units, or by one if either is empty. -/
structure Expresses (options : NeighborListOptions) (unit : String) : Prop where
  fails_iff : (∃ fault, options.engineCutoff unit = .error fault) ↔ ¬ Units.Accepts "length" unit
  names : ∀ fault, options.engineCutoff unit = .error fault →
    fault = .unknownUnit "length" unit ∧ (Error.units fault).kind = .invalidUnit ∧
      unit ≠ options.lengthUnit
  unspecified : Units.Accepts "length" unit → options.lengthUnit = "" ∨ unit = "" →
    options.engineCutoff unit = .ok (options.cutoff.mul .one)
  ratio : options.lengthUnit ≠ "" → unit ≠ "" → ∀ own other,
    Units.Measures "length" options.lengthUnit own → Units.Measures "length" unit other →
      options.engineCutoff unit = .ok (options.cutoff.mul (own.div other))

private theorem engineCutoff_ok {unit : String} {factor : Binary64}
    (converts : Units.Converts "length" options.lengthUnit unit factor) :
    options.engineCutoff unit = .ok (options.cutoff.mul factor) := by
  rw [engineCutoff, Units.conversion_ok_iff.mpr converts]
  rfl

/-- The unit of options that are fine is accepted. -/
theorem Sound.accepts (sound : options.Sound) : Units.Accepts "length" options.lengthUnit :=
  (Units.validate_ok_iff.mp sound).2

private theorem Sound.engineCutoff_refused (sound : options.Sound) {unit : String}
    (refused : ¬ Units.Accepts "length" unit) :
    options.engineCutoff unit = .error (.unknownUnit "length" unit) := by
  rw [engineCutoff, Units.conversion_refuses rfl sound.accepts refused]
  rfl

private theorem Sound.expresses (sound : options.Sound) (unit : String) :
    options.Expresses unit := by
  have succeeds (accepts : Units.Accepts "length" unit) :
      ∃ cutoff, options.engineCutoff unit = .ok cutoff := by
    obtain ⟨factor, converts⟩ := Units.exists_converts rfl sound.accepts accepts
    exact ⟨_, engineCutoff_ok converts⟩
  have fails_iff : (∃ fault, options.engineCutoff unit = .error fault) ↔
      ¬ Units.Accepts "length" unit := by
    refine ⟨fun ⟨fault, failed⟩ accepts => ?_,
      fun refused => ⟨_, sound.engineCutoff_refused refused⟩⟩
    obtain ⟨cutoff, succeeded⟩ := succeeds accepts
    rw [succeeded] at failed
    cases failed
  refine ⟨fails_iff, fun fault failed => ?_, fun accepts either => ?_,
    fun own_named named own other own_measures measures => ?_⟩
  · have refused := fails_iff.mp ⟨fault, failed⟩
    have same := failed.symm.trans (sound.engineCutoff_refused refused)
    cases same
    exact ⟨rfl, rfl, fun stored => refused (stored ▸ sound.accepts)⟩
  · exact engineCutoff_ok (.unspecified rfl sound.accepts accepts either)
  · exact engineCutoff_ok (.ratio own_named named own_measures measures)

/-- **The unit of a cutoff is never the trouble.**  Whatever calls led to options, their unit is
empty or the name of a unit of length; a call that fails to set the unit changes nothing; and the
cutoff is expressed in every unit that is accepted. -/
theorem Held.cutoff_expressed (held : options.Held) :
    Units.validate "length" options.lengthUnit = .ok () ∧
    (options.lengthUnit = "" ∨ ∃ amount, Units.Measures "length" options.lengthUnit amount) ∧
    (∀ unit fault after, (assignLengthUnit unit).run.run options = (.error fault, after) →
      after = options) ∧
    ∀ unit, options.Expresses unit :=
  ⟨held.sound, held.sound.accepts, fun _ _ _ failed => assignLengthUnit_fails failed,
    held.sound.expresses⟩

namespace Parsecs

/-- A cutoff of one half, for a model. -/
def asked : NeighborListOptions := .create ⟨0x3fe0000000000000⟩ false "model"

/-- The same cutoff in nanometers. -/
def measured : NeighborListOptions := { asked with lengthUnit := " NM" }

private theorem nanometers : Units.Measures "length" " NM" (.ofDecimal false 1 1) :=
  ⟨Units.lengths, ["nanometer", "nm"], rfl, .tail _ (.tail _ (.head _)), by decide⟩

private theorem micrometers : Units.Measures "length" "µM" (.ofDecimal false 1 4) :=
  ⟨Units.lengths, ["micrometer", "um", "µm"], rfl, .tail _ (.tail _ (.tail _ (.head _))), by decide⟩

private theorem measured_held : Held measured := by
  have built : asked.setLengthUnit " NM" = .ok measured := by
    rw [setLengthUnit_steps, Units.validate_ok_iff.mpr ⟨rfl, .inr ⟨_, nanometers⟩⟩]
    rfl
  exact .build (.create ⟨0x3fe0000000000000⟩ false "model") built

/-- Parsecs can not be set in place of nanometers, nor asked for; micrometers can be. -/
theorem cutoff_expressed_nanometers :
    Held ((assignLengthUnit "parsec").run.run measured).2 ∧
    ((assignLengthUnit "parsec").run.run measured).2 = measured ∧
    measured.engineCutoff "parsec" = .error (.unknownUnit "length" "parsec") ∧
    measured.engineCutoff "µM" =
      .ok (measured.cutoff.mul ((Binary64.ofDecimal false 1 1).div (.ofDecimal false 1 4))) := by
  have refused : Units.validate "length" "parsec" = .error (.unknownUnit "length" "parsec") := by
    decide
  have unaccepted : ¬ Units.Accepts "length" "parsec" := fun accepts => by
    rw [Units.validate_ok_iff.mpr ⟨rfl, accepts⟩] at refused
    cases refused
  have tried : Held ((assignLengthUnit "parsec").run.run measured).2 :=
    measured_held.assign "parsec"
  have kept : ((assignLengthUnit "parsec").run.run measured).2 = measured := by
    rw [assignLengthUnit_run, setLengthUnit_steps, refused]
    rfl
  obtain ⟨_, _, _, expressed⟩ := tried.cutoff_expressed
  rw [kept] at expressed
  obtain ⟨fault, failed⟩ := (expressed "parsec").fails_iff.mpr unaccepted
  obtain ⟨rfl, _⟩ := (expressed "parsec").names fault failed
  exact ⟨tried, kept, failed,
    (expressed "µM").ratio (by decide) (by decide) _ _ nanometers micrometers⟩

end Parsecs

end NeighborListOptions

end Atomistic
