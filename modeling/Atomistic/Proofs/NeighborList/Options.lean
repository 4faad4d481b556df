import Atomistic.Error
import Atomistic.NeighborList.Options
import Atomistic.Proofs.InPlace
import Atomistic.Proofs.Results
import Mathlib.Order.Basic

/-!
# Options of neighbor lists

The options that can be made have no unit or a unit of length
(`Atomistic.NeighborListOptions.Sound`).  They are ordered by what identifies a list,
whoever asked for it (`Atomistic.NeighborListOptions.order_requestors`), and the order tells
apart exactly what equality tells apart (`Atomistic.NeighborListOptions.compare_eq_iff`).
-/

namespace Atomistic

/-- Different patterns have different places in the order, also the two zeros and the NaNs. -/
theorem Binary64.rank_injective : Function.Injective Binary64.rank := by
  intro x y same
  have below (z : Binary64) : z.bits.toNat < 0x10000000000000000 := z.bits.toNat_lt
  have patterns : x.bits.toNat = y.bits.toNat := by
    have first := below x
    have second := below y
    simp only [rank, negative, decide_eq_true_eq] at same
    split at same <;> split at same <;> omega
  cases x
  cases y
  exact congrArg Binary64.mk (UInt64.toNat_inj.mp patterns)

namespace NeighborListOptions

/-- The unit is known, or empty. -/
def Sound (options : NeighborListOptions) : Prop :=
  Units.validate "length" options.lengthUnit = .ok ()

/-- Who asks for a list has no part in which list it is. -/
theorem addRequestor_keys (options : NeighborListOptions) (requestor : String) :
    (options.addRequestor requestor).cutoff = options.cutoff ∧
      (options.addRequestor requestor).fullList = options.fullList ∧
      (options.addRequestor requestor).lengthUnit = options.lengthUnit := by
  rw [addRequestor]
  split <;> exact ⟨rfl, rfl, rfl⟩

/-- Options stay sound when someone else asks for them. -/
theorem Sound.addRequestor {options : NeighborListOptions} (sound : options.Sound)
    (requestor : String) : (options.addRequestor requestor).Sound := by
  rw [Sound, (addRequestor_keys options requestor).2.2]
  exact sound

/-- The empty unit is fine, whether it is in the table or not. -/
theorem validate_empty : Units.validate "length" "" = .ok () := by
  rw [Units.validate, Units.size, Units.table?]
  dsimp only
  cases Units.lengths.find? fun entry => entry.1.contains (Units.canonical "") <;> rfl

/-- New options are sound. -/
theorem create_sound (cutoff : Binary64) (fullList : Bool) (requestor : String) :
    (create cutoff fullList requestor).Sound :=
  @Sound.addRequestor { cutoff, fullList } validate_empty requestor

/-- The unit is checked before it is set. -/
theorem setLengthUnit_steps (options : NeighborListOptions) (unit : String) :
    options.setLengthUnit unit = do
      Units.validate "length" unit
      return { options with lengthUnit := unit } := by
  rw [setLengthUnit, assignLengthUnit, InPlace.copied_ofExcept_bind]
  rfl

/-- A unit that was set is the only thing that changed. -/
theorem setLengthUnit_ok {options changed : NeighborListOptions} {unit : String}
    (made : options.setLengthUnit unit = .ok changed) :
    changed.Sound ∧ changed = { options with lengthUnit := unit } := by
  rw [setLengthUnit_steps] at made
  obtain ⟨_, valid, same⟩ := ok_of_bind made
  cases same
  exact ⟨valid, rfl⟩

/-- Options are changed in place to those that are built with the unit, or not at all. -/
theorem assignLengthUnit_run (options : NeighborListOptions) (unit : String) :
    (assignLengthUnit unit).run.run options =
      match options.setLengthUnit unit with
      | .ok changed => (.ok (), changed)
      | .error fault => (.error fault, options) := by
  rw [setLengthUnit_steps, assignLengthUnit]
  cases Units.validate "length" unit with
  | ok accepted => rfl
  | error fault => rfl

/-- **The unit of options is set as it is set in a copy, or not at all.** -/
theorem exec_assignLengthUnit (options : NeighborListOptions) (unit : String)
    (workspace : Workspace) :
    (InPlace.inSession (ExceptT.adapt Error.units (assignLengthUnit unit))).exec options workspace =
      match options.setLengthUnit unit with
      | .ok changed => ((.ok (), changed), workspace)
      | .error fault => ((.error (.units fault), options), workspace) := by
  rw [InPlace.exec_adapt, assignLengthUnit_run]
  cases options.setLengthUnit unit <;> rfl

private theorem compare_eq_lex : (compare : NeighborListOptions → NeighborListOptions → Ordering) =
    compareLex (compareOn fun options => options.cutoff.rank)
      (compareLex (compareOn fullList) (compareOn lengthUnit)) := rfl

instance : Std.TransOrd NeighborListOptions where
  eq_swap := by
    rw [compare_eq_lex]
    exact Std.OrientedCmp.eq_swap
  isLE_trans := by
    rw [compare_eq_lex]
    exact Std.TransCmp.isLE_trans

/-- Options are for the same list if cutoff, flag and unit are the same. -/
theorem sameList_iff (a b : NeighborListOptions) : a.sameList b ↔
    a.cutoff.bits = b.cutoff.bits ∧ a.fullList = b.fullList ∧ a.lengthUnit = b.lengthUnit := by
  obtain ⟨⟨_⟩, _⟩ := a
  obtain ⟨⟨_⟩, _⟩ := b
  simp [sameList, and_assoc]

/-- The order and equality tell the same options apart. -/
theorem compare_eq_iff (a b : NeighborListOptions) : compare a b = .eq ↔ a.sameList b := by
  have cutoffs : a.cutoff.rank = b.cutoff.rank ↔ a.cutoff = b.cutoff :=
    Binary64.rank_injective.eq_iff
  change order a b = .eq ↔ _
  simp [order, Ordering.then_eq_eq, sameList, cutoffs, and_assoc]

/-- Who asked for a list plays no role in the order. -/
theorem order_requestors (a b : NeighborListOptions) (first second : List String) :
    compare { a with requestors := first } { b with requestors := second } = compare a b := rfl

end NeighborListOptions

end Atomistic
