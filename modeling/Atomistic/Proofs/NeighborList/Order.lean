import Atomistic.Proofs.NeighborList.Options

/-!
# The order of options

Options are kept in a registry under an order that starts with the cutoff, and cutoffs are any
patterns: numbers, both zeros, infinities and NaNs of both signs.  The place of a pattern is the
signed integer that the patterns become when the lower bits of the negative ones are complemented
(`Atomistic.Binary64.rank_eq_toInt`), so the order is total and tells apart what equality tells
apart (`Atomistic.NeighborListOptions.compare_lawful`).
-/

namespace Atomistic

/-- Complementing the lower bits of a word counts them from the other end. -/
theorem complement_lower {low : Nat} (below : low < 0x8000000000000000) :
    low ^^^ 0x7fffffffffffffff = 0x7fffffffffffffff - low := by
  have complement := congrArg BitVec.toNat (BitVec.xor_allOnes (x := BitVec.ofNat 63 low))
  rwa [BitVec.toNat_xor, BitVec.toNat_not, BitVec.toNat_allOnes, BitVec.toNat_ofNat,
    Nat.mod_eq_of_lt below] at complement

/-- The place of a pattern is the pattern read as a signed integer, after the sign was spread
over the lower bits to complement those of a negative number. -/
theorem Binary64.rank_eq_toInt (x : Binary64) : x.rank =
    (x.bits.toBitVec ^^^ (x.bits.toBitVec.sshiftRight 63 >>> 1)).toInt := by
  have pattern : x.bits.toBitVec.toNat = x.bits.toNat := rfl
  have below : x.bits.toNat < 2 ^ 64 := x.bits.toNat_lt
  cases sign : x.bits.toBitVec.msb with
  | false =>
      have small : x.bits.toNat < 2 ^ 63 := by
        simpa [BitVec.msb_eq_decide, pattern] using sign
      have spread : x.bits.toBitVec.sshiftRight 63 = 0#64 := by
        rw [BitVec.sshiftRight_eq_of_msb_false sign]
        exact BitVec.eq_of_toNat_eq (by simp [Nat.shiftRight_eq_div_pow, pattern]; omega)
      have same : x.bits.toBitVec ^^^ (0#64 >>> 1) = x.bits.toBitVec := BitVec.xor_zero
      rw [spread, same, BitVec.toInt_eq_toNat_of_msb sign, pattern]
      simp only [rank, negative]
      grind
  | true =>
      have large : 2 ^ 63 ≤ x.bits.toNat := by
        simpa [BitVec.msb_eq_decide, pattern] using sign
      have spread : x.bits.toBitVec.sshiftRight 63 = BitVec.allOnes 64 := by
        rw [BitVec.sshiftRight_eq_of_msb_true sign]
        exact BitVec.eq_of_toNat_eq (by simp [Nat.shiftRight_eq_div_pow, pattern]; omega)
      have lower : (BitVec.allOnes 64 >>> 1).toNat = 2 ^ 63 - 1 := rfl
      have top : x.bits.toNat / 2 ^ 63 = 1 := by omega
      have complement : x.bits.toNat % 2 ^ 63 ^^^ (2 ^ 63 - 1) =
          2 ^ 63 - 1 - x.bits.toNat % 2 ^ 63 :=
        complement_lower (Nat.mod_lt _ (by decide))
      have turned : (x.bits.toBitVec ^^^ (BitVec.allOnes 64 >>> 1)).toNat =
          2 ^ 63 + (2 ^ 63 - 1 - x.bits.toNat % 2 ^ 63) := by
        rw [BitVec.toNat_xor, lower, pattern,
          ← Nat.div_add_mod (x.bits.toNat ^^^ (2 ^ 63 - 1)) (2 ^ 63), Nat.xor_div_two_pow,
          Nat.xor_mod_two_pow, top, Nat.div_eq_of_lt (a := 2 ^ 63 - 1) (by omega),
          Nat.mod_eq_of_lt (a := 2 ^ 63 - 1) (by omega), complement, Nat.xor_zero, Nat.mul_one]
      rw [spread, BitVec.toInt_eq_toNat_cond, turned]
      simp only [rank, negative]
      grind

/-- A negative NaN, `-∞`, the two zeros, `∞` and a NaN. -/
example : [⟨0xfff8000000000000⟩, ⟨0xfff0000000000000⟩, ⟨0x8000000000000000⟩, ⟨0⟩,
    ⟨0x7ff0000000000000⟩, ⟨0x7ff8000000000000⟩].Pairwise
      fun x y : Binary64 => x.rank < y.rank := by decide

namespace NeighborListOptions

/-- Asking any number of times changes only who asked. -/
theorem foldl_addRequestor (names : List String) (options : NeighborListOptions) :
    ∃ requestors, names.foldl addRequestor options = { options with requestors } := by
  induction names generalizing options with
  | nil => exact ⟨options.requestors, rfl⟩
  | cons name rest ih =>
      obtain ⟨requestors, same⟩ := ih (options.addRequestor name)
      obtain ⟨cutoff, fullList, lengthUnit⟩ := addRequestor_keys options name
      refine ⟨requestors, ?_⟩
      rw [List.foldl_cons, same]
      simp [cutoff, fullList, lengthUnit]

/-- **The order of options is lawful.**  For any options, whatever the patterns of their cutoffs:
the order is reflexive, antisymmetric up to equality, transitive and total, two options are at the
same place exactly if they are equal, which is having the same pattern, direction and unit, and
the partial order is this one.  Any further requests for either list change none of this. -/
theorem compare_lawful (a b c : NeighborListOptions) :
    compare a a = .eq ∧ compare b a = (compare a b).swap ∧
    ((compare a b).isLE ∧ (compare b a).isLE → a.sameList b) ∧
    ((compare a b).isLE ∧ (compare b c).isLE → (compare a c).isLE) ∧
    (∀ place, compare a b = place ∧ compare b c = place → compare a c = place) ∧
    ((compare a b).isLE ∨ (compare b a).isLE) ∧
    (compare a b = .eq ↔ a.sameList b) ∧
    (a.sameList b ↔
      a.cutoff.bits = b.cutoff.bits ∧ a.fullList = b.fullList ∧ a.lengthUnit = b.lengthUnit) ∧
    a.partialOrder b = some (compare a b) ∧
    ∀ first second : List String,
      compare (first.foldl addRequestor a) (second.foldl addRequestor b) = compare a b ∧
      (first.foldl addRequestor a).sameList (second.foldl addRequestor b) = a.sameList b ∧
      (first.foldl addRequestor a).partialOrder (second.foldl addRequestor b) =
        a.partialOrder b := by
  have swap : compare b a = (compare a b).swap := Std.OrientedCmp.eq_swap
  refine ⟨Std.ReflCmp.compare_self, swap, ?antisymmetric, ?transitive, ?uniform, ?total,
    compare_eq_iff a b, sameList_iff a b, rfl, ?asked⟩
  case antisymmetric =>
    rintro ⟨before, after⟩
    exact (compare_eq_iff a b).mp (Std.OrientedCmp.isLE_antisymm before after)
  case transitive =>
    rintro ⟨first, second⟩
    exact Std.TransCmp.isLE_trans first second
  case uniform =>
    rintro place ⟨first, second⟩
    cases place with
    | lt => exact Std.TransCmp.lt_trans first second
    | eq => exact Std.TransCmp.eq_trans first second
    | gt => exact Std.TransCmp.gt_trans first second
  case total =>
    rw [swap]
    cases compare a b <;> simp
  case asked =>
    intro first second
    obtain ⟨left, changed⟩ := foldl_addRequestor first a
    obtain ⟨right, altered⟩ := foldl_addRequestor second b
    rw [changed, altered]
    exact ⟨order_requestors a b left right, rfl, rfl⟩

end NeighborListOptions

end Atomistic
