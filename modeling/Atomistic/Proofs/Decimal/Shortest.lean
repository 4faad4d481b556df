import Atomistic.Decimal.Shortest
import Atomistic.Proofs.Binary64.Values

/-!
# What is written reads back

The nearest double to a decimal depends on the value of the decimal only
(`Atomistic.Binary64.ofDecimal_scale`), and the shortest decimal of a finite number
rounds to that number (`Atomistic.Decimal.toBinary64_shortest`).
-/

namespace Atomistic

namespace Decimal

private theorem digitCount_pos (n : Nat) : 0 < digitCount n := Nat.length_toDigits_pos

private theorem digitCount_le_iff {n k : Nat} (positive : 0 < k) : digitCount n ≤ k ↔ n < 10 ^ k :=
  Nat.length_toDigits_le_iff (by decide) positive

private theorem toDigits_scale {c : Nat} (positive : 0 < c) (k : Nat) :
    Nat.toDigits 10 (c * 10 ^ k) = Nat.toDigits 10 c ++ List.replicate k '0' := by
  induction k with
  | zero => simp
  | succ k ih =>
      have large : 0 < c * 10 ^ k := Nat.mul_pos positive (Nat.pow_pos (by decide))
      have appended := @Nat.toDigits_append_toDigits 10 (c * 10 ^ k) 0 (by decide) large (by decide)
      rw [Nat.pow_succ, ← Nat.mul_assoc, Nat.mul_comm _ 10, ← Nat.add_zero (10 * _), ← appended, ih,
        Nat.toDigits_zero, List.append_assoc, List.replicate_succ']

private theorem digitCount_scale {c : Nat} (positive : 0 < c) (k : Nat) :
    digitCount (c * 10 ^ k) = digitCount c + k := by
  rw [digitCount, toDigits_scale positive, List.length_append, List.length_replicate, digitCount]

end Decimal

namespace Binary64

open Decimal

private theorem ofDecimal_zero (negative : Bool) (exponent : Int) :
    ofDecimal negative 0 exponent = ofFields negative 0 0 := by
  rw [ofDecimal, if_pos rfl]

/-- A power of ten can be moved from the coefficient of a decimal to its exponent. -/
theorem ofDecimal_scale (negative : Bool) (c k : Nat) (exponent : Int) :
    ofDecimal negative (c * 10 ^ k) exponent = ofDecimal negative c (exponent + k) := by
  by_cases zero : c = 0
  · rw [zero, Nat.zero_mul, ofDecimal_zero, ofDecimal_zero]
  · have positive := Nat.pos_of_ne_zero zero
    have scaled : c * 10 ^ k ≠ 0 := (Nat.mul_pos positive (Nat.pow_pos (by decide))).ne'
    have leading : exponent + ((Nat.toDigits 10 (c * 10 ^ k)).length : Int) =
        exponent + k + ((Nat.toDigits 10 c).length : Int) := by
      have count := digitCount_scale positive k
      rw [digitCount, digitCount] at count
      omega
    have same : ofQuotient negative (c * 10 ^ k * Nat.pow 10 exponent.toNat)
          (Nat.pow 10 (-exponent).toNat) =
        ofQuotient negative (c * Nat.pow 10 (exponent + k).toNat)
          (Nat.pow 10 (-(exponent + k)).toNat) := by
      have powers : k + exponent.toNat + (-(exponent + k)).toNat =
          (exponent + k).toNat + (-exponent).toNat := by
        omega
      refine ofQuotient_congr negative (Nat.pow_pos (by decide)) (Nat.pow_pos (by decide)) ?_
      simp only [Nat.pow_eq]
      rw [Nat.mul_assoc, Nat.mul_assoc, Nat.mul_assoc, ← Nat.pow_add, ← Nat.pow_add, ← Nat.pow_add,
        ← powers, Nat.add_assoc]
    rw [ofDecimal, ofDecimal, if_neg zero, if_neg scaled, leading, same]

end Binary64

namespace Decimal

variable {x : Binary64}

/-- Three bits make less than a decimal digit. -/
theorem two_pow_lt {n digits : Nat} (bound : n < 3 * digits) : 2 ^ n < 10 ^ digits := by
  calc 2 ^ n < 2 ^ (3 * digits) := Nat.pow_lt_pow_right (by decide) bound
    _ = 8 ^ digits := Nat.pow_mul 2 3 digits
    _ ≤ 10 ^ digits := Nat.pow_le_pow_left (by decide) digits

private theorem significand_pos (nonzero : ¬ x.isZero) : 0 < x.significand :=
  Nat.pos_of_ne_zero fun zero => nonzero ((Binary64.isZero_iff x).mpr zero)

/-- The first digit of a finite number is where decimals are not taken for zero or
infinity. -/
theorem exact_leading (finite : x.isFinite) (nonzero : ¬ x.isZero) :
    (exact x).exponent + (digitCount (exact x).coefficient : Int) ≤ 400 ∧
      -400 ≤ (exact x).exponent + (digitCount (exact x).coefficient : Int) := by
  obtain ⟨small, least, greatest, _⟩ := Binary64.fits finite
  have positive := significand_pos nonzero
  have count_pos := digitCount_pos (exact x).coefficient
  let up := x.exponent.toNat
  let down := (-x.exponent).toNat
  have coefficient : (exact x).coefficient = x.significand * 2 ^ up * 5 ^ down := rfl
  have exponent : (exact x).exponent = -(down : Int) := by
    change min x.exponent 0 = -((-x.exponent).toNat : Int)
    omega
  constructor
  · have count : digitCount (exact x).coefficient ≤ 400 + down := by
      rw [digitCount_le_iff (by omega)]
      have power : x.significand * 2 ^ up < 10 ^ 400 := by
        calc x.significand * 2 ^ up < 2 ^ 53 * 2 ^ up :=
              Nat.mul_lt_mul_of_pos_right small (Nat.pow_pos (by decide))
          _ = 2 ^ (53 + up) := (Nat.pow_add 2 53 up).symm
          _ < 10 ^ 400 := two_pow_lt (by omega)
      have base : 5 ^ down ≤ 10 ^ down := Nat.pow_le_pow_left (by decide) _
      rw [coefficient, pow_add]
      exact Nat.mul_lt_mul_of_lt_of_le power base (Nat.pow_pos (by decide))
    omega
  · by_cases near : down ≤ 400
    · omega
    · have many : ¬ digitCount (exact x).coefficient ≤ down - 400 := by
        rw [digitCount_le_iff (by omega), not_lt]
        have power : 2 ^ down ≤ 10 ^ 400 := (two_pow_lt (by omega)).le
        have scaled : 10 ^ 400 * 10 ^ (down - 400) ≤ 10 ^ 400 * (exact x).coefficient := by
          calc 10 ^ 400 * 10 ^ (down - 400) = 10 ^ down :=
              pow_mul_pow_sub 10 (Nat.le_of_not_le near)
            _ = 2 ^ down * 5 ^ down := Nat.mul_pow 2 5 down
            _ ≤ 10 ^ 400 * (exact x).coefficient := by
                refine Nat.mul_le_mul power ?_
                rw [coefficient]
                exact Nat.le_mul_of_pos_left _ (Nat.mul_pos positive (Nat.pow_pos (by decide)))
        exact le_of_mul_le_mul_left scaled (pow_pos (by decide) 400)
      omega

/-- All digits of a finite number round to it. -/
theorem toBinary64_exact (finite : x.isFinite) (nonzero : ¬ x.isZero) :
    (exact x).toBinary64 x.negative = x := by
  obtain ⟨upper, lower⟩ := exact_leading finite nonzero
  have positive := significand_pos nonzero
  have coefficient : (exact x).coefficient ≠ 0 :=
    (Nat.mul_pos (Nat.mul_pos positive (Nat.pow_pos (by decide))) (Nat.pow_pos (by decide))).ne'
  rw [digitCount] at upper lower
  rw [toBinary64, Binary64.ofDecimal, if_neg coefficient]
  simp only [if_neg (Int.not_lt.mpr upper), if_neg (Int.not_lt.mpr lower)]
  have up : (exact x).exponent.toNat = 0 := by
    change (min x.exponent 0).toNat = 0
    omega
  have down : (-(exact x).exponent).toNat = (-x.exponent).toNat := by
    change (-(min x.exponent 0)).toNat = _
    omega
  refine Eq.trans ?_ (Binary64.ofQuotient_magnitude finite)
  rw [up, down]
  refine Binary64.ofQuotient_congr x.negative (Nat.pow_pos (by decide)) (Nat.pow_pos (by decide)) ?_
  change x.significand * Nat.pow 2 x.exponent.toNat * Nat.pow 5 (-x.exponent).toNat * 10 ^ 0 *
      Nat.pow 2 (-x.exponent).toNat =
    x.significand * Nat.pow 2 x.exponent.toNat * Nat.pow 10 (-x.exponent).toNat
  simp only [Nat.pow_eq, Nat.pow_zero, Nat.mul_one]
  rw [Nat.mul_assoc, ← Nat.mul_pow]

private theorem toBinary64_withDigits {tie : Tie} {count : Nat} {d : Decimal}
    (found : withDigits? tie x count = some d) : d.toBinary64 x.negative = x := by
  rw [withDigits?] at found
  dsimp only at found
  split at found
  next hits =>
    simp only [Bool.and_eq_true, beq_iff_eq] at hits
    cases found
    split
    · exact hits.2
    · exact hits.1
  next =>
    split at found
    next hit =>
      cases found
      exact eq_of_beq hit
    next =>
      split at found
      next hit =>
        cases found
        exact eq_of_beq hit
      next => cases found

private theorem toBinary64_stripZeros (negative : Bool) (fuel : Nat) (d : Decimal) :
    (stripZeros fuel d).toBinary64 negative = d.toBinary64 negative := by
  induction fuel generalizing d with
  | zero => rfl
  | succ fuel ih =>
      rw [stripZeros]
      split
      next zeros =>
        have whole : d.coefficient / 10 * 10 ^ 1 = d.coefficient := by omega
        rw [ih, toBinary64, toBinary64]
        exact (Binary64.ofDecimal_scale negative (d.coefficient / 10) 1 d.exponent).symm.trans
          (by rw [whole])
      next => rfl

/-- The shortest decimal of zero is zero. -/
theorem shortest_zero (tie : Tie) (zero : x.isZero) : shortest tie x = ⟨0, 0⟩ := by
  rw [shortest, if_pos zero]

private theorem ofFields_zero (zero : x.isZero) : Binary64.ofFields x.negative 0 0 = x := by
  simp only [Binary64.isZero, Bool.and_eq_true, beq_iff_eq] at zero
  have fields := x.ofFields_fields
  rw [zero.1, zero.2] at fields
  exact fields

/-- **The shortest decimal reads back.** It rounds to the number it was made for. -/
theorem toBinary64_shortest (tie : Tie) (finite : x.isFinite) :
    (shortest tie x).toBinary64 x.negative = x := by
  by_cases zero : x.isZero
  · rw [shortest_zero tie zero, toBinary64, Binary64.ofDecimal_zero]
    exact ofFields_zero zero
  · rw [shortest, if_neg zero, toBinary64_stripZeros]
    cases found : (List.range 17).findSome? fun n => withDigits? tie x (n + 1) with
    | none => exact toBinary64_exact finite zero
    | some d =>
        obtain ⟨count, _, hit⟩ := List.exists_of_findSome?_eq_some found
        exact toBinary64_withDigits hit

/-- Only zero is written with the coefficient zero. -/
theorem shortest_coefficient_pos (tie : Tie) (finite : x.isFinite) (nonzero : ¬ x.isZero) :
    0 < (shortest tie x).coefficient := by
  refine Nat.pos_of_ne_zero fun absent => nonzero ?_
  have same := toBinary64_shortest tie finite
  rw [toBinary64, absent, Binary64.ofDecimal_zero] at same
  rw [← same]
  cases x.negative <;> decide

end Decimal

end Atomistic
