import Atomistic.Binary64.Rounding
import Mathlib.Algebra.Order.Field.Basic
import Mathlib.Data.Int.Log
import Mathlib.Data.Rat.Cast.Order
import Mathlib.Data.Rat.Floor
import Mathlib.Tactic.FieldSimp
import Mathlib.Tactic.Linarith
import Mathlib.Tactic.NormNum
import Mathlib.Tactic.Ring

/-!
# What rounding depends on

Rounding to a binary format sees a quotient of natural numbers only as a rational
number (`Atomistic.BinaryFormat.round_congr`).  A number of the format rounds to
itself (`Atomistic.BinaryFormat.round_exact`), and every result is a number of the
format (`Atomistic.BinaryFormat.round_fits`).
-/

namespace Atomistic

namespace BinaryFormat

/-- The two natural numbers that stand for a power of two make that power. -/
theorem pow_toNat (e : Int) :
    ((Nat.pow 2 e.toNat : Nat) : ℚ) = 2 ^ e * ((Nat.pow 2 (-e).toNat : Nat) : ℚ) := by
  have cast (n : Nat) : ((Nat.pow 2 n : Nat) : ℚ) = 2 ^ n := by
    rw [Nat.pow_eq]
    push_cast
    rfl
  rw [cast, cast, ← zpow_natCast, ← zpow_natCast, ← zpow_add₀ (by norm_num : (2 : ℚ) ≠ 0)]
  congr 1
  omega

private theorem pow_pos (n : Nat) : (0 : ℚ) < ((Nat.pow 2 n : Nat) : ℚ) := by
  exact_mod_cast Nat.pow_pos (n := n) (by decide : 0 < 2)

/-- Comparing a quotient with a multiple of a power of two in natural numbers. -/
theorem scaled_le_iff {a b : Nat} (positive : 0 < b) (k : Nat) (e : Int) :
    k * (b * Nat.pow 2 e.toNat) ≤ a * Nat.pow 2 (-e).toNat ↔ (k : ℚ) * 2 ^ e ≤ a / b := by
  have bottom : (0 : ℚ) < b := by exact_mod_cast positive
  rw [← @Nat.cast_le ℚ, Nat.cast_mul, Nat.cast_mul, Nat.cast_mul, pow_toNat e, le_div_iff₀ bottom]
  refine Iff.trans ?_ (mul_le_mul_iff_of_pos_right (pow_pos (-e).toNat))
  ring_nf

private theorem le_scaled_iff {a b : Nat} (positive : 0 < b) (k : Nat) (e : Int) :
    a * Nat.pow 2 (-e).toNat ≤ k * (b * Nat.pow 2 e.toNat) ↔ (a : ℚ) / b ≤ k * 2 ^ e := by
  have bottom : (0 : ℚ) < b := by exact_mod_cast positive
  rw [← @Nat.cast_le ℚ, Nat.cast_mul, Nat.cast_mul, Nat.cast_mul, pow_toNat e, div_le_iff₀ bottom]
  refine Iff.trans ?_ (mul_le_mul_iff_of_pos_right (pow_pos (-e).toNat))
  ring_nf

private theorem log_eq {q : ℚ} {e : Int} (positive : 0 < q) (lower : (2 : ℚ) ^ e ≤ q)
    (upper : q < 2 ^ (e + 1)) : Int.log 2 q = e := by
  have above := (Int.zpow_le_iff_le_log (by decide : 1 < 2) positive).mp (by exact_mod_cast lower)
  have below := (Int.lt_zpow_iff_log_lt (by decide : 1 < 2) positive).mp (by exact_mod_cast upper)
  omega

private theorem two_pow_log2_le {n : Nat} (positive : 0 < n) : (2 : ℚ) ^ (n.log2 : Int) ≤ n := by
  rw [zpow_natCast]
  exact_mod_cast Nat.log2_self_le positive.ne'

private theorem lt_two_pow_log2 (n : Nat) : (n : ℚ) < 2 ^ ((n.log2 : Int) + 1) := by
  have bound : n < 2 ^ (n.log2 + 1) := Nat.lt_log2_self
  have cast : ((n.log2 : Int) + 1) = ((n.log2 + 1 : Nat) : Int) := by push_cast; rfl
  rw [cast, zpow_natCast]
  exact_mod_cast bound

/-- The computed logarithm is the logarithm of the quotient. -/
theorem log2Quotient_eq {a b : Nat} (top : 0 < a) (bottom : 0 < b) :
    log2Quotient a b = Int.log 2 ((a : ℚ) / b) := by
  have a_pos : (0 : ℚ) < a := by exact_mod_cast top
  have b_pos : (0 : ℚ) < b := by exact_mod_cast bottom
  have quotient_pos : (0 : ℚ) < a / b := div_pos a_pos b_pos
  have two_pos : ∀ e : Int, (0 : ℚ) < 2 ^ e := fun e => zpow_pos (by norm_num) e
  have add := fun e f : Int => zpow_add₀ (by norm_num : (2 : ℚ) ≠ 0) e f
  -- the guess is off by at most one
  have upper : (a : ℚ) / b < 2 ^ ((a.log2 : Int) - b.log2 + 1) := by
    rw [div_lt_iff₀ b_pos]
    calc (a : ℚ) < 2 ^ ((a.log2 : Int) + 1) := lt_two_pow_log2 a
      _ = 2 ^ ((a.log2 : Int) - b.log2 + 1) * 2 ^ (b.log2 : Int) := by
        rw [← add]
        congr 1
        omega
      _ ≤ 2 ^ ((a.log2 : Int) - b.log2 + 1) * b :=
        mul_le_mul_of_nonneg_left (two_pow_log2_le bottom) (two_pos _).le
  have lower : (2 : ℚ) ^ ((a.log2 : Int) - b.log2 - 1) ≤ a / b := by
    rw [le_div_iff₀ b_pos]
    calc (2 : ℚ) ^ ((a.log2 : Int) - b.log2 - 1) * b
        ≤ 2 ^ ((a.log2 : Int) - b.log2 - 1) * 2 ^ ((b.log2 : Int) + 1) :=
          mul_le_mul_of_nonneg_left (lt_two_pow_log2 b).le (two_pos _).le
      _ = 2 ^ (a.log2 : Int) := by
        rw [← add]
        congr 1
        omega
      _ ≤ a := two_pow_log2_le top
  have compare := scaled_le_iff (a := a) bottom 1 ((a.log2 : Int) - b.log2)
  rw [one_mul, Nat.cast_one, one_mul] at compare
  rw [log2Quotient]
  split
  next reached => exact (log_eq quotient_pos (compare.mp reached) upper).symm
  next missed =>
    rw [compare, not_le] at missed
    refine (log_eq quotient_pos lower ?_).symm
    rw [sub_add_cancel]
    exact missed

end BinaryFormat

/-- Rounding to an integer does not depend on a common factor. -/
theorem roundDiv_scale (a b : Nat) {k : Nat} (positive : 0 < k) :
    roundDiv (k * a) (k * b) = roundDiv a b := by
  rw [roundDiv, roundDiv, Nat.mul_div_mul_left a b positive, Nat.mul_mod_mul_left,
    ← Nat.mul_assoc, Nat.mul_comm 2 k, Nat.mul_assoc]
  simp only [Nat.mul_lt_mul_left positive]

private theorem roundDiv_congr {a b c d : Nat} (bottom : 0 < b) (other : 0 < d)
    (same : a * d = c * b) :
    roundDiv a b = roundDiv c d :=
  calc roundDiv a b = roundDiv (d * a) (d * b) := (roundDiv_scale a b other).symm
    _ = roundDiv (b * c) (b * d) := by
      rw [Nat.mul_comm d a, same, Nat.mul_comm c b, Nat.mul_comm d b]
    _ = roundDiv c d := roundDiv_scale c d bottom

private theorem roundDiv_mul (m : Nat) {k : Nat} (positive : 0 < k) : roundDiv (m * k) k = m := by
  rw [roundDiv, Nat.mul_div_cancel m positive, Nat.mul_mod_left, Nat.mul_zero, if_pos positive]

private theorem roundDiv_le {a b k : Nat} (bottom : 0 < b) (bound : a ≤ k * b) :
    roundDiv a b ≤ k := by
  have whole : a / b ≤ k := Nat.div_le_of_le_mul (by rw [Nat.mul_comm]; exact bound)
  have split := Nat.div_add_mod a b
  -- a quotient that is rounded up is not a whole number
  have strict : a % b ≠ 0 → a / b + 1 ≤ k := by
    intro rest
    by_contra many
    have equal : a / b = k := by omega
    rw [equal, Nat.mul_comm] at split
    omega
  rw [roundDiv]
  split
  · exact whole
  · split
    · exact strict (by omega)
    · split
      · exact whole
      · exact strict (by omega)

private theorem le_roundDiv {a b k : Nat} (bottom : 0 < b) (bound : k * b ≤ a) :
    k ≤ roundDiv a b := by
  have whole : k ≤ a / b := (Nat.le_div_iff_mul_le bottom).mpr bound
  rw [roundDiv]
  split
  · exact whole
  · split
    · omega
    · split <;> omega

namespace BinaryFormat

variable (format : BinaryFormat)

/-- The exponent of the last bit that a quotient has room for. -/
def lastBit (numerator denominator : Nat) : Int :=
  max format.least (log2Quotient numerator denominator - ((format.precision : Int) - 1))

/-- The number of last bits that a quotient is rounded to. -/
def bits (numerator denominator : Nat) : Nat :=
  roundDiv (numerator * Nat.pow 2 (-format.lastBit numerator denominator).toNat)
    (denominator * Nat.pow 2 (format.lastBit numerator denominator).toNat)

private theorem round_eq (numerator denominator : Nat) :
    format.round numerator denominator =
      let exponent := format.lastBit numerator denominator
      let rounded := format.bits numerator denominator
      let parts : Nat × Int :=
        if rounded = Nat.pow 2 format.precision then
          (Nat.pow 2 (format.precision - 1), exponent + 1)
        else (rounded, exponent)
      if format.greatest < parts.2 then none else some parts := rfl

variable {format}

/-- **Rounding sees a rational number.** -/
theorem round_congr {a b c d : Nat} (a_pos : 0 < a) (b_pos : 0 < b) (c_pos : 0 < c)
    (d_pos : 0 < d) (same : a * d = c * b) : format.round a b = format.round c d := by
  have quotient : (a : ℚ) / b = c / d := by
    have b_ne : (b : ℚ) ≠ 0 := by exact_mod_cast b_pos.ne'
    have d_ne : (d : ℚ) ≠ 0 := by exact_mod_cast d_pos.ne'
    rw [div_eq_div_iff b_ne d_ne]
    exact_mod_cast same
  have exponent : format.lastBit a b = format.lastBit c d := by
    rw [lastBit, lastBit, log2Quotient_eq a_pos b_pos, log2Quotient_eq c_pos d_pos, quotient]
  have rounded : format.bits a b = format.bits c d := by
    rw [bits, bits, exponent]
    refine roundDiv_congr (Nat.mul_pos b_pos (Nat.pow_pos (by decide)))
      (Nat.mul_pos d_pos (Nat.pow_pos (by decide))) ?_
    calc a * Nat.pow 2 (-format.lastBit c d).toNat * (d * Nat.pow 2 (format.lastBit c d).toNat)
        = a * d * (Nat.pow 2 (-format.lastBit c d).toNat * Nat.pow 2
            (format.lastBit c d).toNat) := by
          ring
      _ = c * Nat.pow 2 (-format.lastBit c d).toNat *
          (b * Nat.pow 2 (format.lastBit c d).toNat) := by
          rw [same]
          ring
  rw [round_eq, round_eq, exponent, rounded]

private theorem cast_pow_two (n : Nat) : ((Nat.pow 2 n : Nat) : ℚ) = 2 ^ (n : Int) := by
  rw [zpow_natCast, Nat.pow_eq]
  push_cast
  rfl

private theorem bits_le {a b : Nat} (a_pos : 0 < a) (b_pos : 0 < b) :
    format.bits a b ≤ Nat.pow 2 format.precision := by
  refine roundDiv_le (Nat.mul_pos b_pos (Nat.pow_pos (by decide))) ?_
  rw [le_scaled_iff b_pos, cast_pow_two, ← zpow_add₀ (by norm_num)]
  have below := Int.lt_zpow_succ_log_self (by decide : 1 < 2) ((a : ℚ) / b)
  refine below.le.trans (zpow_le_zpow_right₀ (by norm_num) ?_)
  rw [← log2Quotient_eq a_pos b_pos, lastBit]
  omega

/-- A quotient that is not cut off below has a leading bit. -/
theorem le_bits {a b : Nat} (a_pos : 0 < a) (b_pos : 0 < b) (precise : 0 < format.precision)
    (free : format.lastBit a b ≠ format.least) :
    Nat.pow 2 (format.precision - 1) ≤ format.bits a b := by
  refine le_roundDiv (Nat.mul_pos b_pos (Nat.pow_pos (by decide))) ?_
  rw [scaled_le_iff b_pos, cast_pow_two, ← zpow_add₀ (by norm_num)]
  have quotient_pos : (0 : ℚ) < a / b := div_pos (by exact_mod_cast a_pos) (by exact_mod_cast b_pos)
  have above := Int.zpow_log_le_self (by decide : 1 < 2) quotient_pos
  refine (zpow_le_zpow_right₀ (by norm_num) ?_).trans above
  rw [← log2Quotient_eq a_pos b_pos]
  rw [lastBit] at free ⊢
  omega

/-- **Results are numbers of the format.** -/
theorem round_fits {a b : Nat} (a_pos : 0 < a) (b_pos : 0 < b) (precise : 0 < format.precision)
    {m : Nat} {e : Int} (rounded : format.round a b = some (m, e)) :
    m < Nat.pow 2 format.precision ∧ format.least ≤ e ∧ e ≤ format.greatest ∧
      (Nat.pow 2 (format.precision - 1) ≤ m ∨ e = format.least) := by
  have upper : format.bits a b ≤ Nat.pow 2 format.precision := bits_le a_pos b_pos
  have least : format.least ≤ format.lastBit a b := le_max_left _ _
  rw [round_eq] at rounded
  by_cases full : format.bits a b = Nat.pow 2 format.precision
  · simp only [if_pos full] at rounded
    split at rounded
    · cases rounded
    next bound =>
      obtain ⟨rfl, rfl⟩ := Prod.mk.inj (Option.some.inj rounded)
      refine ⟨Nat.pow_lt_pow_right (by decide) (by omega), by omega, by omega, .inl le_rfl⟩
  · simp only [if_neg full] at rounded
    split at rounded
    · cases rounded
    next bound =>
      obtain ⟨rfl, rfl⟩ := Prod.mk.inj (Option.some.inj rounded)
      refine ⟨lt_of_le_of_ne upper full, least, by omega, ?_⟩
      by_cases cut : format.lastBit a b = format.least
      · exact .inr cut
      · exact .inl (le_bits a_pos b_pos precise cut)

/-- A quotient whose last bit lies below the greatest exponent is not too large. -/
theorem round_bounded {a b : Nat} (bounded : format.lastBit a b < format.greatest) :
    ∃ m e, format.round a b = some (m, e) := by
  rw [round_eq]
  by_cases full : format.bits a b = Nat.pow 2 format.precision
  · simp only [if_pos full]
    exact ⟨_, _, if_neg (by omega)⟩
  · simp only [if_neg full]
    exact ⟨_, _, if_neg (by omega)⟩

/-- **Numbers of the format round to themselves.** -/
theorem round_exact {m : Nat} {e : Int} (m_pos : 0 < m) (small : m < Nat.pow 2 format.precision)
    (least : format.least ≤ e) (greatest : e ≤ format.greatest)
    (normal : Nat.pow 2 (format.precision - 1) ≤ m ∨ e = format.least) :
    format.round (m * Nat.pow 2 e.toNat) (Nat.pow 2 (-e).toNat) = some (m, e) := by
  have two_pow_pos : ∀ n, 0 < Nat.pow 2 n := fun n => Nat.pow_pos (by decide)
  have quotient : ((m * Nat.pow 2 e.toNat : Nat) : ℚ) / (Nat.pow 2 (-e).toNat : Nat) =
      m * 2 ^ e := by
    rw [Nat.cast_mul, pow_toNat e, ← mul_assoc, mul_div_assoc, div_self (pow_pos _).ne', mul_one]
  have value_pos : (0 : ℚ) < m * 2 ^ e :=
    mul_pos (by exact_mod_cast m_pos) (zpow_pos (by norm_num) e)
  have log : log2Quotient (m * Nat.pow 2 e.toNat) (Nat.pow 2 (-e).toNat) = m.log2 + e := by
    rw [log2Quotient_eq (Nat.mul_pos m_pos (two_pow_pos _)) (two_pow_pos _), quotient]
    refine log_eq value_pos ?_ ?_
    · rw [zpow_add₀ (by norm_num)]
      exact mul_le_mul_of_nonneg_right (two_pow_log2_le m_pos) (zpow_pos (by norm_num) e).le
    · rw [add_right_comm, zpow_add₀ (by norm_num)]
      exact mul_lt_mul_of_pos_right (lt_two_pow_log2 m) (zpow_pos (by norm_num) e)
  have log_lt : m.log2 < format.precision := (Nat.log2_lt m_pos.ne').mpr small
  have exponent : format.lastBit (m * Nat.pow 2 e.toNat) (Nat.pow 2 (-e).toNat) = e := by
    rw [lastBit, log]
    rcases normal with leading | lowest
    · have le_log : format.precision - 1 ≤ m.log2 := (Nat.le_log2 m_pos.ne').mpr leading
      omega
    · omega
  have kept : format.bits (m * Nat.pow 2 e.toNat) (Nat.pow 2 (-e).toNat) = m := by
    rw [bits, exponent, Nat.mul_assoc, Nat.mul_comm (Nat.pow 2 (-e).toNat)]
    exact roundDiv_mul m (Nat.mul_pos (two_pow_pos _) (two_pow_pos _))
  rw [round_eq, exponent, kept]
  simp only [if_neg small.ne]
  rw [if_neg (by omega)]

end BinaryFormat

end Atomistic
