import Atomistic.Proofs.Binary64.Rounding

/-!
# Doubles and what they are rounded from

A finite double is what its own value is rounded to
(`Atomistic.Binary64.ofQuotient_magnitude`), and rounding to single precision a
second time changes nothing (`Atomistic.Binary64.toSingle_toSingle`).
-/

namespace Atomistic

namespace Binary64

private theorem toNat_ofFields (negative : Bool) {biased fraction : Nat}
    (biased_lt : biased < 0x800)
    (fraction_lt : fraction < 0x10000000000000) :
    (ofFields negative biased fraction).bits.toNat =
      (if negative then 0x8000000000000000 else 0) + biased * 0x10000000000000 + fraction := by
  refine UInt64.toNat_ofNat_of_lt' ?_
  change _ < 0x10000000000000000
  cases negative <;> simp <;> omega

section Fields

variable (negative : Bool) {biased fraction : Nat} (biased_lt : biased < 0x800)
  (fraction_lt : fraction < 0x10000000000000)

include biased_lt fraction_lt

private theorem negative_ofFields : (ofFields negative biased fraction).negative = negative := by
  rw [Binary64.negative, toNat_ofFields negative biased_lt fraction_lt]
  cases negative <;> simp <;> omega

private theorem biased_ofFields : (ofFields negative biased fraction).biased = biased := by
  rw [Binary64.biased, toNat_ofFields negative biased_lt fraction_lt]
  cases negative <;> simp <;> omega

private theorem fraction_ofFields : (ofFields negative biased fraction).fraction = fraction := by
  rw [Binary64.fraction, toNat_ofFields negative biased_lt fraction_lt]
  cases negative <;> simp <;> omega

end Fields

private theorem biased_lt (x : Binary64) : x.biased < 0x800 := Nat.mod_lt _ (by decide)

private theorem fraction_lt (x : Binary64) :
    x.fraction < 0x10000000000000 := Nat.mod_lt _ (by decide)

/-- A number is put together from its own fields. -/
theorem ofFields_fields (x : Binary64) : ofFields x.negative x.biased x.fraction = x := by
  have same : (ofFields x.negative x.biased x.fraction).bits.toNat = x.bits.toNat := by
    rw [toNat_ofFields x.negative x.biased_lt x.fraction_lt]
    have bound := x.bits.toNat_lt
    rw [negative, biased, fraction]
    simp only [decide_eq_true_eq]
    split <;> omega
  exact congrArg Binary64.mk (UInt64.toNat_inj.mp same)

/-- The parts of a finite double: a significand and an exponent that double precision
has room for. -/
structure Fits (significand : Nat) (exponent : Int) : Prop where
  small : significand < 0x20000000000000
  least : -1074 ≤ exponent
  greatest : exponent ≤ 971
  normal : 0x10000000000000 ≤ significand ∨ exponent = -1074

/-- The parts of a finite double fit. -/
theorem fits {x : Binary64} (finite : x.isFinite) : Fits x.significand x.exponent := by
  have biased_ne : x.biased ≠ 2047 := by simpa [isFinite] using finite
  have biased_lt := x.biased_lt
  have fraction_lt := x.fraction_lt
  constructor <;> simp only [significand, exponent] <;> split <;> omega

section Parts

variable (sign : Bool) {m : Nat} {e : Int} (parts : Fits m e)

include parts

private theorem ofParts_fields : ∃ biased fraction, biased < 0x7ff ∧ fraction < 0x10000000000000 ∧
    ofParts sign m e = ofFields sign biased fraction ∧
    m = (if biased = 0 then fraction else 0x10000000000000 + fraction) ∧
    e = (if biased = 0 then 1 else (biased : Int)) - 1075 := by
  obtain ⟨small, least, greatest, normal⟩ := parts
  by_cases low : m < 0x10000000000000
  · refine ⟨0, m, by decide, low, by rw [ofParts, if_pos low], rfl, ?_⟩
    rw [if_pos rfl]
    omega
  · refine ⟨(e + 1075).toNat, m - 0x10000000000000, by omega, by omega,
      by rw [ofParts, if_neg low], ?_, ?_⟩
    · rw [if_neg (by omega)]
      omega
    · rw [if_neg (by omega)]
      omega

private theorem ofParts_spec : (ofParts sign m e).negative = sign ∧ (ofParts sign m e).isFinite ∧
    (ofParts sign m e).significand = m ∧ (ofParts sign m e).exponent = e := by
  obtain ⟨biased, fraction, biased_lt, fraction_lt, made, m_eq, e_eq⟩ := ofParts_fields sign parts
  have room : biased < 0x800 := by omega
  rw [made]
  refine ⟨negative_ofFields sign room fraction_lt, ?_, ?_, ?_⟩
  · rw [isFinite, biased_ofFields sign room fraction_lt]
    simpa using biased_lt.ne
  · rw [significand, biased_ofFields sign room fraction_lt, fraction_ofFields sign room fraction_lt]
    exact m_eq.symm
  · rw [exponent, biased_ofFields sign room fraction_lt]
    exact e_eq.symm

end Parts

private theorem ofParts_parts {x : Binary64} (finite : x.isFinite) :
    ofParts x.negative x.significand x.exponent = x := by
  have biased_ne : x.biased ≠ 2047 := by simpa [isFinite] using finite
  have fraction_lt := x.fraction_lt
  rw [ofParts]
  by_cases low : x.biased = 0
  · have same : x.significand = x.fraction := by rw [significand, if_pos low]
    rw [same, if_pos fraction_lt, ← low]
    exact ofFields_fields x
  · have same : x.significand = 0x10000000000000 + x.fraction := by rw [significand, if_neg low]
    have biased : (x.exponent + 1075).toNat = x.biased := by
      rw [exponent, if_neg low]
      omega
    rw [same, if_neg (by omega), biased, Nat.add_sub_cancel_left]
    exact ofFields_fields x

/-- Equal quotients are rounded alike. -/
theorem ofQuotient_congr (sign : Bool) {a b c d : Nat} (b_pos : 0 < b) (d_pos : 0 < d)
    (same : a * d = c * b) : ofQuotient sign a b = ofQuotient sign c d := by
  rw [ofQuotient, ofQuotient]
  by_cases zero : a = 0
  · have other : c = 0 := by
      rw [zero, Nat.zero_mul] at same
      exact (Nat.mul_eq_zero.mp same.symm).resolve_right b_pos.ne'
    rw [if_pos zero, if_pos other]
  · have other : c ≠ 0 := by
      intro absent
      rw [absent, Nat.zero_mul] at same
      exact zero ((Nat.mul_eq_zero.mp same).resolve_right d_pos.ne')
    rw [if_neg zero, if_neg other, BinaryFormat.round_congr (Nat.pos_of_ne_zero zero) b_pos
      (Nat.pos_of_ne_zero other) d_pos same]

/-- Powers of two are positive. -/
theorem two_pow_pos (n : Nat) : 0 < Nat.pow 2 n := Nat.pow_pos (by decide)

/-- Parts that double precision has room for are kept by rounding. -/
theorem ofQuotient_parts (sign : Bool) {m : Nat} {e : Int} (parts : Fits m e) :
    ofQuotient sign (m * Nat.pow 2 e.toNat) (Nat.pow 2 (-e).toNat) = ofParts sign m e := by
  by_cases zero : m = 0
  · rw [ofQuotient, if_pos (by rw [zero, Nat.zero_mul]), ofParts, if_pos (by omega), zero]
  · have rounded : BinaryFormat.double.round (m * Nat.pow 2 e.toNat) (Nat.pow 2 (-e).toNat) =
        some (m, e) :=
      BinaryFormat.round_exact (Nat.pos_of_ne_zero zero) parts.small parts.least parts.greatest
        parts.normal
    have numerator : m * Nat.pow 2 e.toNat ≠ 0 := Nat.mul_ne_zero zero (two_pow_pos _).ne'
    rw [ofQuotient, if_neg numerator, rounded]

/-- **A finite double is its own value, rounded.** -/
theorem ofQuotient_magnitude {x : Binary64} (finite : x.isFinite) :
    ofQuotient x.negative x.magnitude.1 x.magnitude.2 = x := by
  rw [magnitude, ofQuotient_parts x.negative (fits finite), ofParts_parts finite]

/-- A double is zero exactly if its significand is. -/
theorem isZero_iff (x : Binary64) : x.isZero ↔ x.significand = 0 := by
  simp only [isZero, significand, Bool.and_eq_true, beq_iff_eq]
  split <;> omega

/-- A finite double is neither a NaN nor infinite. -/
theorem not_special {x : Binary64} (finite : x.isFinite) :
    x.isNaN = false ∧ x.isInfinite = false := by
  have biased_ne : x.biased ≠ 2047 := by simpa [isFinite] using finite
  simp [isNaN, isInfinite, biased_ne]

/-- Only a NaN differs from itself. -/
theorem equal_self {x : Binary64} (number : x.isNaN = false) : x.equal x := by
  simp [equal, number]

/-- A number equals zero if it is one of the two zeros. -/
theorem equal_zero (x : Binary64) : x.equal zero = x.isZero := by
  by_cases same : x = zero
  · subst same
    rfl
  · have apart : (x == zero) = false := beq_eq_false_iff_ne.mpr same
    have not_nan : x.isZero → x.isNaN = false := by
      intro null
      simp only [isZero, Bool.and_eq_true, beq_iff_eq] at null
      simp [isNaN, null.1]
    rw [equal, apart]
    cases null : x.isZero with
    | false => simp
    | true =>
        rw [not_nan null]
        rfl

/-- A double that is neither a NaN nor infinite is finite. -/
theorem finite_of_not_special {x : Binary64} (not_nan : ¬ x.isNaN) (not_infinite : ¬ x.isInfinite) :
    x.isFinite := by
  simp only [isNaN, isInfinite, isFinite, Bool.and_eq_true, beq_iff_eq, bne_iff_ne] at *
  intro biased
  by_cases fraction : x.fraction = 0
  · exact not_infinite ⟨biased, fraction⟩
  · exact not_nan ⟨biased, fraction⟩

/-- Integers of 64 bits are rounded to finite doubles. -/
theorem ofInt_finite {i : Int} (small : i.natAbs < 2 ^ 64) : (ofInt i).isFinite := by
  rw [ofInt, ofQuotient]
  by_cases zero : i.natAbs = 0
  · rw [if_pos zero, isFinite, biased_ofFields _ (by decide) (by decide)]
    rfl
  · rw [if_neg zero]
    have positive := Nat.pos_of_ne_zero zero
    have log : BinaryFormat.log2Quotient i.natAbs 1 < 64 := by
      rw [BinaryFormat.log2Quotient_eq positive Nat.one_pos, Nat.cast_one, div_one, Int.log_natCast]
      exact_mod_cast Nat.log_lt_of_lt_pow zero small
    have bounded : BinaryFormat.double.lastBit i.natAbs 1 < BinaryFormat.double.greatest := by
      have least : BinaryFormat.double.least = -1074 := rfl
      have greatest : BinaryFormat.double.greatest = 971 := rfl
      have precision : BinaryFormat.double.precision = 53 := rfl
      rw [BinaryFormat.lastBit, least, greatest, precision]
      omega
    obtain ⟨m, e, rounded⟩ := BinaryFormat.round_bounded bounded
    obtain ⟨small, least, greatest, normal⟩ :=
      BinaryFormat.round_fits positive Nat.one_pos (by decide) rounded
    rw [rounded]
    exact (ofParts_spec _ ⟨small, least, greatest, normal⟩).2.1

/-- Parts with leading zeros can be shifted to parts of a double. -/
theorem exists_parts {m : Nat} {e : Int} (m_pos : 0 < m) (small : m < 0x1000000)
    (least : -149 ≤ e) (greatest : e ≤ 104) : ∃ m' e', Fits m' e' ∧ 0 < m' ∧
      m * Nat.pow 2 e.toNat * Nat.pow 2 (-e').toNat =
        m' * Nat.pow 2 e'.toNat * Nat.pow 2 (-e).toNat := by
  have log_lt : m.log2 < 24 := (Nat.log2_lt m_pos.ne').mpr small
  let k := 52 - m.log2
  have lower : 2 ^ 52 ≤ m * 2 ^ k := by
    calc 2 ^ 52 = 2 ^ m.log2 * 2 ^ k := by rw [← Nat.pow_add]; congr 1; omega
      _ ≤ m * 2 ^ k := Nat.mul_le_mul_right _ (Nat.log2_self_le m_pos.ne')
  have upper : m * 2 ^ k < 2 ^ 53 := by
    calc m * 2 ^ k < 2 ^ (m.log2 + 1) * 2 ^ k :=
          Nat.mul_lt_mul_of_pos_right Nat.lt_log2_self (two_pow_pos k)
      _ = 2 ^ 53 := by rw [← Nat.pow_add]; congr 1; omega
  refine ⟨m * 2 ^ k, e - k, ⟨by omega, by omega, by omega, .inl (by omega)⟩,
    Nat.mul_pos m_pos (two_pow_pos k), ?_⟩
  simp only [Nat.pow_eq]
  rw [Nat.mul_assoc, ← Nat.pow_add, Nat.mul_assoc, Nat.mul_assoc, ← Nat.pow_add, ← Nat.pow_add]
  congr 2
  omega

/-- The payload of a quiet NaN of single precision, widened: it has the quiet bit, and
its lower bits are zero. -/
theorem quiet_payload {fraction : Nat} (fraction_lt : fraction < 0x10000000000000) :
    ∃ quiet, (if fraction / 0x20000000 * 0x20000000 < 0x8000000000000 then
        fraction / 0x20000000 * 0x20000000 + 0x8000000000000
      else fraction / 0x20000000 * 0x20000000) = quiet ∧
      quiet < 0x10000000000000 ∧ 0x8000000000000 ≤ quiet ∧
        quiet / 0x20000000 * 0x20000000 = quiet := by
  have payload_lt : fraction / 0x20000000 * 0x20000000 < 0x10000000000000 :=
    (Nat.div_mul_le_self _ _).trans_lt fraction_lt
  have multiple : fraction / 0x20000000 * 0x20000000 % 0x20000000 = 0 := Nat.mul_mod_left _ _
  generalize fraction / 0x20000000 * 0x20000000 = payload at *
  by_cases low : payload < 0x8000000000000
  · rw [if_pos low]
    exact ⟨_, rfl, by omega, Nat.le_add_left _ _, by omega⟩
  · rw [if_neg low]
    exact ⟨_, rfl, payload_lt, Nat.le_of_not_lt low, by omega⟩

private theorem toSingle_nan {x : Binary64} (nan : x.isNaN) : x.toSingle.toSingle = x.toSingle := by
  obtain ⟨quiet, made, quiet_lt, high, kept⟩ := quiet_payload x.fraction_lt
  have once : x.toSingle = ofFields x.negative 2047 quiet := by
    rw [toSingle, if_pos nan, ← made]
  have biased := biased_ofFields x.negative (by decide : 2047 < 0x800) quiet_lt
  have fraction := fraction_ofFields x.negative (by decide : 2047 < 0x800) quiet_lt
  have negative := negative_ofFields x.negative (by decide : 2047 < 0x800) quiet_lt
  have again : (ofFields x.negative 2047 quiet).isNaN := by
    rw [isNaN, biased, fraction]
    simp only [beq_self_eq_true, Bool.true_and, bne_iff_ne]
    omega
  rw [once, toSingle, if_pos again, fraction, negative, kept]
  simp only [if_neg (Nat.not_lt.mpr high)]

private theorem toSingle_infinity (sign : Bool) : (infinity sign).toSingle = infinity sign := by
  have biased := biased_ofFields sign (by decide : 2047 < 0x800) (by decide : 0 < 0x10000000000000)
  have fraction := fraction_ofFields sign (by decide : 2047 < 0x800)
      (by decide : 0 < 0x10000000000000)
  have not_nan : ¬ (infinity sign).isNaN := by
    rw [infinity, isNaN, biased, fraction]
    decide
  have infinite : (infinity sign).isInfinite := by
    rw [infinity, isInfinite, biased, fraction]
    decide
  rw [toSingle, if_neg not_nan, infinite, Bool.true_or, if_pos rfl]

/-- A double with the value of a number of single precision keeps it. -/
theorem toSingle_ofQuotient (sign : Bool) {m : Nat} {e : Int} (small : m < 0x1000000)
    (least : -149 ≤ e) (greatest : e ≤ 104) (normal : 0x800000 ≤ m ∨ e = -149) :
    (ofQuotient sign (m * Nat.pow 2 e.toNat) (Nat.pow 2 (-e).toNat)).toSingle =
      ofQuotient sign (m * Nat.pow 2 e.toNat) (Nat.pow 2 (-e).toNat) := by
  by_cases zero : m = 0
  · have nothing : ofQuotient sign (m * Nat.pow 2 e.toNat) (Nat.pow 2 (-e).toNat) =
        ofFields sign 0 0 := by
      rw [ofQuotient, if_pos (by rw [zero, Nat.zero_mul])]
    rw [nothing]
    cases sign <;> decide
  · have m_pos := Nat.pos_of_ne_zero zero
    obtain ⟨m', e', parts, m'_pos, same⟩ := exists_parts m_pos small least greatest
    have made : ofQuotient sign (m * Nat.pow 2 e.toNat) (Nat.pow 2 (-e).toNat) =
        ofParts sign m' e' :=
      (ofQuotient_congr sign (two_pow_pos _) (two_pow_pos _) same).trans
        (ofQuotient_parts sign parts)
    obtain ⟨negative, finite, significand, exponent⟩ := ofParts_spec sign parts
    obtain ⟨not_nan, not_infinite⟩ := not_special finite
    have not_zero : (ofParts sign m' e').isZero = false := by
      rw [Bool.eq_false_iff, ne_eq, isZero_iff, significand]
      exact m'_pos.ne'
    have rounded : BinaryFormat.single.round (m' * Nat.pow 2 e'.toNat) (Nat.pow 2 (-e').toNat) =
        some (m, e) := by
      rw [← BinaryFormat.round_congr (Nat.mul_pos m_pos (two_pow_pos _)) (two_pow_pos _)
        (Nat.mul_pos m'_pos (two_pow_pos _)) (two_pow_pos _) same]
      exact BinaryFormat.round_exact m_pos small least greatest normal
    rw [made, toSingle, not_nan, not_infinite, not_zero, Bool.false_or, if_neg Bool.false_ne_true,
      if_neg Bool.false_ne_true, magnitude, significand, exponent, rounded, negative]
    exact made

/-- **Single precision is reached once.** -/
theorem toSingle_toSingle (x : Binary64) : x.toSingle.toSingle = x.toSingle := by
  by_cases nan : x.isNaN
  · exact toSingle_nan nan
  · by_cases kept : (x.isInfinite || x.isZero) = true
    · have same : x.toSingle = x := by rw [toSingle, if_neg nan, if_pos kept]
      rw [same, same]
    · have passed := kept
      rw [Bool.or_eq_true, not_or] at kept
      have finite : x.isFinite := finite_of_not_special nan kept.1
      have significand_pos : 0 < x.significand :=
        Nat.pos_of_ne_zero fun zero => kept.2 (x.isZero_iff.mpr zero)
      cases rounded : BinaryFormat.single.round x.magnitude.1 x.magnitude.2 with
      | none =>
          have once : x.toSingle = infinity x.negative := by
            rw [toSingle, if_neg nan, if_neg passed, rounded]
          rw [once, toSingle_infinity]
      | some parts =>
          obtain ⟨m, e⟩ := parts
          have once : x.toSingle =
              ofQuotient x.negative (m * Nat.pow 2 e.toNat) (Nat.pow 2 (-e).toNat) := by
            rw [toSingle, if_neg nan, if_neg passed, rounded]
          obtain ⟨small, least, greatest, normal⟩ := BinaryFormat.round_fits
            (Nat.mul_pos significand_pos (two_pow_pos _)) (two_pow_pos _) (by decide) rounded
          rw [once, toSingle_ofQuotient x.negative small least greatest normal]

private theorem infinity_number (sign : Bool) : (infinity sign).isNaN = false := by
  cases sign <;> decide

/-- A quotient is rounded to a number. -/
theorem ofQuotient_number (sign : Bool) (numerator : Nat) {denominator : Nat}
    (positive : 0 < denominator) : (ofQuotient sign numerator denominator).isNaN = false := by
  rw [ofQuotient]
  split
  · cases sign <;> decide
  next apart =>
    split
    next m e rounded =>
      obtain ⟨small, least, greatest, normal⟩ :=
        BinaryFormat.round_fits (Nat.pos_of_ne_zero apart) positive (by decide) rounded
      exact (not_special (ofParts_spec sign ⟨small, least, greatest, normal⟩).2.1).1
    · exact infinity_number sign

/-- Numbers are rounded to numbers. -/
theorem toSingle_number {x : Binary64} (number : x.isNaN = false) : x.toSingle.isNaN = false := by
  rw [toSingle, number, if_neg Bool.false_ne_true]
  split
  · exact number
  · split
    · exact ofQuotient_number _ _ (two_pow_pos _)
    · exact infinity_number _

end Binary64

end Atomistic
