import Atomistic.Json.Reader
import Atomistic.Json.Writer
import Atomistic.Proofs.Decimal.Shortest

/-!
# Numbers in JSON

An integer in the range of 64-bit words and a finite double are read from what is
written for them, whatever follows, as long as the number does not go on there
(`Atomistic.Json.readNumber_writeInt`, `Atomistic.Json.readNumber_text`).
-/

namespace Atomistic

namespace Json

/-- Decimal digits, at least one. -/
structure Digits (digits : List Char) : Prop where
  ne_nil : digits ≠ []
  all : ∀ c ∈ digits, c.isDigit

/-- Digits in front of the point; a zero stands alone. -/
structure Whole (digits : List Char) : Prop extends Digits digits where
  alone : digits.head? = some '0' → digits = ['0']

/-- A text that no number goes on with. -/
def Ends (rest : List Char) : Prop :=
  ∀ c ∈ rest.head?, c.isDigit = false ∧ c ≠ '.' ∧ c ≠ 'e' ∧ c ≠ 'E'

private theorem Digits.append {digits more : List Char} (first : Digits digits)
    (second : ∀ c ∈ more, c.isDigit) : Digits (digits ++ more) where
  ne_nil := by simp [first.ne_nil]
  all c member := by
    rcases List.mem_append.mp member with old | new
    · exact first.all c old
    · exact second c new

/-- Zeros are digits. -/
theorem zeros_digits (count : Nat) : ∀ c ∈ List.replicate count '0', c.isDigit := by
  intro c member
  rw [List.eq_of_mem_replicate member]
  decide

private theorem zero_digit : Digits ['0'] where
  ne_nil := List.cons_ne_nil _ _
  all c member := by
    rw [List.mem_singleton.mp member]
    rfl

/-- A number is written in digits. -/
theorem toDigits_digits (n : Nat) : Digits (Nat.toDigits 10 n) where
  ne_nil := Nat.toDigits_ne_nil
  all _ member := Nat.isDigit_of_mem_toDigits (by decide) (by decide) member

private theorem toDigits_head {n : Nat} (positive : 0 < n) :
    (Nat.toDigits 10 n).head? ≠ some '0' := by
  induction n using Nat.strongRecOn with
  | ind n ih =>
      rw [Nat.toDigits_eq_if (by decide)]
      split
      next small =>
        have nonzero : ∀ m, m < 10 → 0 < m → [m.digitChar].head? ≠ some '0' := by decide
        exact nonzero n small positive
      next large =>
        have front := ih (n / 10) (by omega) (by omega)
        rwa [List.head?_append_of_ne_nil _ Nat.toDigits_ne_nil]

private theorem toDigits_whole (n : Nat) : Whole (Nat.toDigits 10 n) where
  toDigits := toDigits_digits n
  alone head := by
    rcases Nat.eq_zero_or_pos n with zero | positive
    · rw [zero, Nat.toDigits_zero]
    · exact absurd head (toDigits_head positive)

/-- The value of digits in the library's terms. -/
theorem digitsValue_eq (digits : List Char) :
    digitsValue digits = Nat.ofDigitChars 10 digits 0 := by
  rw [Nat.ofDigitChars_eq_foldl, digitsValue]
  simp only [Nat.mul_comm 10]

/-- The digits of a number have its value. -/
@[simp] theorem digitsValue_toDigits (n : Nat) : digitsValue (Nat.toDigits 10 n) = n := by
  rw [digitsValue_eq, Nat.ofDigitChars_ten_toDigits]

private theorem digitsValue_append_zeros (digits : List Char) (count : Nat) :
    digitsValue (digits ++ List.replicate count '0') = digitsValue digits * 10 ^ count := by
  rw [digitsValue_eq, Nat.ofDigitChars_append, Nat.ofDigitChars_replicate_zero, ← digitsValue_eq,
    Nat.mul_comm]

/-- Leading zeros have no value. -/
theorem digitsValue_zeros_append (count : Nat) (digits : List Char) :
    digitsValue (List.replicate count '0' ++ digits) = digitsValue digits := by
  rw [digitsValue_eq, Nat.ofDigitChars_append, Nat.ofDigitChars_replicate_zero, Nat.mul_zero,
    ← digitsValue_eq]

variable {digits whole fraction rest tail : List Char}

private theorem readDigits_append (made : Digits digits)
    (stops : ∀ c ∈ rest.head?, c.isDigit = false) :
    readDigits (digits ++ rest) = some (digits, rest) := by
  have rest_take : rest.takeWhile Char.isDigit = [] := by
    cases rest with
    | nil => rfl
    | cons c rest => simp [stops c rfl]
  have rest_drop : rest.dropWhile Char.isDigit = rest := by
    cases rest with
    | nil => rfl
    | cons c rest => simp [stops c rfl]
  have nonempty : digits.isEmpty = false := by simpa using made.ne_nil
  rw [readDigits, List.takeWhile_append_of_pos made.all, List.dropWhile_append_of_pos made.all,
    rest_take, rest_drop, List.append_nil, nonempty]
  rfl

private theorem readWhole_append (made : Whole digits)
    (stops : ∀ c ∈ rest.head?, c.isDigit = false) :
    readWhole (digits ++ rest) = some (digits, rest) := by
  obtain ⟨first, more, shape⟩ := List.exists_cons_of_ne_nil made.ne_nil
  by_cases zero : first = '0'
  · have alone := made.alone (by rw [shape, zero]; rfl)
    rw [alone]
    rfl
  · have general : readWhole (digits ++ rest) = readDigits (digits ++ rest) := by
      rw [shape, List.cons_append, readWhole]
      simpa using zero
    rw [general, readDigits_append made.toDigits stops]

/-- The text of the digits after the point. -/
def fractionText : List Char → List Char
  | [] => []
  | digits => '.' :: digits

private theorem readFraction_append (made : fraction = [] ∨ Digits fraction)
    (stops : ∀ c ∈ tail.head?, c.isDigit = false ∧ c ≠ '.') :
    readFraction (fractionText fraction ++ tail) = some (fraction, tail) := by
  rcases made with none | made
  · rw [none]
    cases tail with
    | nil => rfl
    | cons c tail =>
        have other := (stops c rfl).2
        simp [fractionText, readFraction, other]
  · obtain ⟨first, more, shape⟩ := List.exists_cons_of_ne_nil made.ne_nil
    have text : fractionText fraction ++ tail = '.' :: (fraction ++ tail) := by
      rw [shape]
      rfl
    rw [text, readFraction]
    exact readDigits_append made fun c member => (stops c member).1

private theorem fractionText_stops (stops : ∀ c ∈ tail.head?, c.isDigit = false ∧ c ≠ '.') :
    ∀ c ∈ (fractionText fraction ++ tail).head?, c.isDigit = false := by
  cases fraction with
  | nil => exact fun c member => (stops c member).1
  | cons first more =>
      intro c member
      cases member
      decide

/-- What follows the sign of a number, read in three parts. -/
def readUnsigned (negative : Bool) (text : List Char) : Option (Json × List Char) := do
  let (whole, text) ← readWhole text
  let (fraction, text) ← readFraction text
  let (exponent, text) ← readExponent text
  return (← number negative whole fraction exponent, text)

private theorem readNumber_minus (text : List Char) :
    readNumber ('-' :: text) = readUnsigned true text := by
  unfold readNumber readUnsigned
  split
  next negative rest split =>
    cases split
    rfl

/-- A text without a sign is read as a number without a sign. -/
theorem readNumber_unsigned {text : List Char} (unsigned : text.head? ≠ some '-') :
    readNumber text = readUnsigned false text := by
  unfold readNumber readUnsigned
  split
  next negative rest split =>
    split at split
    · exact absurd rfl unsigned
    · cases split
      rfl

/-- The number is made of the parts that are there. -/
theorem readUnsigned_append (negative : Bool) {exponent : Option Int} (whole_made : Whole whole)
    (fraction_made : fraction = [] ∨ Digits fraction)
    (stops : ∀ c ∈ tail.head?, c.isDigit = false ∧ c ≠ '.')
    (ended : readExponent tail = some (exponent, rest)) :
    readUnsigned negative (whole ++ (fractionText fraction ++ tail)) =
      (number negative whole fraction exponent).map fun value => (value, rest) := by
  rw [readUnsigned, readWhole_append whole_made (fractionText_stops stops)]
  simp only [Option.bind_eq_bind, Option.bind_some, readFraction_append fraction_made stops, ended]
  cases number negative whole fraction exponent <;> rfl

/-- The text of a sign. -/
def signText (negative : Bool) : List Char := if negative then ['-'] else []

private theorem readNumber_signText (negative : Bool) {text : List Char}
    (whole_made : Whole whole) :
    readNumber (signText negative ++ (whole ++ text)) = readUnsigned negative (whole ++ text) := by
  cases negative with
  | true => exact readNumber_minus _
  | false =>
      refine readNumber_unsigned fun minus => ?_
      obtain ⟨first, more, shape⟩ := List.exists_cons_of_ne_nil whole_made.ne_nil
      have digit := whole_made.all first (by simp [shape])
      have sign : first = '-' := by simpa [shape, signText] using minus
      rw [sign] at digit
      exact absurd digit (by decide)

private theorem Ends.readExponent (ends : Ends rest) : readExponent rest = some (none, rest) := by
  cases rest with
  | nil => rfl
  | cons c rest =>
      obtain ⟨_, _, lower, upper⟩ := ends c rfl
      simp [Json.readExponent, lower, upper]

private theorem Ends.stops (ends : Ends rest) : ∀ c ∈ rest.head?, c.isDigit = false ∧ c ≠ '.' :=
  fun c member => ⟨(ends c member).1, (ends c member).2.1⟩

/-- The text of an exponent is read as the exponent. -/
theorem readExponent_signed (exponent : Int) (ends : Ends rest) :
    readExponent ('e' :: (if exponent < 0 then '-' else '+') ::
      (Nat.toDigits 10 exponent.natAbs ++ rest)) = some (some exponent, rest) := by
  have digits := readDigits_append (toDigits_digits exponent.natAbs) fun c member =>
    (ends c member).1
  by_cases negative : exponent < 0
  · have value : -(exponent.natAbs : Int) = exponent := by omega
    rw [if_pos negative]
    change (readDigits _).map _ = _
    rw [digits, Option.map_some]
    simp only [digitsValue_toDigits, value]
  · have value : (exponent.natAbs : Int) = exponent := by omega
    rw [if_neg negative]
    change (readDigits _).map _ = _
    rw [digits, Option.map_some]
    simp only [digitsValue_toDigits, value]

/-- **Integers read back.** -/
theorem readNumber_writeInt {i : Int} (least : -0x8000000000000000 ≤ i)
    (greatest : i < 0x10000000000000000) (ends : Ends rest) :
    readNumber (writeInt i ++ rest) = some (integer i, rest) := by
  have text : writeInt i ++ rest =
      signText (decide (i < 0)) ++ (Nat.toDigits 10 i.natAbs ++ (fractionText [] ++ rest)) := by
    simp [writeInt, signText, fractionText]
  rw [text, readNumber_signText _ (toDigits_whole _), readUnsigned_append _ (toDigits_whole _)
    (.inl rfl) ends.stops ends.readExponent, number, if_pos ⟨rfl, rfl⟩, digitsValue_toDigits]
  by_cases negative : i < 0
  · have value : -(i.natAbs : Int) = i := by omega
    have range : 0 < i.natAbs ∧ i.natAbs ≤ 0x8000000000000000 := by omega
    rw [if_pos (decide_eq_true negative), if_pos range, value]
    rfl
  · have value : (i.natAbs : Int) = i := by omega
    have range : i.natAbs < 0x10000000000000000 := by omega
    rw [if_neg (by simpa using negative), if_pos range, value]
    rfl

private theorem number_eq_finite {negative : Bool} {exponent : Option Int}
    (other : ¬ (fraction = [] ∧ exponent = none)) :
    number negative whole fraction exponent =
      finite? negative (digitsValue (whole ++ fraction))
        (exponent.getD 0 - (fraction.length : Int)) := by
  rw [number, if_neg other]

private theorem finite_congr {negative : Bool} {c c' : Nat} {e e' : Int}
    (same : Binary64.ofDecimal negative c e = Binary64.ofDecimal negative c' e') :
    finite? negative c e = finite? negative c' e' := by
  rw [finite?, finite?, same]

private theorem Whole.take {count : Nat} (made : Whole digits) (positive : 0 < count)
    (short : count < digits.length) : Whole (digits.take count) where
  ne_nil := by
    rw [ne_eq, List.take_eq_nil_iff]
    simp [positive.ne', made.ne_nil]
  all c member := made.all c (List.mem_of_mem_take member)
  alone head := by
    have first : (digits.take count).head? = digits.head? := by
      rw [List.head?_take, if_neg positive.ne']
    have alone := made.alone (first ▸ head)
    rw [alone, List.length_singleton] at short
    omega

/-- Digits with a point among them are a whole part and a fraction of the same value. -/
theorem positionalText_parts (negative : Bool) (d : Decimal)
    (zero : d.coefficient = 0 → d.exponent = 0) : ∃ whole fraction,
      Whole whole ∧ Digits fraction ∧
      Layout.positionalText (Nat.toDigits 10 d.coefficient)
        (d.exponent + ((Nat.toDigits 10 d.coefficient).length : Int)) true =
          whole ++ fractionText fraction ∧
      Binary64.ofDecimal negative (digitsValue (whole ++ fraction)) (-(fraction.length : Int)) =
        d.toBinary64 negative := by
  have made := toDigits_whole d.coefficient
  have count_pos : 0 < (Nat.toDigits 10 d.coefficient).length := Nat.length_toDigits_pos
  have value := digitsValue_toDigits d.coefficient
  generalize Nat.toDigits 10 d.coefficient = digits at made value count_pos
  have text_ne (digits : List Char) (some_digits : Digits digits) :
      fractionText digits = '.' :: digits := by
    obtain ⟨first, more, shape⟩ := List.exists_cons_of_ne_nil some_digits.ne_nil
    rw [shape]
    rfl
  rw [Layout.positionalText]
  split
  next front =>
    let zeros := List.replicate (-(d.exponent + (digits.length : Int))).toNat '0'
    have fraction : Digits (zeros ++ digits) :=
      ⟨by simp [made.ne_nil], fun c member => by
        rcases List.mem_append.mp member with zero | digit
        · exact zeros_digits _ c zero
        · exact made.all c digit⟩
    refine ⟨['0'], zeros ++ digits, ⟨zero_digit, fun _ => rfl⟩, fraction, ?_, ?_⟩
    · rw [text_ne _ fraction]
      rfl
    · have zero_digits : ['0'] ++ (zeros ++ digits) =
          List.replicate ((-(d.exponent + (digits.length : Int))).toNat + 1) '0' ++ digits := rfl
      have exponent : -((zeros ++ digits).length : Int) = d.exponent := by
        rw [List.length_append, List.length_replicate]
        omega
      rw [zero_digits, digitsValue_zeros_append, value, exponent, Decimal.toBinary64]
  next =>
    split
    next behind =>
      let count := (d.exponent + (digits.length : Int)).toNat - digits.length
      have whole : Whole (digits ++ List.replicate count '0') :=
        ⟨made.toDigits.append (zeros_digits count), fun head => by
          have alone := made.alone (by rwa [List.head?_append_of_ne_nil _ made.ne_nil] at head)
          have none : count = 0 := by
            have nothing : d.exponent = 0 := zero (by rw [← value, alone]; rfl)
            omega
          rw [alone, none]
          rfl⟩
      refine ⟨digits ++ List.replicate count '0', ['0'], whole, zero_digit, rfl, ?_⟩
      have zero_digits : digits ++ List.replicate count '0' ++ ['0'] =
          digits ++ List.replicate (count + 1) '0' := by
        rw [List.append_assoc, List.replicate_succ']
      have exponent : -((['0'].length : Nat) : Int) + ((count + 1 : Nat) : Int) = d.exponent := by
        simp only [List.length_singleton]
        omega
      rw [zero_digits, digitsValue_append_zeros, value, Binary64.ofDecimal_scale, exponent,
        Decimal.toBinary64]
    next among =>
      let count := (d.exponent + (digits.length : Int)).toNat
      have short : count < digits.length := by omega
      have fraction : Digits (digits.drop count) :=
        ⟨by simpa using short, fun c member => made.all c (List.mem_of_mem_drop member)⟩
      refine ⟨digits.take count, digits.drop count, made.take (by omega) short, fraction, ?_, ?_⟩
      · rw [text_ne _ fraction]
      · have exponent : -((digits.drop count).length : Int) = d.exponent := by
          rw [List.length_drop]
          omega
        rw [List.take_append_drop, value, exponent, Decimal.toBinary64]

private theorem readNumber_positionalText (negative : Bool) (d : Decimal)
    (zero : d.coefficient = 0 → d.exponent = 0) (ends : Ends rest) :
    readNumber (signText negative ++ (Layout.positionalText (Nat.toDigits 10 d.coefficient)
        (d.exponent + ((Nat.toDigits 10 d.coefficient).length : Int)) true ++ rest)) =
      (finite? negative d.coefficient d.exponent).map fun value => (value, rest) := by
  obtain ⟨whole, fraction, whole_made, fraction_made, text, same⟩ :=
    positionalText_parts negative d zero
  rw [text, List.append_assoc, readNumber_signText negative whole_made,
    readUnsigned_append negative whole_made (.inr fraction_made) ends.stops ends.readExponent,
    number_eq_finite (by simp [fraction_made.ne_nil]), Option.getD_none, Int.zero_sub,
    finite_congr same]

private theorem readNumber_exponentText (negative : Bool) (d : Decimal) (ends : Ends rest) :
    readNumber (signText negative ++ (Layout.exponentText (Nat.toDigits 10 d.coefficient)
        (d.exponent + ((Nat.toDigits 10 d.coefficient).length : Int)) true ++ rest)) =
      (finite? negative d.coefficient d.exponent).map fun value => (value, rest) := by
  have made := toDigits_digits d.coefficient
  have value := digitsValue_toDigits d.coefficient
  generalize Nat.toDigits 10 d.coefficient = digits at made value
  obtain ⟨first, more, rfl⟩ := List.exists_cons_of_ne_nil made.ne_nil
  obtain ⟨power, power_eq⟩ : ∃ power, d.exponent + ((first :: more).length : Int) - 1 = power :=
    ⟨_, rfl⟩
  have whole : Whole [first] :=
    ⟨⟨by simp, by simpa using made.all first⟩, fun head => by simpa using head⟩
  have fraction : more = [] ∨ Digits more := by
    by_cases none : more = []
    · exact .inl none
    · exact .inr ⟨none, fun c member => made.all c (by simp [member])⟩
  have text : Layout.exponentText (first :: more)
      (d.exponent + ((first :: more).length : Int)) true ++ rest =
        [first] ++ (fractionText more ++ ('e' :: (if power < 0 then '-' else '+') ::
          (Nat.toDigits 10 power.natAbs ++ rest))) := by
    unfold Layout.exponentText
    rw [power_eq]
    cases more <;> by_cases below : power < 0 <;> simp [fractionText, below]
  have exponent : (some power).getD 0 - (more.length : Int) = d.exponent := by
    rw [List.length_cons] at power_eq
    rw [Option.getD_some]
    omega
  have stops : ∀ c ∈ ('e' :: (if power < 0 then '-' else '+') ::
      (Nat.toDigits 10 power.natAbs ++ rest)).head?, c.isDigit = false ∧ c ≠ '.' := by
    intro c member
    cases member
    decide
  rw [text, readNumber_signText negative whole,
    readUnsigned_append negative whole fraction stops (readExponent_signed power ends),
    number_eq_finite (by simp), exponent]
  simp [value]

/-- **Doubles read back.** -/
theorem readNumber_text {x : Binary64} (finite : x.isFinite) (ends : Ends rest) :
    readNumber ((Layout.document.text x).toList ++ rest) = some (real x, rest) := by
  let d := Decimal.shortest .even x
  have value : finite? x.negative d.coefficient d.exponent = some (real x) := by
    have same : Binary64.ofDecimal x.negative d.coefficient d.exponent = x :=
      Decimal.toBinary64_shortest .even finite
    rw [finite?, same, if_pos finite]
  have zero : d.coefficient = 0 → d.exponent = 0 := by
    intro absent
    by_cases nothing : x.isZero
    · exact congrArg Decimal.exponent (Decimal.shortest_zero .even nothing)
    · exact absurd absent (Decimal.shortest_coefficient_pos .even finite nothing).ne'
  have text : (Layout.document.text x).toList ++ rest =
      signText x.negative ++ (Layout.document.magnitudeText x ++ rest) := by
    rw [Layout.text, if_pos finite, String.toList_ofList, List.append_assoc]
    rfl
  rw [text, Layout.magnitudeText]
  split
  · refine (readNumber_positionalText x.negative d zero ends).trans ?_
    rw [value]
    rfl
  · refine (readNumber_exponentText x.negative d ends).trans ?_
    rw [value]
    rfl

end Json

end Atomistic
