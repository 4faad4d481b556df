import Atomistic.Binary64.Basic

/-!
# Rounding to a binary format

`BinaryFormat.round` rounds an exact quotient of natural numbers to the nearest
number of a binary format, a tie going to the even neighbor.  Integers, decimal
texts and the cast to single precision are all rounded by it.
-/

namespace Atomistic

/-- The nearest integer to `numerator / denominator`, ties to even. -/
def roundDiv (numerator denominator : Nat) : Nat :=
  let whole := numerator / denominator
  let rest := numerator % denominator
  if 2 * rest < denominator then whole
  else if denominator < 2 * rest then whole + 1
  else if whole % 2 = 0 then whole else whole + 1

/-- A binary floating point format: how many bits a significand has, and the
range of the exponent of its last bit. -/
structure BinaryFormat where
  precision : Nat
  least : Int
  greatest : Int

namespace BinaryFormat

/-- Double precision. -/
def double : BinaryFormat := ⟨53, -1074, 971⟩

/-- Single precision. -/
def single : BinaryFormat := ⟨24, -149, 104⟩

/-- The integer part of the binary logarithm of a positive quotient. -/
def log2Quotient (numerator denominator : Nat) : Int :=
  let guess : Int := (numerator.log2 : Int) - (denominator.log2 : Int)
  if denominator * Nat.pow 2 guess.toNat ≤ numerator * Nat.pow 2 (-guess).toNat then guess
  else guess - 1

/-- Round a positive quotient to `m * 2 ^ e` in the format; `none` when the
nearest such number is too large for it. -/
def round (format : BinaryFormat) (numerator denominator : Nat) : Option (Nat × Int) :=
  let exponent :=
    max format.least (log2Quotient numerator denominator - ((format.precision : Int) - 1))
  let rounded :=
    roundDiv (numerator * Nat.pow 2 (-exponent).toNat)
      (denominator * Nat.pow 2 exponent.toNat)
  let (m, e) :=
    if rounded = Nat.pow 2 format.precision then
      (Nat.pow 2 (format.precision - 1), exponent + 1)
    else (rounded, exponent)
  if format.greatest < e then none else some (m, e)

end BinaryFormat

namespace Binary64

/-- The number with a significand of at most 53 bits and an exponent, where the
exponent is the least one unless the leading bit is set. -/
def ofParts (negative : Bool) (significand : Nat) (exponent : Int) : Binary64 :=
  if significand < 0x10000000000000 then ofFields negative 0 significand
  else ofFields negative (exponent + 1075).toNat (significand - 0x10000000000000)

/-- The nearest number to a quotient with a sign. -/
def ofQuotient (negative : Bool) (numerator denominator : Nat) : Binary64 :=
  if numerator = 0 then ofFields negative 0 0
  else
    match BinaryFormat.double.round numerator denominator with
    | some (m, e) => ofParts negative m e
    | none => infinity negative

/-- The nearest number to an integer. -/
def ofInt (i : Int) : Binary64 := ofQuotient (decide (i < 0)) i.natAbs 1

/-- Round to single precision, and widen again.  A NaN keeps its sign and the
upper bits of its payload, and becomes quiet. -/
def toSingle (x : Binary64) : Binary64 :=
  if x.isNaN then
    let payload := x.fraction / 0x20000000 * 0x20000000
    let quiet := if payload < 0x8000000000000 then payload + 0x8000000000000 else payload
    ofFields x.negative 2047 quiet
  else if x.isInfinite || x.isZero then x
  else
    match BinaryFormat.single.round x.magnitude.1 x.magnitude.2 with
    | some (m, e) => ofQuotient x.negative (m * Nat.pow 2 e.toNat) (Nat.pow 2 (-e).toNat)
    | none => infinity x.negative

/-- The nearest number to `coefficient * 10 ^ exponent` with a sign, which is an
infinity when that is too large.  Exponents far outside the range of doubles are
answered without computing the power. -/
def ofDecimal (negative : Bool) (coefficient : Nat) (exponent : Int) : Binary64 :=
  if coefficient = 0 then ofFields negative 0 0
  else
    let leading := exponent + ((Nat.toDigits 10 coefficient).length : Int)
    if 400 < leading then infinity negative
    else if leading < -400 then ofFields negative 0 0
    else
      ofQuotient negative (coefficient * Nat.pow 10 exponent.toNat)
        (Nat.pow 10 (-exponent).toNat)

end Binary64

end Atomistic
