/-!
# Double precision numbers

A number is held as its bit pattern, so that the payload of a NaN and the sign
of a zero are part of the value.  A finite number is `significand * 2 ^ exponent`
with a sign; `Binary64.magnitude` gives that product as an exact quotient.
-/

namespace Atomistic

/-- An IEEE 754 double precision number, held as its bit pattern.  Equality of
values is equality of patterns; `Binary64.equal` is numeric equality. -/
structure Binary64 where
  bits : UInt64
deriving DecidableEq, Inhabited

namespace Binary64

/-- The sign bit. -/
def negative (x : Binary64) : Bool := decide (0x8000000000000000 ≤ x.bits.toNat)

/-- The eleven bits of the biased exponent. -/
def biased (x : Binary64) : Nat := x.bits.toNat / 0x10000000000000 % 0x800

/-- The fifty-two bits below the exponent. -/
def fraction (x : Binary64) : Nat := x.bits.toNat % 0x10000000000000

/-- Put a number together from its three fields. -/
def ofFields (negative : Bool) (biased fraction : Nat) : Binary64 :=
  ⟨UInt64.ofNat <|
    (if negative then 0x8000000000000000 else 0) + biased * 0x10000000000000 + fraction⟩

/-- Positive zero. -/
def zero : Binary64 := ⟨0⟩

/-- Negative zero, the neutral element of addition. -/
def negativeZero : Binary64 := ⟨0x8000000000000000⟩

/-- One. -/
def one : Binary64 := ⟨0x3ff0000000000000⟩

/-- The infinity of a sign. -/
def infinity (negative : Bool) : Binary64 := ofFields negative 2047 0

def isNaN (x : Binary64) : Bool := x.biased == 2047 && x.fraction != 0

def isInfinite (x : Binary64) : Bool := x.biased == 2047 && x.fraction == 0

def isFinite (x : Binary64) : Bool := x.biased != 2047

/-- Either zero. -/
def isZero (x : Binary64) : Bool := x.biased == 0 && x.fraction == 0

/-- The integer `m` in the value `m * 2 ^ e` of a finite number; the leading bit
is implied unless the exponent field is zero. -/
def significand (x : Binary64) : Nat :=
  if x.biased = 0 then x.fraction else 0x10000000000000 + x.fraction

/-- The exponent `e` in the value `m * 2 ^ e` of a finite number. -/
def exponent (x : Binary64) : Int :=
  (if x.biased = 0 then 1 else (x.biased : Int)) - 1075

/-- The absolute value of a finite number as a numerator and a denominator. -/
def magnitude (x : Binary64) : Nat × Nat :=
  (x.significand * Nat.pow 2 x.exponent.toNat, Nat.pow 2 (-x.exponent).toNat)

/-- Numeric equality: the two zeros are equal, and a NaN equals nothing. -/
def equal (x y : Binary64) : Bool :=
  !x.isNaN && !y.isNaN && (x == y || (x.isZero && y.isZero))

/-- The place of a pattern in the total order of all patterns: negative NaNs
first, then the numbers from `-∞` to `∞` with `-0` before `0`, then positive
NaNs. -/
def rank (x : Binary64) : Int :=
  if x.negative then -1 - ((x.bits.toNat % 0x8000000000000000 : Nat) : Int)
  else ((x.bits.toNat % 0x8000000000000000 : Nat) : Int)

/-- The pattern read as a signed 64-bit integer. -/
def signedBits (x : Binary64) : Int := Int.bmod x.bits.toNat 0x10000000000000000

/-- The number whose pattern is a signed 64-bit integer. -/
def ofSignedBits (pattern : Int) : Binary64 :=
  ⟨UInt64.ofNat (pattern % 0x10000000000000000).toNat⟩

/-- The integer part of a number, brought into the range of 64-bit signed
integers; a NaN has none and gives zero. -/
def toInt64 (x : Binary64) : Int :=
  if x.isNaN then 0
  else
    let most : Nat := 0x8000000000000000
    let whole : Nat :=
      if x.isInfinite then most else x.magnitude.1 / x.magnitude.2
    if x.negative then -(min whole most : Nat) else (min whole (most - 1) : Nat)

end Binary64

end Atomistic
