import Atomistic.Binary64.Rounding

/-!
# Shortest decimals

`Decimal.shortest` writes a finite number with the fewest significant digits
that still round to it, and among those with the digits nearest to it.  A
decimal is accepted only after it has been rounded back, so what is written
always reads back as the number it was written for.
-/

namespace Atomistic

/-- The decimal number `coefficient * 10 ^ exponent`. -/
structure Decimal where
  coefficient : Nat
  exponent : Int
deriving DecidableEq

/-- Which of two decimals is written when a number lies halfway between them. -/
inductive Tie
  | upward
  | even
deriving DecidableEq

namespace Decimal

/-- How many decimal digits a natural number has; zero has one. -/
def digitCount (n : Nat) : Nat := (Nat.toDigits 10 n).length

/-- The nearest double to a decimal. -/
def toBinary64 (negative : Bool) (d : Decimal) : Binary64 :=
  Binary64.ofDecimal negative d.coefficient d.exponent

/-- The `k` with `10 ^ (k - 1) ≤ numerator / denominator < 10 ^ k`, for a
positive quotient. -/
def leading (numerator denominator : Nat) : Int :=
  if denominator ≤ numerator then (digitCount (numerator / denominator) : Int)
  else
    let inverse := digitCount (denominator / numerator)
    if numerator * Nat.pow 10 (inverse - 1) = denominator then 2 - (inverse : Int)
    else 1 - (inverse : Int)

/-- Whether the quotient `rest / denominator`, which is below one, lies above
one half, or on it where a tie goes up from `below`. -/
def roundsUp (tie : Tie) (below rest denominator : Nat) : Bool :=
  if 2 * rest = denominator then
    match tie with
    | .upward => true
    | .even => below % 2 == 1
  else decide (denominator < 2 * rest)

/-- The best decimal of a given number of digits that rounds to the absolute
value of `x`, if one does: the nearer of the two neighbors of `x`. -/
def withDigits? (tie : Tie) (x : Binary64) (count : Nat) : Option Decimal :=
  let (numerator, denominator) := x.magnitude
  let exponent := leading numerator denominator - count
  let scaled := numerator * Nat.pow 10 (-exponent).toNat
  let unit := denominator * Nat.pow 10 exponent.toNat
  let below : Decimal := ⟨scaled / unit, exponent⟩
  let above : Decimal := ⟨scaled / unit + 1, exponent⟩
  let hitBelow := below.toBinary64 x.negative == x
  let hitAbove := above.toBinary64 x.negative == x
  if hitBelow && hitAbove then
    some (if roundsUp tie below.coefficient (scaled % unit) unit then above else below)
  else if hitBelow then some below
  else if hitAbove then some above
  else none

/-- All digits of a finite number. -/
def exact (x : Binary64) : Decimal :=
  ⟨x.significand * Nat.pow 2 x.exponent.toNat * Nat.pow 5 (-x.exponent).toNat, min x.exponent 0⟩

/-- Drop zeros at the end of a coefficient, at most `fuel` of them. -/
def stripZeros : Nat → Decimal → Decimal
  | 0, d => d
  | fuel + 1, d =>
    if d.coefficient % 10 = 0 ∧ d.coefficient ≠ 0 then
      stripZeros fuel ⟨d.coefficient / 10, d.exponent + 1⟩
    else d

/-- The decimal with the fewest digits that rounds to the absolute value of a
finite number.  Seventeen digits are always enough. -/
def shortest (tie : Tie) (x : Binary64) : Decimal :=
  if x.isZero then ⟨0, 0⟩
  else
    let found := ((List.range 17).findSome? fun n => withDigits? tie x (n + 1)).getD (exact x)
    stripZeros (digitCount found.coefficient) found

end Decimal

end Atomistic
