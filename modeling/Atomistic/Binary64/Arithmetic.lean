import Atomistic.Binary64.Rounding
import Atomistic.Scalar

/-!
# Arithmetic of doubles

Sums, products, quotients and roots are rounded to nearest.  A NaN operand is
passed on quieted, the first of two; an invalid operation gives the negative
quiet NaN without a payload.  A sum of a list starts from `-0`, so the sum of
nothing is `-0`.
-/

namespace Atomistic

namespace Binary64

/-- The NaN with its quiet bit set. -/
def quiet (x : Binary64) : Binary64 := ⟨x.bits ||| 0x0008000000000000⟩

/-- The result of an operation that has no value. -/
def invalid : Binary64 := ⟨0xfff8000000000000⟩

/-- The native number with this pattern. -/
def toFloat (x : Binary64) : Float := Float.ofBits x.bits

/-- The pattern of a result of native arithmetic on numbers. -/
def ofFloat (result : Float) : Binary64 :=
  if result.isNaN then invalid else ⟨result.toBits⟩

/-- A rounded operation on two numbers, with the rule for NaN operands. -/
def combine (operation : Float → Float → Float) (x y : Binary64) : Binary64 :=
  if x.isNaN then x.quiet
  else if y.isNaN then y.quiet
  else ofFloat (operation x.toFloat y.toFloat)

def add (x y : Binary64) : Binary64 := combine (· + ·) x y

def sub (x y : Binary64) : Binary64 := combine (· - ·) x y

def mul (x y : Binary64) : Binary64 := combine (· * ·) x y

def div (x y : Binary64) : Binary64 := combine (· / ·) x y

def sqrt (x : Binary64) : Binary64 :=
  if x.isNaN then x.quiet else ofFloat x.toFloat.sqrt

/-- Numeric comparison, false whenever an operand is a NaN. -/
def atMost (x y : Binary64) : Bool :=
  !x.isNaN && !y.isNaN && decide (x.toFloat ≤ y.toFloat)

/-- The sum of a list from left to right. -/
def sum (xs : List Binary64) : Binary64 := xs.foldl add negativeZero

instance : Scalar Binary64 where
  zero := zero
  neutral := negativeZero
  add := add
  sub := sub
  mul := mul
  ofInt := ofInt

end Binary64

end Atomistic
