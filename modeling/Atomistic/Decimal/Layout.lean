import Atomistic.Decimal.Shortest

/-!
# Number layouts

A number is written in one of four ways.  `Layout.plain` is used inside
messages and descriptions, `Layout.debug` for tensor values shown for
debugging, `Layout.document` in JSON documents; they share the shortest digits
and differ in where an exponent appears.  `fixedPlaces` writes a given number of
places after the point instead.
-/

namespace Atomistic

/-- How a number is laid out from its shortest digits.  The point of a number is
the power of ten above its first digit: `12.5` has point two.  Numbers whose
point lies in `positional` are written without an exponent. -/
structure Layout where
  positional : Int → Bool
  /-- Whole numbers without an exponent end in `.0`. -/
  wholePart : Bool
  /-- An exponent that is not negative has a plus sign. -/
  plusSign : Bool
  tie : Tie

namespace Layout

/-- Never an exponent, and nothing after a whole number. -/
def plain : Layout := ⟨fun _ => true, false, false, .upward⟩

/-- An exponent below `1e-4` and from `1e16` on. -/
def debug : Layout := ⟨fun point => decide (-3 ≤ point ∧ point ≤ 16), true, false, .upward⟩

/-- An exponent below `1e-5` and from `1e16` on, always with a sign. -/
def document : Layout := ⟨fun point => decide (-4 ≤ point ∧ point ≤ 16), true, true, .even⟩

/-- Digits with a point among them, in front of them or behind them. -/
def positionalText (digits : List Char) (point : Int) (wholePart : Bool) : List Char :=
  if point ≤ 0 then '0' :: '.' :: (List.replicate (-point).toNat '0' ++ digits)
  else if (digits.length : Int) ≤ point then
    digits ++ List.replicate (point.toNat - digits.length) '0' ++
      (if wholePart then ['.', '0'] else [])
  else digits.take point.toNat ++ '.' :: digits.drop point.toNat

/-- Digits with a point after the first, and the exponent of the first. -/
def exponentText (digits : List Char) (point : Int) (plusSign : Bool) : List Char :=
  let mantissa :=
    match digits with
    | first :: second :: rest => first :: '.' :: second :: rest
    | short => short
  let sign := if point - 1 < 0 then ['-'] else if plusSign then ['+'] else []
  mantissa ++ 'e' :: (sign ++ Nat.toDigits 10 (point - 1).natAbs)

/-- The text of the absolute value of a finite number. -/
def magnitudeText (layout : Layout) (x : Binary64) : List Char :=
  let decimal := Decimal.shortest layout.tie x
  let digits := Nat.toDigits 10 decimal.coefficient
  let point := decimal.exponent + (digits.length : Int)
  if layout.positional point then positionalText digits point layout.wholePart
  else exponentText digits point layout.plusSign

/-- The text of a number that is not finite. -/
def specialText (x : Binary64) : String :=
  if x.isNaN then "NaN" else if x.negative then "-inf" else "inf"

/-- The text of a number. -/
def text (layout : Layout) (x : Binary64) : String :=
  if x.isFinite then
    String.ofList ((if x.negative then ['-'] else []) ++ layout.magnitudeText x)
  else specialText x

end Layout

/-- The exact value of a number rounded to a number of places after the point, a
tie going to the even neighbor. -/
def fixedPlaces (places : Nat) (x : Binary64) : String :=
  if x.isFinite then
    let (numerator, denominator) := x.magnitude
    let scaled := roundDiv (numerator * Nat.pow 10 places) denominator
    let after := Nat.toDigits 10 (scaled % Nat.pow 10 places)
    String.ofList <|
      (if x.negative then ['-'] else []) ++ Nat.toDigits 10 (scaled / Nat.pow 10 places) ++
        (if places = 0 then []
          else '.' :: (List.replicate (places - after.length) '0' ++ after))
  else Layout.specialText x

end Atomistic
