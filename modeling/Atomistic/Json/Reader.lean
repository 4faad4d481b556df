import Atomistic.Json.Value

/-!
# Reading JSON

`Json.parse` accepts the texts of RFC 8259 with arrays and objects nested at most
127 deep.  Integers within 64 bits stay integers, while minus zero and all other
numbers become doubles, rounded to nearest; numbers too large for a double and
halves of surrogate pairs are refused.  Of several values under one key the last
counts.
-/

namespace Atomistic

namespace Json

/-- The characters that may stand between tokens. -/
def isSpace (c : Char) : Bool := c == ' ' || c == '\t' || c == '\n' || c == '\r'

/-- The text from the first character that is not a space. -/
def skipSpace (text : List Char) : List Char := text.dropWhile isSpace

/-- The value of a hexadecimal digit. -/
def hexDigit? (c : Char) : Option Nat :=
  if '0' ≤ c ∧ c ≤ '9' then some (c.toNat - '0'.toNat)
  else if 'a' ≤ c ∧ c ≤ 'f' then some (c.toNat - 'a'.toNat + 10)
  else if 'A' ≤ c ∧ c ≤ 'F' then some (c.toNat - 'A'.toNat + 10)
  else none

/-- The value of four hexadecimal digits. -/
def hexUnit? (a b c d : Char) : Option Nat := do
  return (((← hexDigit? a) * 16 + (← hexDigit? b)) * 16 + (← hexDigit? c)) * 16 + (← hexDigit? d)

/-- The character that a letter after a backslash stands for. -/
def escape? : Char → Option Char
  | '"' => some '"'
  | '\\' => some '\\'
  | '/' => some '/'
  | 'b' => some '\x08'
  | 'f' => some '\x0c'
  | 'n' => some '\n'
  | 'r' => some '\r'
  | 't' => some '\t'
  | _ => none

/-- The characters of a string up to the closing quote, and the text after it. -/
def readString : List Char → Option (List Char × List Char)
  | [] => none
  | '"' :: rest => some ([], rest)
  | '\\' :: 'u' :: a :: b :: c :: d :: rest => do
    let unit ← hexUnit? a b c d
    if 0xd800 ≤ unit ∧ unit < 0xdc00 then
      match rest with
      | '\\' :: 'u' :: e :: f :: g :: h :: rest =>
        let low ← hexUnit? e f g h
        if 0xdc00 ≤ low ∧ low < 0xe000 then
          let (chars, rest) ← readString rest
          return (Char.ofNat (0x10000 + (unit - 0xd800) * 0x400 + (low - 0xdc00)) :: chars, rest)
        else none
      | _ => none
    else if 0xdc00 ≤ unit ∧ unit < 0xe000 then none
    else
      let (chars, rest) ← readString rest
      return (Char.ofNat unit :: chars, rest)
  | '\\' :: c :: rest => do
    let c ← escape? c
    let (chars, rest) ← readString rest
    return (c :: chars, rest)
  | c :: rest =>
    if c.toNat < 0x20 then none
    else do
      let (chars, rest) ← readString rest
      return (c :: chars, rest)

/-- The value of a list of decimal digits. -/
def digitsValue (digits : List Char) : Nat :=
  digits.foldl (fun value c => value * 10 + (c.toNat - '0'.toNat)) 0

/-- The digits at the start of a text, at least one, and the text after them. -/
def readDigits (text : List Char) : Option (List Char × List Char) :=
  let digits := text.takeWhile Char.isDigit
  if digits.isEmpty then none else some (digits, text.dropWhile Char.isDigit)

/-- The digits in front of the point.  A zero stands alone. -/
def readWhole : List Char → Option (List Char × List Char)
  | '0' :: rest => some (['0'], rest)
  | text => readDigits text

/-- A fraction, if one follows: the digits after the point. -/
def readFraction : List Char → Option (List Char × List Char)
  | '.' :: rest => readDigits rest
  | text => some ([], text)

/-- An exponent, if one follows. -/
def readExponent (text : List Char) : Option (Option Int × List Char) :=
  match text with
  | c :: rest =>
    if c == 'e' || c == 'E' then
      match rest with
      | '-' :: rest =>
        (readDigits rest).map fun (digits, rest) => (some (-(digitsValue digits : Int)), rest)
      | '+' :: rest =>
        (readDigits rest).map fun (digits, rest) => (some (digitsValue digits : Int), rest)
      | rest =>
        (readDigits rest).map fun (digits, rest) => (some (digitsValue digits : Int), rest)
    else some (none, text)
  | [] => some (none, [])

/-- The double nearest to a decimal, unless the decimal is too large. -/
def finite? (negative : Bool) (coefficient : Nat) (exponent : Int) : Option Json :=
  let x := Binary64.ofDecimal negative coefficient exponent
  if x.isFinite then some (real x) else none

/-- The number for its parts.  Without fraction and exponent it is an integer if
it is in range and not minus zero. -/
def number (negative : Bool) (whole fraction : List Char) (exponent : Option Int) :
    Option Json :=
  let value := digitsValue whole
  if fraction = [] ∧ exponent = none then
    if negative then
      if 0 < value ∧ value ≤ 0x8000000000000000 then some (integer (-(value : Int)))
      else finite? negative value 0
    else if value < 0x10000000000000000 then some (integer value)
    else finite? negative value 0
  else
    finite? negative (digitsValue (whole ++ fraction))
      (exponent.getD 0 - (fraction.length : Int))

/-- A number and the text after it. -/
def readNumber (text : List Char) : Option (Json × List Char) := do
  let (negative, text) := match text with
    | '-' :: rest => (true, rest)
    | _ => (false, text)
  let (whole, text) ← readWhole text
  let (fraction, text) ← readFraction text
  let (exponent, text) ← readExponent text
  return (← number negative whole fraction exponent, text)

/-- A reader of values: the value at the start of a text, and the text after
it. -/
abbrev Reader := List Char → Option (Json × List Char)

/-- The items of an array up to the closing bracket, at least one. -/
def readItems (value : Reader) : Nat → List Char → Option (List Json × List Char)
  | 0, _ => none
  | fuel + 1, text => do
    let (item, rest) ← value (skipSpace text)
    match skipSpace rest with
    | ',' :: rest =>
      let (items, rest) ← readItems value fuel rest
      return (item :: items, rest)
    | ']' :: rest => return ([item], rest)
    | _ => none

/-- The fields of an object up to the closing brace, at least one, in the order
of the text. -/
def readFields (value : Reader) : Nat → List Char → Option (List (String × Json) × List Char)
  | 0, _ => none
  | fuel + 1, text => do
    match skipSpace text with
    | '"' :: rest =>
      let (key, rest) ← readString rest
      match skipSpace rest with
      | ':' :: rest =>
        let (item, rest) ← value (skipSpace rest)
        let field := (String.ofList key, item)
        match skipSpace rest with
        | ',' :: rest =>
          let (fields, rest) ← readFields value fuel rest
          return (field :: fields, rest)
        | '\x7d' :: rest => return ([field], rest)
        | _ => none
      | _ => none
    | _ => none

/-- The value at the start of a text, in which arrays and objects are nested at
most as deep as the first argument says. -/
def readValue : Nat → Reader
  | depth, text =>
    match text with
    | 'n' :: 'u' :: 'l' :: 'l' :: rest => some (null, rest)
    | 't' :: 'r' :: 'u' :: 'e' :: rest => some (bool true, rest)
    | 'f' :: 'a' :: 'l' :: 's' :: 'e' :: rest => some (bool false, rest)
    | '"' :: rest => (readString rest).map fun (chars, rest) => (string (String.ofList chars), rest)
    | '[' :: rest =>
      match depth with
      | 0 => none
      | depth + 1 =>
        match skipSpace rest with
        | ']' :: rest => some (array [], rest)
        | _ =>
          (readItems (readValue depth) text.length rest).map fun (items, rest) =>
            (array items, rest)
    | '\x7b' :: rest =>
      match depth with
      | 0 => none
      | depth + 1 =>
        match skipSpace rest with
        | '\x7d' :: rest => some (object [], rest)
        | _ =>
          (readFields (readValue depth) text.length rest).map fun (fields, rest) =>
            (object (Registry.ofList fields), rest)
    | _ => readNumber text

/-- How deep arrays and objects may be nested. -/
def maxDepth : Nat := 127

/-- The value that a text consists of. -/
def parse (text : String) : Option Json := do
  let (value, rest) ← readValue maxDepth (skipSpace text.toList)
  if skipSpace rest = [] then return value else none

end Json

end Atomistic
