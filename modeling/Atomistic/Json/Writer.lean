import Atomistic.Decimal.Layout
import Atomistic.Json.Value

/-!
# Writing JSON

Values are written over several lines with an indent of four spaces, in
characters of ASCII only; other characters are escaped in units of UTF-16.
-/

namespace Atomistic

namespace Json

/-- Four hexadecimal digits. -/
def hexUnit (unit : Nat) : List Char :=
  let digits := Nat.toDigits 16 unit
  List.replicate (4 - digits.length) '0' ++ digits

/-- An escape with four hexadecimal digits. -/
def escapeUnit (unit : Nat) : List Char := '\\' :: 'u' :: hexUnit unit

/-- One character inside a string. -/
def writeChar (c : Char) : List Char :=
  if c == '"' then ['\\', '"']
  else if c == '\\' then ['\\', '\\']
  else if c == '\x08' then ['\\', 'b']
  else if c == '\x0c' then ['\\', 'f']
  else if c == '\n' then ['\\', 'n']
  else if c == '\r' then ['\\', 'r']
  else if c == '\t' then ['\\', 't']
  else if c.toNat < 0x20 then escapeUnit c.toNat
  else if c.toNat < 0x80 then [c]
  else if c.toNat < 0x10000 then escapeUnit c.toNat
  else
    escapeUnit (0xd800 + (c.toNat - 0x10000) / 0x400) ++
      escapeUnit (0xdc00 + (c.toNat - 0x10000) % 0x400)

/-- A string in quotes. -/
def writeString (chars : List Char) : List Char :=
  '"' :: (chars.flatMap writeChar ++ ['"'])

/-- An integer in decimal digits. -/
def writeInt (i : Int) : List Char :=
  (if i < 0 then ['-'] else []) ++ Nat.toDigits 10 i.natAbs

/-- The start of a line at a depth of nesting. -/
def newline (depth : Nat) : List Char := '\n' :: List.replicate (4 * depth) ' '

mutual

/-- A value at a depth of nesting. -/
def write (depth : Nat) : Json → List Char
  | null => ['n', 'u', 'l', 'l']
  | bool true => ['t', 'r', 'u', 'e']
  | bool false => ['f', 'a', 'l', 's', 'e']
  | integer value => writeInt value
  | real value => (Layout.document.text value).toList
  | string value => writeString value.toList
  | array [] => ['[', ']']
  | array (item :: items) =>
    '[' :: (newline (depth + 1) ++ write (depth + 1) item ++ writeItems (depth + 1) items ++
      newline depth ++ [']'])
  | object [] => ['\x7b', '\x7d']
  | object ((key, value) :: fields) =>
    '\x7b' :: (newline (depth + 1) ++ writeString key.toList ++ [':', ' '] ++
      write (depth + 1) value ++ writeFields (depth + 1) fields ++ newline depth ++ ['\x7d'])

/-- Further items of an array. -/
def writeItems (depth : Nat) : List Json → List Char
  | [] => []
  | item :: items => ',' :: (newline depth ++ write depth item ++ writeItems depth items)

/-- Further fields of an object. -/
def writeFields (depth : Nat) : List (String × Json) → List Char
  | [] => []
  | (key, value) :: fields =>
    ',' :: (newline depth ++ writeString key.toList ++ [':', ' '] ++ write depth value ++
      writeFields depth fields)

end

/-- The text of a value. -/
def dump (value : Json) : String := String.ofList (write 0 value)

end Json

end Atomistic
