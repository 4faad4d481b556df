import Atomistic.Journal

/-!
# The log

How records of the journal are written as lines: the time since the start, where
a record comes from, its level in color, and its text.
-/

namespace Atomistic

namespace Level

/-- The style of a level: what follows the escape in a terminal sequence. -/
def style : Level → String
  | error => "1;31"
  | warn => "31"
  | info => "1;36"
  | debug => "2;33"
  | trace => "36"

/-- The name of a level in its color, with the terminal sequences around it. -/
def colored (level : Level) : String :=
  "\x1b[" ++ level.style ++ "m" ++ level.name ++ "\x1b[0m"

/-- The least important level that is logged at a verbosity. -/
def limit : (verbosity : Nat) → Level
  | 0 => info
  | 1 => debug
  | _ => trace

end Level

namespace Record

/-- Whether a record is logged at a verbosity. -/
def isLogged (verbosity : Nat) (record : Record) : Bool :=
  decide (record.level.number ≤ (Level.limit verbosity).number)

/-- A record without its time. -/
def body (record : Record) : String :=
  "[" ++ record.target ++ "][" ++ record.level.colored ++ "] " ++ record.text

end Record

namespace Log

/-- A natural number with characters in front up to a width. -/
def padded (filler : Char) (width n : Nat) : String :=
  let digits := Nat.toDigits 10 n
  String.ofList (List.replicate (width - digits.length) filler ++ digits)

/-- The time since the start, given in milliseconds. -/
def stamp (milliseconds : Nat) : String :=
  "[" ++ padded ' ' 4 (milliseconds / 1000) ++ "." ++ padded '0' 3 (milliseconds % 1000) ++ "s]"

/-- The line for a record. -/
def line (milliseconds : Nat) (record : Record) : String :=
  stamp milliseconds ++ record.body ++ "\n"

end Log

end Atomistic
