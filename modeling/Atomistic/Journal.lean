/-!
# Journal entries

What happens while systems are built and checked is noted as a list of records.
A record says how important it is and which part of the library it comes from.
-/

namespace Atomistic

/-- How important a record is, the most important first. -/
inductive Level
  | error
  | warn
  | info
  | debug
  | trace
deriving DecidableEq

namespace Level

/-- The displayed name. -/
def name : Level → String
  | error => "ERROR"
  | warn => "WARN"
  | info => "INFO"
  | debug => "DEBUG"
  | trace => "TRACE"

/-- The number of a level; less important levels have larger numbers. -/
def number : Level → Nat
  | error => 1
  | warn => 2
  | info => 3
  | debug => 4
  | trace => 5

end Level

/-- One entry of the journal. -/
structure Record where
  level : Level
  target : String
  text : String
deriving DecidableEq

end Atomistic
