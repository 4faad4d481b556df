/-!
# Devices

Where the data of a tensor lives.  Data is always held in memory; an index of a
graphics device only marks a tensor, so that mixed devices are noticed.  A
tensor on the meta device, which holds metadata only, has a shape and no data.
-/

namespace Atomistic

/-- Where the data of a tensor lives. -/
inductive Device
  | cpu
  | cuda (index : Nat)
  | metadata
deriving DecidableEq, Inhabited

namespace Device

def isMeta (device : Device) : Bool := device == metadata

/-- The displayed name. -/
def name : Device → String
  | cpu => "cpu"
  | cuda index => "cuda:" ++ toString index
  | metadata => "meta"

/-- The form shown for debugging. -/
def debugName : Device → String
  | cpu => "Cpu"
  | cuda index => "Cuda(" ++ toString index ++ ")"
  | metadata => "Meta"

/-- A natural number below `2 ^ 64` from its decimal digits, which a plus sign
may precede. -/
def index? (digits : List Char) : Option Nat :=
  let digits := match digits with
    | '+' :: rest => rest
    | _ => digits
  if digits.isEmpty || !digits.all Char.isDigit then none
  else
    let value := digits.foldl (fun value c => value * 10 + (c.toNat - '0'.toNat)) 0
    if value < 0x10000000000000000 then some value else none

/-- The device with a name; the first graphics device has a shorthand. -/
def ofName? (text : String) : Option Device :=
  match text with
  | "cpu" => some cpu
  | "meta" => some metadata
  | "cuda" => some (cuda 0)
  | _ =>
    match text.toList with
    | 'c' :: 'u' :: 'd' :: 'a' :: ':' :: digits => (index? digits).map cuda
    | _ => none

end Device

end Atomistic
