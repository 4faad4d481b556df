import Atomistic.Tensor.Error

/-!
# Arguments

The command line names one input file, among options that take a value and
flags that take none.  An argument that starts with a hyphen is an option or one
or more flags; after `--` no argument is.  An option takes its value from the
same argument, after an equals sign, or from the next argument.

`CommandLine.step` takes one argument, and `CommandLine.finish` complains about
what is missing or repeated at the end.
-/

namespace Atomistic.Inspect

/-- What is asked for on the command line. -/
structure Arguments where
  input : String
  dtype : Option DType := none
  device : Option Device := none
  checkConsistency : Bool := false
  output : Option String := none
  log : Option String := none
  verbosity : Nat := 0
deriving DecidableEq

/-- Why a command line is not followed: it is not well formed, or it asks for
help or for the version instead. -/
inductive Usage
  | missingArgument
  | unknownArgument
  | emptyValue
  | repeatedArgument
  | help
  | version
deriving DecidableEq

/-- What can be wrong with a command line. -/
inductive ArgumentError
  | usage (fault : Usage)
  | notFloating (dtype : DType)
  | tensor (fault : TensorError)
deriving DecidableEq

namespace Usage

def text : Usage → String
  | missingArgument => "the INPUT file is missing"
  | unknownArgument => "there is an argument that is not known"
  | emptyValue => "there is an option without a value"
  | repeatedArgument => "there is an argument that can only be given once"
  | help => "help was asked for"
  | version => "the version was asked for"

end Usage

namespace ArgumentError

def message : ArgumentError → String
  | usage fault => fault.text
  | notFloating dtype => "--dtype must be a floating point type, got " ++ dtype.name
  | tensor fault => fault.message

end ArgumentError

/-- The options that take a value. -/
inductive OptionName
  | dtype
  | device
  | output
  | log
deriving DecidableEq

/-- What an argument with a leading hyphen can name. -/
inductive Switch
  | option (name : OptionName)
  | checkConsistency
  | verbose
  | help
  | version

namespace Switch

/-- The switch with a long name, which two hyphens precede. -/
def ofLong? : String → Option Switch
  | "dtype" => some (option .dtype)
  | "device" => some (option .device)
  | "output" => some (option .output)
  | "log" => some (option .log)
  | "check-consistency" => some checkConsistency
  | "help" => some help
  | "version" => some version
  | _ => none

/-- The switch with a letter, which one hyphen precedes. -/
def ofShort? : Char → Option Switch
  | 'o' => some (option .output)
  | 'v' => some verbose
  | 'h' => some help
  | 'V' => some version
  | _ => none

end Switch

/-- The part of a command line that has been read. -/
structure CommandLine where
  input : Option String := none
  /-- The options in the order in which they were named. -/
  named : List OptionName := []
  /-- The values of options in the order in which they were given. -/
  values : List (OptionName × String) := []
  /-- How often a consistency check was asked for. -/
  checks : Nat := 0
  verbosity : Nat := 0
  /-- The option whose value the next argument is. -/
  waiting : Option OptionName := none
  /-- Whether hyphens have lost their meaning. -/
  inputOnly : Bool := false

namespace CommandLine

/-- A value that stands in one argument with its option may follow equals
signs. -/
def attachedValue (chars : List Char) : String :=
  String.ofList (chars.dropWhile fun c => c == '=')

/-- Take a switch, with the value attached to it.  A flag does not look at a
value. -/
def useSwitch (line : CommandLine) (value : Option String) :
    Switch → Except Usage CommandLine
  | .option name =>
    .ok { line with
      named := line.named ++ [name]
      values := line.values ++ (value.map fun value => (name, value)).toList
      waiting := if value.isSome then none else some name }
  | .checkConsistency => .ok { line with checks := line.checks + 1, waiting := none }
  | .verbose => .ok { line with verbosity := line.verbosity + 1, waiting := none }
  | .help => .error .help
  | .version => .error .version

/-- Take an argument that starts with two hyphens or more. -/
def useLong (line : CommandLine) (chars : List Char) : Except Usage CommandLine :=
  let chars := chars.dropWhile fun c => c == '-'
  let name := chars.takeWhile fun c => c != '='
  let value :=
    match chars.dropWhile fun c => c != '=' with
    | [] => none
    | rest => some (attachedValue rest)
  match Switch.ofLong? (String.ofList name) with
  | some switch => line.useSwitch value switch
  | none => .error .unknownArgument

/-- Take the letters after a single hyphen.  What follows an option is its
value. -/
def useShort (line : CommandLine) : List Char → Except Usage CommandLine
  | [] => .ok line
  | c :: rest =>
    match Switch.ofShort? c with
    | none => .error .unknownArgument
    | some (.option name) =>
      let value := if rest.isEmpty then none else some (attachedValue rest)
      line.useSwitch value (.option name)
    | some switch => do useShort (← line.useSwitch none switch) rest

/-- Take an argument as the input.  There can only be one. -/
def useInput (line : CommandLine) (argument : String) : Except Usage CommandLine :=
  match line.input with
  | none => .ok { line with input := some argument }
  | some _ => .error .unknownArgument

/-- Take an argument as the value that an option waits for, or else as the
input. -/
def useText (line : CommandLine) (argument : String) : Except Usage CommandLine :=
  match line.waiting with
  | some name => .ok { line with values := line.values ++ [(name, argument)], waiting := none }
  | none => line.useInput argument

/-- Take one argument.  A lone hyphen is a text like any other. -/
def step (line : CommandLine) (argument : String) : Except Usage CommandLine :=
  if line.inputOnly then line.useInput argument
  else
    match argument.toList with
    | ['-', '-'] => .ok { line with inputOnly := true }
    | '-' :: '-' :: rest => line.useLong rest
    | '-' :: c :: rest => line.useShort (c :: rest)
    | _ => line.useText argument

/-- The first value of an option. -/
def value? (line : CommandLine) (name : OptionName) : Option String := line.values.lookup name

/-- Check that the input is there, that every option has a value, and that
nothing but verbosity was asked for twice.  The result is the input. -/
def finish (line : CommandLine) : Except Usage String := do
  let some input := line.input | throw .missingArgument
  if line.named.any fun name => (line.value? name).isNone then throw .emptyValue
  if line.named.any fun name => 1 < line.named.count name then throw .repeatedArgument
  if 1 < line.checks then throw .repeatedArgument
  return input

end CommandLine

namespace Arguments

/-- The floating point type with a name. -/
def floatingType (name : String) : Except ArgumentError DType := do
  let dtype ← (DType.ofName name).mapError ArgumentError.tensor
  if !dtype.isFloating then throw (.notFloating dtype)
  return dtype

/-- The arguments of a command line. -/
def parse (arguments : List String) : Except ArgumentError Arguments := do
  let line ← (arguments.foldlM CommandLine.step {}).mapError ArgumentError.usage
  let input ← line.finish.mapError ArgumentError.usage
  let dtype ← (line.value? .dtype).mapM floatingType
  let device ← (line.value? .device).mapM fun name =>
    (Device.ofName name).mapError ArgumentError.tensor
  return {
    input, dtype, device
    checkConsistency := 0 < line.checks
    output := line.value? .output
    log := line.value? .log
    verbosity := line.verbosity }

end Arguments

end Atomistic.Inspect
