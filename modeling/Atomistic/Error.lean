import Atomistic.NeighborList.Options
import Atomistic.Tensor.Error

/-!
# Errors

What can go wrong while systems are built, changed, read and written, one
constructor for each cause.  `Error.kind` sorts the causes and `Error.message`
words them.
-/

namespace Atomistic

/-- The four tensors of a system. -/
inductive Field
  | types
  | positions
  | cell
  | pbc
deriving DecidableEq

/-- Whether a tensor of a system is given for the first time, or replaces one. -/
inductive Stage
  | created
  | replaced
deriving DecidableEq

/-- The two atoms of a pair. -/
inductive PairEnd
  | first
  | second
deriving DecidableEq

/-- How a pair disagrees with the positions and the cell. -/
structure PairMismatch where
  first : Int
  second : Int
  shift : Vec3 Int
  expected : Vec3 Binary64
  actual : Vec3 Binary64
  norm : Binary64
deriving DecidableEq

/-- What can go wrong with a system and its parts. -/
inductive Error
  /- Labels -/
  | labelName (name : String)
  | repeatedNames (names : List String)
  | labelsDimension (dim : Nat)
  | labelsWidth (columns names : Nat)
  | labelsDType (dtype : DType)
  | noNames
  | raggedRows (values width : Nat)
  /- Blocks -/
  | wideComponent (names : List String)
  | blockShape (shape expected : Shape)
  | labelsDevice (values labels : Device)
  | gradientPresent (parameter : String)
  | gradientType (parameter : String)
  | gradientProperties (parameter : String)
  | gradientComponents (parameter : String)
  /- The layout of neighbor lists -/
  | sampleNames
  | componentLayout
  | propertyLayout
  /- Distances in the graph -/
  | alreadyInGraph
  | registerDevice (system neighbors : Device)
  | registerDType (system neighbors : DType)
  | pairData (columns values : Nat)
  | pairIndex (pairEnd : PairEnd) (atom : Int) (atoms : Nat)
  | pairMismatch (pair : PairMismatch)
  /- The tensors of a system -/
  | mixedDevices (types positions cell pbc : Device)
  | dimension (stage : Stage) (field : Field) (dim : Nat)
  | tableShape (stage : Stage) (field : Field) (shape : Shape)
  | entryCount (stage : Stage) (field : Field) (expected actual : Nat)
  | elementType (stage : Stage) (field : Field) (dtype : DType)
  | cellDType (cell positions : DType)
  | otherDType (field : Field) (new existing : DType)
  | otherDevice (field : Field) (new existing : Device)
  | cellNotZero
  /- Neighbor lists of a system -/
  | listGradients
  | listDevice (list system : Device)
  | listDType (list system : DType)
  | listPresent (options : NeighborListOptions)
  | listMissing (options : NeighborListOptions)
  /- Custom data of a system -/
  | dataName (name : String)
  | dataReserved (name : String)
  | dataPresent (name : String)
  | dataDevice (name : String) (data system : Device)
  | dataDType (name : String) (data system : DType)
  | dataMissing (name : String)
  /- Documents -/
  | notJson
  | notAnObject (what : String)
  | keyMissing (key what : String)
  | wrongClass (expected : String)
  | wrongValue (key what expected : String)
  | elementCount (expected actual : Nat)
  | sizesOverflow (sizes : Shape)
  | booleanTensor
  | units (fault : UnitError)
  | tensor (fault : TensorError)
deriving DecidableEq

/-- The kinds of errors. -/
inductive ErrorKind
  | shape
  | mismatch
  | schema
  | registry
  | consistency
  | format
  | invalidUnit
  | unknownQuantity
  | tensor
  | json
deriving DecidableEq

/-- The name of a tensor of a system. -/
def Field.name : Field → String
  | .types => "types"
  | .positions => "positions"
  | .cell => "cell"
  | .pbc => "pbc"

/-- The number of axes that a tensor of a system has. -/
def Field.dim : Field → Nat
  | .types | .pbc => 1
  | .positions | .cell => 2

/-- The column of a sample table that holds an atom. -/
def PairEnd.name : PairEnd → String
  | .first => "first_atom"
  | .second => "second_atom"

namespace Error

/-- The kind of an error. -/
def kind : Error → ErrorKind
  | labelsDimension _ | labelsWidth .. | noNames | raggedRows .. | blockShape ..
  | dimension .. | tableShape .. | entryCount .. | cellNotZero => .shape
  | labelsDType _ | labelsDevice .. | gradientType _ | registerDevice .. | registerDType ..
  | mixedDevices .. | elementType .. | cellDType .. | otherDType .. | otherDevice ..
  | listDevice .. | listDType .. | dataDevice .. | dataDType .. => .mismatch
  | labelName _ | repeatedNames _ | wideComponent _ | gradientProperties _
  | gradientComponents _ | sampleNames | componentLayout | propertyLayout | pairData ..
  | listGradients => .schema
  | gradientPresent _ | alreadyInGraph | listPresent _ | listMissing _ | dataName _
  | dataReserved _ | dataPresent _ | dataMissing _ => .registry
  | pairIndex .. | pairMismatch _ => .consistency
  | notAnObject _ | keyMissing .. | wrongClass _ | wrongValue .. | elementCount ..
  | sizesOverflow _ | booleanTensor => .format
  | units (.unknownUnit ..) => .invalidUnit
  | units (.unknownQuantity _) => .unknownQuantity
  | notJson => .json
  | tensor _ => .tensor

/-- Names in a row. -/
private def listing (names : List String) : String := ", ".intercalate names

/-- A tensor of a system, as messages refer to it. -/
private def subject (stage : Stage) (field : Field) : String :=
  (match stage with
    | .created => "`"
    | .replaced => "new `") ++ field.name ++ "`"

/-- A vector in brackets. -/
private def vector {α : Type} (text : α → String) (v : Vec3 α) : String :=
  "[" ++ listing (v.toList.map text) ++ "]"

/-- The message of an error. -/
def message : Error → String
  | labelName name => s!"'{name}' is not a valid label name"
  | repeatedNames names => "labels names must be unique, got [" ++ listing names ++ "]"
  | labelsDimension dim =>
    s!"labels values must be a 2 dimensional tensor, got {dim} dimensions"
  | labelsWidth columns names =>
    s!"labels values have {columns} columns, but there are {names} names"
  | labelsDType dtype =>
    "labels values must be " ++ DType.int32.name ++ ", got " ++ dtype.name
  | noNames => "labels need at least one name"
  | raggedRows values width => s!"{values} values can not be split in rows of {width}"
  | wideComponent names =>
    "component labels must have a single dimension, got " ++ toString names.length ++ ": [" ++
      listing names ++ "]"
  | blockShape shape expected =>
    "values shape " ++ shape.text ++ " does not match the labels, expected " ++ expected.text
  | labelsDevice values labels =>
    "all labels must be on the same device as the values (" ++ values.name ++ "), got " ++
      labels.name
  | gradientPresent parameter =>
    s!"gradient with respect to '{parameter}' already exists for this block"
  | gradientType parameter =>
    s!"gradient with respect to '{parameter}' must have the same dtype and device as the values"
  | gradientProperties parameter =>
    s!"gradient with respect to '{parameter}' must have the same properties as the values"
  | gradientComponents parameter =>
    s!"gradient with respect to '{parameter}' must end with the same components as the values"
  | sampleNames =>
    "invalid samples for `neighbors`: the samples names must be 'first_atom', " ++
      "'second_atom', 'cell_shift_a', 'cell_shift_b', 'cell_shift_c'"
  | componentLayout =>
    "invalid components for `neighbors`: there should be a single 'xyz'=[0, 1, 2] component"
  | propertyLayout =>
    "invalid properties for `neighbors`: there should be a single 'distance'=0 property"
  | alreadyInGraph =>
    "`neighbors` is already part of a computational graph, detach it before calling " ++
      "`register_autograd_neighbors()`"
  | registerDevice system neighbors =>
    "`system` and `neighbors` must be on the same device, got " ++ system.name ++ " and " ++
      neighbors.name
  | registerDType system neighbors =>
    "`system` and `neighbors` must have the same dtype, got " ++ system.name ++ " and " ++
      neighbors.name
  | pairData columns values =>
    "`neighbors` should have 5 samples columns and [n_pairs, 3, 1] values, got " ++
      s!"{columns} columns and {values} values"
  | pairIndex pairEnd atom atoms =>
    "checking internal consistency: '" ++ pairEnd.name ++ "' in neighbor list (" ++
      s!"{atom}) is out of bounds (we have {atoms} atoms in the system)"
  | pairMismatch pair =>
    "checking internal consistency: one neighbor pair does not match its metadata: the pair " ++
      "between atom " ++ toString pair.first ++ " and atom " ++ toString pair.second ++
      " for the " ++ vector (fun i => toString i) pair.shift ++
      " cell shift should have a distance vector of " ++
      vector Layout.plain.text pair.expected ++ " but has a distance vector of " ++
      vector Layout.plain.text pair.actual ++ " norm difference is " ++
      Layout.plain.text pair.norm
  | mixedDevices types positions cell pbc =>
    "`types`, `positions`, `cell`, and `pbc` must be on the same device, got " ++
      types.name ++ ", " ++ positions.name ++ ", " ++ cell.name ++ ", and " ++ pbc.name
  | dimension stage field dim =>
    subject stage field ++ " must be a " ++ toString field.dim ++
      s!" dimensional tensor, got a tensor with {dim} dimensions"
  | tableShape stage field shape =>
    subject stage field ++ " must be a (" ++
      (match field with
        | .cell => "3"
        | _ => "len(types)") ++
      " x 3) tensor, got a tensor with shape " ++ shape.text
  | entryCount stage field expected actual =>
    subject stage field ++ " must contain " ++
      s!"{expected} entries, got a tensor with {actual} values"
  | elementType stage field dtype =>
    subject stage field ++ " must be a tensor of " ++
      (match field with
        | .types => "integers"
        | .pbc => "booleans"
        | _ => "floating point data") ++
      ", got " ++ dtype.name ++ " instead"
  | cellDType cell positions =>
    "`cell` must be have the same dtype as `positions`, got " ++ cell.name ++ " and " ++
      positions.name
  | otherDType field new existing =>
    subject .replaced field ++ " must have the same dtype as existing data, got " ++
      new.name ++ " and " ++ existing.name
  | otherDevice field new existing =>
    subject .replaced field ++ " must be on the same device as existing data, got " ++
      new.name ++ " and " ++ existing.name
  | cellNotZero =>
    "if `pbc` is False along any direction, the corresponding cell vector must be zero"
  | listGradients => "`neighbors` should not have any gradients"
  | listDevice list system =>
    "`neighbors` device (" ++ list.name ++ ") does not match this system's device (" ++
      system.name ++ ")"
  | listDType list system =>
    "`neighbors` dtype (" ++ list.name ++ ") does not match this system's dtype (" ++
      system.name ++ ")"
  | listPresent options =>
    "the neighbors list for " ++ options.display ++ " already exists in this system"
  | listMissing options =>
    "No neighbor list for " ++ options.display ++ " was found.\n" ++
      "Is it part of the `requested_neighbor_lists` for this model?"
  | dataName name =>
    s!"custom data name '{name}' is invalid: only [a-z A-Z 0-9 _-] are accepted"
  | dataReserved name => s!"custom data can not be named '{name}'"
  | dataPresent name => s!"custom data '{name}' is already present in this system"
  | dataDevice name data system =>
    "device (" ++ data.name ++ s!") of the custom data '{name}' does not match this system " ++
      "device (" ++ system.name ++ ")"
  | dataDType name data system =>
    "dtype (" ++ data.name ++ s!") of custom data '{name}' does not match this system " ++
      "dtype (" ++ system.name ++ ")"
  | dataMissing name => s!"no data for '{name}' found in this system"
  | notJson => "invalid JSON"
  | notAnObject what => s!"invalid JSON data for {what}, expected an object"
  | keyMissing key what => s!"expected '{key}' in JSON for {what}, did not find it"
  | wrongClass expected => s!"'class' in JSON for {expected} must be '{expected}'"
  | wrongValue key what expected => s!"'{key}' in JSON for {what} must be {expected}"
  | elementCount expected actual =>
    s!"'values' in JSON for tensor must contain {expected} elements, got {actual}"
  | sizesOverflow sizes =>
    "'sizes' in JSON for tensor " ++ sizes.text ++ " overflow the number of elements"
  | booleanTensor =>
    "boolean tensors can not be stored in JSON, convert them to integers first"
  | units fault => fault.message
  | tensor fault => fault.message

end Error

end Atomistic
