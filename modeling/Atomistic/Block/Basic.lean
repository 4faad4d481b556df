import Atomistic.Block.Labels
import Atomistic.Registry

/-!
# Blocks

A block is a tensor whose axes have labels: samples first, then components, then
properties.  It may hold gradients with respect to named parameters, which are
blocks themselves.
-/

namespace Atomistic

/-- Values with labeled samples, components and properties.  The gradients are
in the order of their parameters. -/
structure Block where
  values : Tensor
  samples : Labels
  components : List Labels
  properties : Labels
  gradients : List (String × Block)

namespace Block

/-- The labels of all axes, in order. -/
def axes (block : Block) : List Labels :=
  block.samples :: block.components ++ [block.properties]

/-- A block without gradients. -/
def create (values : Tensor) (samples : Labels) (components : List Labels)
    (properties : Labels) : Except Error Block := do
  match components.find? fun component => component.names.length ≠ 1 with
  | some component => throw (.wideComponent component.names)
  | none => pure ()
  let expected := samples.count :: components.map Labels.count ++ [properties.count]
  if values.shape ≠ expected then throw (.blockShape values.shape expected)
  let block : Block := ⟨values, samples, components, properties, []⟩
  match block.axes.find? fun labels => labels.device ≠ values.device with
  | some labels => throw (.labelsDevice values.device labels.device)
  | none => pure ()
  return block

/-- Whether two lists of labels are equal, entry by entry. -/
def equalLabels (a b : List Labels) : Bool :=
  a.length == b.length && (a.zip b).all fun (l, m) => l.equal m

/-- The gradient with respect to a parameter. -/
def gradient? (block : Block) (parameter : String) : Option Block :=
  Registry.find? block.gradients parameter

/-- Add the gradient with respect to a parameter.  It has the properties of the
block, its last components are those of the block, and its type and device are
the same. -/
def attachGradient (parameter : String) (gradient : Block) : InPlace Block Error Id Unit := do
  let block ← InPlace.held
  if Registry.contains block.gradients parameter then throw (.gradientPresent parameter)
  if gradient.values.dtype ≠ block.values.dtype ∨
      gradient.values.device ≠ block.values.device then
    throw (.gradientType parameter)
  if !gradient.properties.equal block.properties then throw (.gradientProperties parameter)
  let extra := gradient.components.length - block.components.length
  if gradient.components.length < block.components.length ∨
      !equalLabels (gradient.components.drop extra) block.components then
    throw (.gradientComponents parameter)
  modify fun block =>
    { block with gradients := Registry.insert parameter gradient block.gradients }

/-- A copy of a block to which a gradient is added. -/
def addGradient (block : Block) (parameter : String) (gradient : Block) : Except Error Block :=
  (attachGradient parameter gradient).copied block

mutual

/-- Cast the values to an element type and move everything to a device, where
given; so are the gradients. -/
def transfer (dtype : Option DType) (device : Option Device) : Block → Session TensorError Block
  | ⟨values, samples, components, properties, gradients⟩ => do
    let values ← values.transfer dtype device
    let gradients ← transferAll dtype (some values.device) gradients
    let samples ← samples.transfer values.device
    let components ← components.mapM fun component => component.transfer values.device
    let properties ← properties.transfer values.device
    return ⟨values, samples, components, properties, gradients⟩

/-- Cast and move every block of a list. -/
def transferAll (dtype : Option DType) (device : Option Device) :
    List (String × Block) → Session TensorError (List (String × Block))
  | [] => return []
  | (parameter, block) :: rest => do
    let block ← transfer dtype device block
    let rest ← transferAll dtype device rest
    return (parameter, block) :: rest

end

mutual

/-- Equality of values, labels and gradients; values are compared as numbers. -/
def equal : Block → Block → Bool
  | ⟨values, samples, components, properties, gradients⟩, other =>
    values.equal other.values && samples.equal other.samples &&
      equalLabels components other.components && properties.equal other.properties &&
      equalAll gradients other.gradients

/-- Equality of lists of named blocks. -/
def equalAll : List (String × Block) → List (String × Block) → Bool
  | [], [] => true
  | (parameter, block) :: rest, (otherParameter, other) :: others =>
    parameter == otherParameter && equal block other && equalAll rest others
  | _, _ => false

end

end Block

end Atomistic
