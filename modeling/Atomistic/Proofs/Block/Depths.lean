import Atomistic.Proofs.Block.Fitted

/-!
# Blocks at every depth

A path of parameters leads from a block into its gradients (`Atomistic.Block.at?`).  A block is
coherent if at the end of every path there is a block whose values have an axis for each of its
labels, and which takes every gradient that it has (`Atomistic.Block.Coherent`).  Sound blocks
whose gradients fit are coherent, and when a block is cast and moved, the same paths lead to the
same blocks, cast and moved (`Atomistic.Block.at?_of_recast`).
-/

namespace Atomistic

private theorem Labels.distinct_iff (names : List String) :
    Labels.distinct names ↔ names.Nodup := by
  induction names with
  | nil => simp [Labels.distinct]
  | cons name rest ih => simp [Labels.distinct, ih]

/-- What is found under a key when every value is replaced. -/
theorem Registry.find?_map {κ α β : Type} [Ord κ] (f : α → β) (entries : List (κ × α)) (key : κ) :
    find? (entries.map fun entry => (entry.1, f entry.2)) key = (find? entries key).map f := by
  induction entries with
  | nil => rfl
  | cons first rest ih =>
      rw [List.map_cons, find?_cons, find?_cons, ih]
      split <;> rfl

namespace Block

/-- The block that a path of parameters leads to. -/
def at? (block : Block) : List String → Option Block
  | [] => some block
  | parameter :: rest => (block.gradient? parameter).bind fun gradient => gradient.at? rest

/-- The parameters of the gradients of a block, in order. -/
def parameters (block : Block) : List String := block.gradients.map Prod.fst

/-- The values of a block have an axis for each of its labels, with as many entries; all labels
are `int32` tables on the device of the values with a column for each of their names, which can
be names and are distinct, and every component has one name. -/
structure Laid (block : Block) : Prop where
  shape : block.values.shape =
    block.samples.count :: block.components.map Labels.count ++ [block.properties.count]
  tables : ∀ labels ∈ block.axes, labels.values.shape = [labels.count, labels.names.length] ∧
    labels.values.dtype = .int32 ∧ labels.device = block.values.device
  names : ∀ labels ∈ block.axes,
    (∀ name ∈ labels.names, Labels.validName name = true) ∧ labels.names.Nodup
  narrow : ∀ component ∈ block.components, component.names.length = 1

/-- At the end of every path there is a block that is laid out as its labels say and takes every
gradient that it has. -/
structure Coherent (block : Block) : Prop where
  laid : ∀ path inner, block.at? path = some inner → inner.Laid
  takes : ∀ path inner, block.at? path = some inner → ∀ parameter gradient,
    inner.gradient? parameter = some gradient → inner.Takes gradient

private theorem mem_of_gradient? {block gradient : Block} {parameter : String}
    (found : block.gradient? parameter = some gradient) :
    ∃ entry ∈ block.gradients, entry.2 = gradient := Registry.mem_of_find? found

/-- What every gradient of a block shares with it holds at every depth. -/
theorem forall_at? {holds : Block → Prop}
    (inside : ∀ {block}, holds block → ∀ entry ∈ block.gradients, holds entry.2)
    (path : List String) :
    ∀ {block inner : Block}, holds block → block.at? path = some inner → holds inner := by
  induction path with
  | nil =>
      intro block inner whole found
      cases found
      exact whole
  | cons parameter rest ih =>
      intro block inner whole found
      obtain ⟨gradient, first, later⟩ := Option.bind_eq_some_iff.mp found
      obtain ⟨entry, member, rfl⟩ := mem_of_gradient? first
      exact ih (inside whole entry member) later

private theorem Sound.laid {tape : Tape} {block : Block} (sound : block.Sound tape) :
    block.Laid := by
  obtain ⟨_, labeled, shape, narrow, _, _⟩ := sound
  refine ⟨?_, fun labels axis => ?_, fun labels axis => ?_, narrow⟩
  · rw [shape]
    simp [axes]
  · obtain ⟨labels_sound, device⟩ := labeled labels axis
    exact ⟨labels_sound.shape, labels_sound.dtype, device⟩
  · obtain ⟨labels_sound, _⟩ := labeled labels axis
    exact ⟨labels_sound.named, (Labels.distinct_iff _).mp labels_sound.distinct⟩

/-- Sound blocks whose gradients fit are coherent. -/
theorem Fitted.coherent {tape : Tape} {block : Block} (fitted : block.Fitted)
    (sound : block.Sound tape) : block.Coherent where
  laid path inner found := by
    refine (forall_at? (fun {block} sound entry member => ?_) path sound found).laid
    cases sound with
    | mk _ _ _ _ _ gradients => exact gradients entry member
  takes path inner found parameter gradient added := by
    have inner_fitted : inner.Fitted := by
      refine forall_at? (fun {block} fitted entry member => ?_) path fitted found
      cases fitted with
      | mk _ _ inside => exact inside entry member
    obtain ⟨entry, member, rfl⟩ := mem_of_gradient? added
    exact inner_fitted.takes entry member

/-- At every depth of a coherent block the values are of one type and on one device. -/
theorem Coherent.together (path : List String) : ∀ {block inner : Block},
    block.Coherent → block.at? path = some inner →
      inner.values.dtype = block.values.dtype ∧ inner.values.device = block.values.device := by
  induction path with
  | nil =>
      intro block inner _ found
      cases found
      exact ⟨rfl, rfl⟩
  | cons parameter rest ih =>
      intro block inner coherent found
      obtain ⟨gradient, first, later⟩ := Option.bind_eq_some_iff.mp found
      have takes := coherent.takes [] block rfl parameter gradient first
      have within (path : List String) : block.at? (parameter :: path) = gradient.at? path := by
        rw [at?, first, Option.bind_some]
      have gradient_coherent : gradient.Coherent :=
        ⟨fun path inner found =>
            coherent.laid (parameter :: path) inner ((within path).trans found),
          fun path inner found =>
            coherent.takes (parameter :: path) inner ((within path).trans found)⟩
      obtain ⟨dtype, device⟩ := ih gradient_coherent later
      exact ⟨dtype.trans takes.dtype, device.trans takes.device⟩

/-- When everything in a block is replaced in one way, the same paths lead to what replaced the
same blocks. -/
theorem at?_map {f : Block → Block}
    (inside : ∀ block, (f block).gradients = block.gradients.map fun entry => (entry.1, f entry.2))
    (path : List String) : ∀ block : Block, (f block).at? path = (block.at? path).map f := by
  induction path with
  | nil => exact fun block => rfl
  | cons parameter rest ih =>
      intro block
      rw [at?, at?, gradient?, gradient?, inside, Registry.find?_map]
      cases Registry.find? block.gradients parameter with
      | none => rfl
      | some gradient => exact ih gradient

/-- A block is cast and moved to a device as it is cast and moved to the device that is meant. -/
theorem recast_home (block : Block) (dtype : Option DType) (device : Option Device) :
    block.recast dtype (some (device.getD block.values.device)) = block.recast dtype device := by
  cases block
  rw [recast, recast]
  rfl

/-- When a block is cast and moved, so are its gradients at every depth, and no parameter is
lost. -/
theorem at?_of_recast {block made : Block} {dtype : Option DType} {device : Option Device}
    (same : made.bare = block.recast dtype device) (path : List String) :
    (made.at? path).map bare = (block.at? path).map
      (Block.recast dtype (some (device.getD block.values.device))) := by
  rw [← at?_map bare_gradients path made, same, ← recast_home]
  exact at?_map (fun inner => by rw [recast_gradients]; rfl) path block

/-- A block that was cast and moved has the parameters that it had, at every depth. -/
theorem parameters_of_recast {block made : Block} {dtype : Option DType} {device : Option Device}
    (same : made.bare = block.recast dtype device) (path : List String) :
    (made.at? path).map parameters = (block.at? path).map parameters := by
  have bare_parameters (inner : Block) : inner.bare.parameters = inner.parameters := by
    rw [parameters, bare_gradients, List.map_map]
    rfl
  have recast_parameters (dtype : Option DType) (device : Option Device) (inner : Block) :
      (inner.recast dtype device).parameters = inner.parameters := by
    rw [parameters, recast_gradients, List.map_map]
    rfl
  have names := congrArg (Option.map parameters) (at?_of_recast same path)
  simp only [Option.map_map, Function.comp_def, bare_parameters, recast_parameters] at names
  exact names

end Block

end Atomistic
