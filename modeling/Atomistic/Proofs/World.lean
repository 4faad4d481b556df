import Atomistic.Proofs.Document.Sound
import Atomistic.Proofs.NeighborList.Register
import Atomistic.Proofs.System.Histories

/-!
# Worlds

A world is what a program has at hand: the workspace, and the labels, blocks, options and
systems that the operations gave it so far.  `Atomistic.World.Step` applies one operation
to things at hand.  An operation in place leaves something of the value that it is called on,
whether it succeeds or fails, and a copy of the value stays at hand.  Whatever the order of
operations, everything at hand is sound (`Atomistic.World.Reachable.sound`).
-/

namespace Atomistic

open Run

/-- The workspace and everything that was made in it. -/
structure World where
  workspace : Workspace := {}
  labels : List Labels := []
  blocks : List Block := []
  options : List NeighborListOptions := []
  systems : List System := []

namespace World

/-- The operations that give labels. -/
inductive MakesLabels (world : World) : Session Error Labels → Prop
  | ofTensor (names : List String) {values : Tensor} (known : world.workspace.tape.Knows values) :
      MakesLabels world (Session.ofExcept (Labels.ofTensor names values))
  | ofFlat (names : List String) (entries : List Int) :
      MakesLabels world (Labels.ofFlat names entries)
  | range (name : String) (count : Nat) : MakesLabels world (Labels.range name count)
  | transfer {labels : Labels} (present : labels ∈ world.labels) (device : Device) :
      MakesLabels world (ExceptT.adapt Error.tensor (labels.transfer device))
  | axis {block : Block} (present : block ∈ world.blocks) {labels : Labels}
      (axis : labels ∈ block.axes) : MakesLabels world (pure labels)

/-- The operations that give blocks. -/
inductive MakesBlock (world : World) : Session Error Block → Prop
  | create {values : Tensor} {samples properties : Labels} {components : List Labels}
      (known : world.workspace.tape.Knows values)
      (present : ∀ labels ∈ samples :: components ++ [properties], labels ∈ world.labels) :
      MakesBlock world (Session.ofExcept (Block.create values samples components properties))
  | transfer {block : Block} (present : block ∈ world.blocks) (dtype : Option DType)
      (device : Option Device) :
      MakesBlock world (ExceptT.adapt Error.tensor (block.transfer dtype device))
  | gradient {block gradient : Block} (present : block ∈ world.blocks) {parameter : String}
      (found : block.gradient? parameter = some gradient) : MakesBlock world (pure gradient)
  | assemble {samples distances : Tensor} (samples_known : world.workspace.tape.Knows samples)
      (distances_known : world.workspace.tape.Knows distances) :
      MakesBlock world (NeighborList.assemble samples distances)
  | neighborList {system : System} (present : system ∈ world.systems)
      (options : NeighborListOptions) :
      MakesBlock world (Session.ofExcept (system.neighborList options))
  | data {system : System} (present : system ∈ world.systems) (name : String) :
      MakesBlock world (Session.ofExcept (system.getData name))

/-- The operations that give options. -/
inductive MakesOptions (world : World) : Session Error NeighborListOptions → Prop
  | create (cutoff : Binary64) (fullList : Bool) (requestor : String) :
      MakesOptions world (pure (NeighborListOptions.create cutoff fullList requestor))
  | addRequestor {options : NeighborListOptions} (present : options ∈ world.options)
      (requestor : String) : MakesOptions world (pure (options.addRequestor requestor))
  | ofJson (text : String) : MakesOptions world (Session.ofExcept (NeighborListOptions.ofJson text))
  | known {system : System} (present : system ∈ world.systems) {options : NeighborListOptions}
      (listed : options ∈ system.knownNeighborLists) : MakesOptions world (pure options)

/-- The operations that construct a system. -/
inductive MakesSystem (world : World) : Session Error System → Prop
  | create {types positions cell pbc : Tensor}
      (known : ∀ tensor ∈ [types, positions, cell, pbc], world.workspace.tape.Knows tensor) :
      MakesSystem world (System.create types positions cell pbc)
  | transfer {system : System} (present : system ∈ world.systems) (dtype : Option DType)
      (device : Option Device) : MakesSystem world (system.transfer dtype device)
  | ofJson (text : String) : MakesSystem world (System.ofJson text)

/-- The world after a session, with what the session gave if it succeeded. -/
def keep {α : Type} (world : World) (session : Session Error α) (store : α → World → World) :
    World :=
  match session.exec world.workspace with
  | (.ok value, workspace) => store value { world with workspace }
  | (.error _, workspace) => { world with workspace }

/-- The arguments of a call on a system are at hand. -/
def Offers (world : World) : System.Change → Prop
  | .set _ tensor => world.workspace.tape.Knows tensor
  | .addNeighborList options list => options ∈ world.options ∧ list ∈ world.blocks
  | .addData _ block _ => block ∈ world.blocks

/-- The world after an operation in place, with what the operation left of the value. -/
def change {σ : Type} (world : World) (operation : InPlace σ Error (StateM Workspace) Unit)
    (value : σ) (store : σ → World → World) : World :=
  match operation.exec value world.workspace with
  | ((_, left), workspace) => store left { world with workspace }

/-- The world after a gradient is added to a block. -/
def addGradient (world : World) (block : Block) (parameter : String) (gradient : Block) : World :=
  world.change (Block.attachGradient parameter gradient).inSession block fun left after =>
    { after with blocks := left :: after.blocks }

/-- The world after the unit of options is set. -/
def setLengthUnit (world : World) (options : NeighborListOptions) (unit : String) : World :=
  let operation := ExceptT.adapt Error.units (NeighborListOptions.assignLengthUnit unit)
  world.change (InPlace.inSession operation) options fun left after =>
    { after with options := left :: after.options }

/-- The world after a call on a system. -/
def call (world : World) (system : System) (change : System.Change) : World :=
  world.change change.apply system fun left after =>
    { after with systems := left :: after.systems }

/-- One operation. -/
inductive Step : World → World → Prop
  | run {world : World} {after : Workspace} (run : Run Dense.Valid world.workspace after) :
      Step world { world with workspace := after }
  | register {world : World} {system : System} {list : Block} (present : system ∈ world.systems)
      (list_present : list ∈ world.blocks) (check : Bool) :
      Step world (world.keep (NeighborList.register system list check) fun _ after => after)
  | labels {world : World} {session : Session Error Labels} (makes : world.MakesLabels session) :
      Step world (world.keep session fun made after =>
        { after with labels := made :: after.labels })
  | block {world : World} {session : Session Error Block} (makes : world.MakesBlock session) :
      Step world (world.keep session fun made after =>
        { after with blocks := made :: after.blocks })
  | options {world : World} {session : Session Error NeighborListOptions}
      (makes : world.MakesOptions session) :
      Step world (world.keep session fun made after =>
        { after with options := made :: after.options })
  | system {world : World} {session : Session Error System} (makes : world.MakesSystem session) :
      Step world (world.keep session fun made after =>
        { after with systems := made :: after.systems })
  | addGradient {world : World} {block gradient : Block} (present : block ∈ world.blocks)
      (gradient_present : gradient ∈ world.blocks) (parameter : String) :
      Step world (world.addGradient block parameter gradient)
  | setLengthUnit {world : World} {options : NeighborListOptions}
      (present : options ∈ world.options) (unit : String) :
      Step world (world.setLengthUnit options unit)
  | call {world : World} {system : System} (present : system ∈ world.systems)
      {change : System.Change} (offers : world.Offers change) :
      Step world (world.call system change)

/-- The worlds that operations lead to, in any order. -/
def Reachable : World → Prop := Relation.ReflTransGen Step {}

/-- Everything at hand is sound. -/
structure Sound (world : World) : Prop where
  tape : world.workspace.tape.Sound
  holds : world.workspace.tape.Holds Dense.Valid
  marked : world.workspace.tape.Marked
  labels : ∀ labels ∈ world.labels, labels.Sound world.workspace.tape
  blocks : ∀ block ∈ world.blocks, block.Sound world.workspace.tape
  options : ∀ options ∈ world.options, options.Sound
  systems : ∀ system ∈ world.systems, system.Sound world.workspace.tape

/-- A world in which nothing was made is sound. -/
theorem Sound.start : Sound {} where
  tape := .start
  holds := .start
  marked := .start
  labels := List.forall_mem_nil _
  blocks := List.forall_mem_nil _
  options := List.forall_mem_nil _
  systems := List.forall_mem_nil _

variable {world : World}

/-- What is at hand stays sound while the workspace is extended. -/
theorem Sound.extend (sound : world.Sound) {after : Workspace}
    (extended : Extends Dense.Valid world.workspace after) :
    Sound { world with workspace := after } where
  tape := Tape.Steps.sound extended.steps sound.tape
  holds := extended.holds sound.holds
  marked := extended.marked sound.tape sound.marked
  labels labels member := (sound.labels labels member).mono extended
  blocks block member := (sound.blocks block member).mono extended
  options := sound.options
  systems system member := (sound.systems system member).mono extended

private theorem Sound.keep (sound : world.Sound) {α : Type} {session : Session Error α}
    {store : α → World → World} {ended : α → Workspace → Prop}
    (within : session.Within (Extends Dense.Valid) world.workspace ended)
    (stores : ∀ value (after : World), ended value after.workspace → after.Sound →
      (store value after).Sound) : (world.keep session store).Sound := by
  rcases ran : session.exec world.workspace with ⟨result, after⟩
  have moved := within.moved
  have gives := within.gives
  rw [ran] at moved gives
  have kept := sound.extend moved
  rw [World.keep, ran]
  cases result with
  | error fault => exact kept
  | ok value => exact stores value _ (gives value rfl) kept

private theorem pure_within {α : Type} {value : α} {workspace : Workspace}
    {ended : α → Workspace → Prop}
    (holds : ended value workspace) :
    (pure value : Session Error α).Within (Extends Dense.Valid) workspace ended :=
  .of_exec rfl (.refl _) fun _ same => Except.ok.inj same ▸ holds

private theorem ofExcept_sound {α : Type} {result : Except Error α} {workspace : Workspace}
    {fine : Tape → α → Prop} (holds : ∀ made, result = .ok made → fine workspace.tape made) :
    (Session.ofExcept result).Within (Extends Dense.Valid) workspace fun made after =>
      fine after.tape made := by
  apply (ofExcept_within result).weaken
  rintro made after ⟨succeeded, same⟩
  rw [same]
  exact holds made succeeded

/-- Labels made of what is at hand are sound. -/
theorem MakesLabels.within (sound : world.Sound) {session : Session Error Labels}
    (makes : world.MakesLabels session) :
    session.Within (Extends Dense.Valid) world.workspace fun made after =>
      made.Sound after.tape := by
  cases makes with
  | ofTensor names known =>
      exact @ofExcept_sound _ _ _ (fun tape made => Labels.Sound tape made)
        fun _ built => (Labels.ofTensor_sound known built).1
  | ofFlat names entries => exact (Labels.ofFlat_within names entries).weaken fun _ _ made => made.1
  | range name count => exact (Labels.ofFlat_within _ _).weaken fun _ _ made => made.1
  | transfer present device =>
      exact (Labels.transfer_within Dense.kind_valid (sound.labels _ present) device).adapt.weaken
        fun _ _ made => made.sound
  | axis present axis =>
      refine pure_within ?_
      cases sound.blocks _ present with
      | mk _ labeled _ _ _ _ => exact (labeled _ axis).1

/-- Blocks made of what is at hand are sound. -/
theorem MakesBlock.within (sound : world.Sound) {session : Session Error Block}
    (makes : world.MakesBlock session) :
    session.Within (Extends Dense.Valid) world.workspace fun made after =>
      made.Sound after.tape := by
  cases makes with
  | create known present =>
      exact @ofExcept_sound _ _ _ (fun tape made => Block.Sound tape made) fun made built =>
        (Block.create_sound known (fun labels member => sound.labels labels (present labels member))
          built).1
  | transfer present dtype device =>
      exact (Block.transfer_within Dense.kind_valid (sound.blocks _ present) dtype
        device).adapt.weaken fun _ _ made => made.sound
  | gradient present found =>
      refine pure_within ?_
      obtain ⟨entry, member, same⟩ := Registry.mem_of_find? found
      cases sound.blocks _ present with
      | mk _ _ _ _ _ gradients => exact same ▸ gradients entry member
  | assemble samples_known distances_known =>
      exact (NeighborList.assemble_within samples_known distances_known).weaken
        fun _ _ made => made.1
  | @neighborList system present options =>
      apply @ofExcept_sound _ _ _ (fun tape made => Block.Sound tape made)
      intro made found
      rw [System.neighborList] at found
      split at found
      next list stored =>
        cases found
        obtain ⟨entry, member, same⟩ := Registry.mem_of_find? stored
        exact same ▸ ((sound.systems _ present).lists entry member).2.sound
      next => cases found
  | @data system present name =>
      apply @ofExcept_sound _ _ _ (fun tape made => Block.Sound tape made)
      intro made found
      obtain ⟨_, _, found⟩ := ok_of_bind found
      split at found
      next block stored =>
        cases found
        obtain ⟨entry, member, same⟩ := Registry.mem_of_find? stored
        exact same ▸ ((sound.systems _ present).data entry member).sound
      next => cases found

/-- Options made of what is at hand are sound. -/
theorem MakesOptions.within (sound : world.Sound) {session : Session Error NeighborListOptions}
    (makes : world.MakesOptions session) :
    session.Within (Extends Dense.Valid) world.workspace fun made _ => made.Sound := by
  cases makes with
  | create cutoff fullList requestor =>
      exact pure_within (NeighborListOptions.create_sound cutoff fullList requestor)
  | addRequestor present requestor =>
      exact pure_within ((sound.options _ present).addRequestor requestor)
  | ofJson text =>
      apply @ofExcept_sound _ _ _ (fun _ (made : NeighborListOptions) => made.Sound)
      exact fun made read => (Document.ofJson_options_sound read).1
  | known present listed =>
      refine pure_within ?_
      obtain ⟨entry, member, same⟩ := List.mem_map.mp listed
      exact same ▸ ((sound.systems _ present).lists entry member).1

/-- Every construction compares the cell with the periodicity. -/
theorem MakesSystem.within (sound : world.Sound) {session : Session Error System}
    (makes : world.MakesSystem session) :
    session.Within (Extends Dense.Valid) world.workspace fun made after =>
      made.Constructed after.tape := by
  cases makes with
  | create known =>
      exact (System.create_within Dense.kind_valid known).weaken fun _ _ made => made.1
  | transfer present dtype device =>
      exact System.transfer_within Dense.kind_valid (sound.systems _ present) dtype device
  | ofJson text => exact (System.ofJson_decoded text).weaken fun _ _ made => made.1.toConstructed

/-- A call on a system leaves a sound one. -/
theorem Offers.gives {system : System} (sound : world.Sound) (present : system ∈ world.systems)
    {change : System.Change} (offers : world.Offers change) :
    (change.made system).Within (Extends Dense.Valid) world.workspace
      (System.Change.Gives system change) := by
  have system_sound := sound.systems system present
  cases change with
  | set field tensor => exact System.Change.set_gives Dense.kind_valid system_sound offers field
  | addNeighborList options list =>
      exact System.Change.addNeighborList_gives system_sound (sound.options options offers.1)
        (sound.blocks list offers.2)
  | addData name block overwrite =>
      exact System.Change.addData_gives system_sound (sound.blocks block offers) name overwrite

/-! ### Operations in place -/

/-- What a call that adds a gradient leaves. -/
theorem addGradient_eq (world : World) (block : Block) (parameter : String) (gradient : Block) :
    ∃ left, world.addGradient block parameter gradient =
        { world with blocks := left :: world.blocks } ∧
      (left = block ∨ block.addGradient parameter gradient = .ok left) := by
  rw [addGradient, change, Block.exec_attachGradient]
  cases block.addGradient parameter gradient with
  | error fault => exact ⟨block, rfl, .inl rfl⟩
  | ok made => exact ⟨made, rfl, .inr rfl⟩

/-- What a call that sets the unit of options leaves. -/
theorem setLengthUnit_eq (world : World) (options : NeighborListOptions) (unit : String) :
    ∃ left, world.setLengthUnit options unit = { world with options := left :: world.options } ∧
      (left = options ∨ options.setLengthUnit unit = .ok left) := by
  rw [setLengthUnit, change, NeighborListOptions.exec_assignLengthUnit]
  cases options.setLengthUnit unit with
  | error fault => exact ⟨options, rfl, .inl rfl⟩
  | ok made => exact ⟨made, rfl, .inr rfl⟩

/-- What a call on a system leaves. -/
theorem call_eq (world : World) (system : System) (change : System.Change) :
    ∃ left after, world.call system change =
        { world with workspace := after, systems := left :: world.systems } ∧
      after = ((change.made system).exec world.workspace).2 ∧
      (left = system ∨ (change.made system).exec world.workspace = (.ok left, after)) := by
  rw [call, World.change, change.exec_apply]
  rcases (change.made system).exec world.workspace with ⟨_ | made, after⟩
  · exact ⟨system, after, rfl, rfl, .inl rfl⟩
  · exact ⟨made, after, rfl, rfl, .inr rfl⟩

/-- One operation keeps everything sound. -/
theorem Step.sound {before after : World} (step : Step before after) (sound : before.Sound) :
    after.Sound := by
  cases step with
  | run run => exact sound.extend (run.extended Dense.kind_valid)
  | register present list_present check =>
      exact sound.keep (NeighborList.register_within (sound.systems _ present)
        (sound.blocks _ list_present) check) fun _ _ _ kept => kept
  | labels makes =>
      exact sound.keep (makes.within sound) fun made after made_sound kept =>
        { kept with labels := List.forall_mem_cons.mpr ⟨made_sound, kept.labels⟩ }
  | block makes =>
      exact sound.keep (makes.within sound) fun made after made_sound kept =>
        { kept with blocks := List.forall_mem_cons.mpr ⟨made_sound, kept.blocks⟩ }
  | options makes =>
      exact sound.keep (makes.within sound) fun made after made_sound kept =>
        { kept with options := List.forall_mem_cons.mpr ⟨made_sound, kept.options⟩ }
  | system makes =>
      exact sound.keep (makes.within sound) fun made after constructed kept =>
        { kept with systems := List.forall_mem_cons.mpr ⟨constructed.toSound, kept.systems⟩ }
  | @addGradient block gradient present gradient_present parameter =>
      obtain ⟨left, same, unchanged | added⟩ := addGradient_eq before block parameter gradient
      all_goals rw [same]
      · exact { sound with
          blocks := List.forall_mem_cons.mpr ⟨unchanged ▸ sound.blocks block present,
            sound.blocks⟩ }
      · have added_sound := Block.addGradient_sound (sound.blocks block present)
          (sound.blocks gradient gradient_present) added
        exact { sound with blocks := List.forall_mem_cons.mpr ⟨added_sound, sound.blocks⟩ }
  | @setLengthUnit options present unit =>
      obtain ⟨left, same, unchanged | set⟩ := setLengthUnit_eq before options unit
      all_goals rw [same]
      · exact { sound with options :=
          List.forall_mem_cons.mpr ⟨unchanged ▸ sound.options options present, sound.options⟩ }
      · have set_sound := (NeighborListOptions.setLengthUnit_ok set).1
        exact { sound with options := List.forall_mem_cons.mpr ⟨set_sound, sound.options⟩ }
  | @call system present change offers =>
      have gives := offers.gives sound present
      obtain ⟨left, after, same, rfl, unchanged | changed⟩ := call_eq before system change
      all_goals
        rw [same]
        have kept := sound.extend gives.moved
      · exact { kept with systems :=
          List.forall_mem_cons.mpr ⟨unchanged ▸ kept.systems system present, kept.systems⟩ }
      · have changed_sound := (gives.of_success changed).2.sound
        exact { kept with systems := List.forall_mem_cons.mpr ⟨changed_sound, kept.systems⟩ }

/-- **Everything at hand is sound**, in whatever order it was made. -/
theorem Reachable.sound (reachable : world.Reachable) : world.Sound := by
  induction reachable with
  | refl => exact .start
  | tail _ step ih => exact step.sound ih

/-- What holds of every block and of every system that is made or changed, if it holds of those
at hand, holds of all blocks and systems at hand. -/
theorem Reachable.forall_made {onBlock : Block → Prop} {onSystem : System → Prop}
    (reachable : world.Reachable)
    (block : ∀ {world : World} {session : Session Error Block} {made : Block} {after : Workspace},
      world.Reachable → (∀ block ∈ world.blocks, onBlock block) →
        (∀ system ∈ world.systems, onSystem system) → world.MakesBlock session →
        session.exec world.workspace = (.ok made, after) → onBlock made)
    (gradient : ∀ {block gradient : Block} {parameter : String} {made : Block},
      onBlock block → onBlock gradient → block.addGradient parameter gradient = .ok made →
        onBlock made)
    (system : ∀ {world : World} {session : Session Error System} {made : System} {after},
      world.Reachable → (∀ block ∈ world.blocks, onBlock block) →
        (∀ system ∈ world.systems, onSystem system) → world.MakesSystem session →
        session.exec world.workspace = (.ok made, after) → onSystem made)
    (call : ∀ {world : World} {system made : System} {change : System.Change} {after : Workspace},
      world.Reachable → (∀ block ∈ world.blocks, onBlock block) → onSystem system →
        world.Offers change → (change.made system).exec world.workspace = (.ok made, after) →
        onSystem made) :
    (∀ block ∈ world.blocks, onBlock block) ∧ ∀ system ∈ world.systems, onSystem system := by
  induction reachable with
  | refl => exact ⟨List.forall_mem_nil _, List.forall_mem_nil _⟩
  | @tail world after reached step ih =>
      obtain ⟨blocks, systems⟩ := ih
      have kept {α : Type} {session : Session Error α} {store : α → World → World}
          (stores : ∀ value world, (store value world).blocks = world.blocks ∧
            (store value world).systems = world.systems) :
          (∀ block ∈ (world.keep session store).blocks, onBlock block) ∧
            ∀ system ∈ (world.keep session store).systems, onSystem system := by
        rw [keep]
        rcases session.exec world.workspace with ⟨_ | value, workspace⟩
        · exact ⟨blocks, systems⟩
        · dsimp only
          rw [(stores _ _).1, (stores _ _).2]
          exact ⟨blocks, systems⟩
      cases step with
      | run => exact ⟨blocks, systems⟩
      | register | labels | options => exact kept fun _ _ => ⟨rfl, rfl⟩
      | @block session makes =>
          rw [keep]
          rcases ran : session.exec world.workspace with ⟨_ | made, workspace⟩
          · exact ⟨blocks, systems⟩
          · exact ⟨List.forall_mem_cons.mpr ⟨block reached blocks systems makes ran, blocks⟩,
              systems⟩
      | @system session makes =>
          rw [keep]
          rcases ran : session.exec world.workspace with ⟨_ | made, workspace⟩
          · exact ⟨blocks, systems⟩
          · exact ⟨blocks, List.forall_mem_cons.mpr ⟨system reached blocks systems makes ran,
              systems⟩⟩
      | @addGradient owner added present added_present parameter =>
          obtain ⟨left, same, unchanged | made⟩ := addGradient_eq world owner parameter added
          all_goals
            rw [same]
            refine ⟨List.forall_mem_cons.mpr ⟨?_, blocks⟩, systems⟩
          · exact unchanged ▸ blocks owner present
          · exact gradient (blocks owner present) (blocks added added_present) made
      | @setLengthUnit options present unit =>
          obtain ⟨left, same, _⟩ := setLengthUnit_eq world options unit
          exact same ▸ ⟨blocks, systems⟩
      | @call owner present change offers =>
          obtain ⟨left, workspace, same, _, unchanged | made⟩ := call_eq world owner change
          all_goals
            rw [same]
            refine ⟨blocks, List.forall_mem_cons.mpr ⟨?_, systems⟩⟩
          · exact unchanged ▸ systems owner present
          · exact call reached blocks (systems owner present) offers made

end World

end Atomistic
