import Atomistic.Proofs.System.Spared
import Atomistic.Proofs.System.Transfer
import Atomistic.Proofs.World.Lists

/-!
# Casting and moving whole systems

On which condition a system at hand is cast and moved, what the result is, and that nothing
changes for the tensors that there were (`Atomistic.World.Reachable.transfer_converts`).
Everything attached to the result passes again the checks that it passed when it was attached.
For gradients in custom data this holds because in all blocks at hand, at every depth, every
gradient could be added where it is (`Atomistic.World.Reachable.fitted`).
-/

namespace Atomistic

open Session Workspace

namespace Block

variable {workspace : Workspace}

/-- A fitted block that is cast and moved is fitted. -/
theorem Fitted.transfer {tape : Tape} {block made : Block} (fitted : block.Fitted)
    (sound : block.Sound tape) (holds : tape.Holds Dense.Valid) (clean : workspace.Clean)
    {dtype : Option DType} {device : Option Device} {after : Workspace}
    (ran : (block.transfer dtype device).exec workspace = (.ok made, after)) : made.Fitted := by
  have decided := transfer_recasts (sound.home holds) clean dtype device
  have reaches := decided.success_iff.mp ⟨made, after, ran⟩
  exact (fitted.recast (sound.home holds) dtype reaches).of_bare (decided.of_success ran).2

end Block

namespace System

/-- The gradients in attached custom data still fit when it was cast and moved. -/
theorem Attached.fitted {κ : Type} {tape : Tape} {system : System} {dtype : Option DType}
    {device : Option Device} {entry new : κ × Block} (attached : Attached tape system entry.2)
    (holds : tape.Holds Dense.Valid)
    (reaches : system.device.Reaches (device.getD system.device)) (fitted : entry.2.Fitted)
    (moved : Moved dtype device entry new) : new.2.Fitted := by
  have home := attached.device ▸ attached.sound.home holds
  exact (fitted.recast home dtype reaches).of_bare moved.bare

/-- Whatever a document says, its system has no custom data. -/
theorem systemOfJson_plain (value : Json) {workspace : Workspace} :
    (Document.systemOfJson value).Within Anywhere workspace fun made _ => made.data = [] := by
  apply systemOfJson_forall
  · intro types positions cell pbc made before after ran
    exact ((create_bare types positions cell pbc).of_success ran).2.2.1
  · intro system made options list before after none ran
    obtain ⟨_, _, rfl⟩ := ((addNeighborList_inserts options list).of_success ran).2
    exact none

end System

namespace World

variable {world : World}

/-- The gradients in a new block fit if those in all blocks and in all custom data do. -/
theorem MakesBlock.fitted (sound : world.Sound) (blocks : ∀ block ∈ world.blocks, block.Fitted)
    (systems : ∀ system ∈ world.systems, ∀ entry ∈ system.data, entry.2.Fitted)
    {session : Session Error Block} (makes : world.MakesBlock session) {made : Block}
    {after : Workspace} (ran : session.exec world.workspace = (.ok made, after)) :
    made.Fitted := by
  have result {outcome : Except Error Block}
      (ran : (Session.ofExcept outcome).exec world.workspace = (.ok made, after)) :
      outcome = .ok made := congrArg Prod.fst ran
  cases makes with
  | create known present =>
      have made_eq := (Block.create_sound known (fun labels member =>
        sound.labels labels (present labels member)) (result ran)).2
      exact .plain (made_eq ▸ rfl)
  | @transfer block present dtype device =>
      have inner : (block.transfer dtype device).exec world.workspace = (.ok made, after) := by
        rw [exec_adapt] at ran
        rcases moved : (block.transfer dtype device).exec world.workspace with ⟨_ | _, _⟩
        all_goals rw [moved] at ran
        · cases ran
        · cases ran
          rfl
      exact (blocks _ present).transfer (sound.blocks _ present) sound.holds
        (clean_of_sound sound.tape) inner
  | @gradient block gradient present parameter found =>
      obtain ⟨entry, member, same⟩ := Registry.mem_of_find? found
      cases ran
      obtain ⟨_, _, inner⟩ := blocks _ present
      exact same ▸ inner entry member
  | assemble samples_known distances_known =>
      have plain := (NeighborList.assemble_within samples_known distances_known).of_success ran
      exact .plain plain.2.2.2.1
  | @neighborList system present options =>
      have found := result ran
      rw [System.neighborList] at found
      split at found
      next list stored =>
        cases found
        obtain ⟨entry, member, same⟩ := Registry.mem_of_find? stored
        exact same ▸ .plain ((sound.systems _ present).lists entry member).2.plain
      next => cases found
  | @data system present name =>
      obtain ⟨_, _, found⟩ := ok_of_bind (result ran)
      split at found
      next block stored =>
        cases found
        obtain ⟨entry, member, same⟩ := Registry.mem_of_find? stored
        exact same ▸ systems _ present entry member
      next => cases found

/-- The gradients in the custom data of a new system fit if those in all custom data do. -/
theorem MakesSystem.fitted (sound : world.Sound)
    (systems : ∀ system ∈ world.systems, ∀ entry ∈ system.data, entry.2.Fitted)
    {session : Session Error System} (makes : world.MakesSystem session) {made : System}
    {after : Workspace} (ran : session.exec world.workspace = (.ok made, after)) :
    ∀ entry ∈ made.data, entry.2.Fitted := by
  have none (plain : made.data = []) : ∀ entry ∈ made.data, entry.2.Fitted := by
    rw [plain]
    exact List.forall_mem_nil _
  cases makes with
  | create known => exact none ((System.create_bare _ _ _ _).of_success ran).2.2.1
  | @transfer system present dtype device =>
      have clean := clean_of_sound sound.tape
      have system_sound := sound.systems _ present
      have decided := System.transfer_decides system_sound sound.holds clean dtype device
      have convertible := decided.success_iff.mp ⟨_, _, ran⟩
      intro new member
      obtain ⟨entry, old, moved⟩ := exists_of_forall₂ (decided.of_success ran).2.data new member
      exact (system_sound.data entry old).fitted sound.holds convertible.reaches
        (systems _ present entry old) moved
  | ofJson text =>
      have read : (System.ofJson text).Within Anywhere world.workspace fun made _ =>
          made.data = [] :=
        (Within.ran _ _).bind fun value _ _ _ => System.systemOfJson_plain value
      exact none (read.of_success ran).2

/-- The gradients in the custom data of a system that was changed fit if those in it and in all
blocks did. -/
theorem Offers.fitted (blocks : ∀ block ∈ world.blocks, block.Fitted) {system : System}
    (fitted : ∀ entry ∈ system.data, entry.2.Fitted) {change : System.Change}
    (offers : world.Offers change) {made : System} {after : Workspace}
    (ran : (change.made system).exec world.workspace = (.ok made, after)) :
    ∀ entry ∈ made.data, entry.2.Fitted := by
  cases change with
  | set field tensor =>
      obtain ⟨new, rfl⟩ := ((System.set_put field tensor).of_success ran).2
      rw [show (system.put field new).data = system.data by cases field <;> rfl]
      exact fitted
  | addNeighborList options list =>
      obtain ⟨_, _, rfl⟩ := ((System.addNeighborList_inserts options list).of_success ran).2
      exact fitted
  | addData name block overwrite =>
      have added : system.addData name block overwrite = .ok made := congrArg Prod.fst ran
      rw [System.addData_inserts added]
      have all := @Registry.forall_insert String Block _ (fun _ => True) Block.Fitted name block
        system.data trivial (blocks _ offers) fun entry member => ⟨trivial, fitted entry member⟩
      exact fun entry member => (all entry member).2

/-- **All gradients fit where they are**: in every block at hand and in all custom data, at
every depth. -/
theorem Reachable.fitted (reachable : world.Reachable) :
    (∀ block ∈ world.blocks, block.Fitted) ∧
      ∀ system ∈ world.systems, ∀ entry ∈ system.data, entry.2.Fitted :=
  reachable.forall_made
    (fun reached blocks systems makes => makes.fitted reached.sound blocks systems)
    (fun fitted gradient_fitted => fitted.addGradient gradient_fitted)
    (fun reached _ systems makes => makes.fitted reached.sound systems)
    fun _ blocks fitted offers => offers.fitted blocks fitted

end World

namespace System

/-- A block attached to a system, and what it is in the system that was cast and moved: it has
the same key, it is the block cast and moved, and its names and data, at every depth, are those
of the block cast and moved by itself. -/
structure Carried {κ : Type} (workspace : Workspace) (dtype : Option DType) (device : Option Device)
    (entry new : κ × Block) : Prop where
  key : new.1 = entry.1
  ran : ∃ before after, (entry.2.transfer dtype device).exec before = (.ok new.2, after)
  alone : ∃ moved last, (entry.2.transfer dtype device).exec workspace = (.ok moved, last) ∧
    new.2.bare = moved.bare

/-- A neighbor list that could be added again, if it were not there. -/
def ListedAgain (system : System) (entry : NeighborListOptions × Block) : Prop :=
  ∀ workspace, ∃ again after,
    ({ system with neighborLists := [] }.addNeighborList entry.1 entry.2).exec workspace =
      (.ok again, after)

/-- Custom data that could be added again, if it were not there, and so could the gradients in
it, at every depth. -/
def StoredAgain (system : System) (entry : String × Block) : Prop :=
  (∃ again, { system with data := [] }.addData entry.1 entry.2 false = .ok again) ∧ entry.2.Fitted

/-- What a system becomes when it is cast and moved. -/
structure Converted (system : System) (workspace : Workspace) (dtype : Option DType)
    (device : Option Device) (made : System) : Prop where
  size : made.size = system.size
  fixed : ∀ field ∈ [Field.types, .pbc], (made.get field).shape = (system.get field).shape ∧
    (made.get field).dtype = (system.get field).dtype ∧
    (made.get field).data.values =
      if (device.getD system.device).isMeta then .absent else (system.get field).data.values
  fields : ∀ field, ∃ moved last,
    ((system.get field).transfer (field.cast dtype) device).exec workspace = (.ok moved, last) ∧
      (made.get field).bitEqual moved
  known : made.knownNeighborLists = system.knownNeighborLists
  names : made.knownData = system.knownData
  lists : List.Forall₂ (Carried workspace dtype device) system.neighborLists made.neighborLists
  data : List.Forall₂ (Carried workspace dtype device) system.data made.data
  listed : ∀ entry ∈ made.neighborLists, made.ListedAgain entry
  stored : ∀ entry ∈ made.data, made.StoredAgain entry

variable {workspace : Workspace} {system : System} {dtype : Option DType} {device : Option Device}
  {tape : Tape}

/-- A list of a sound system could be added again. -/
theorem Sound.listedAgain (sound : system.Sound tape)
    {entry : NeighborListOptions × Block} (member : entry ∈ system.neighborLists) :
    system.ListedAgain entry := by
  intro workspace
  have listed := (sound.lists entry member).2
  have accepts : { system with neighborLists := [] }.Accepts entry.2 :=
    ⟨listed.layout, listed.plain, listed.device, listed.dtype⟩
  obtain ⟨again, last, ran, _⟩ := (@addNeighborList_appends workspace
    { system with neighborLists := [] } entry.1 entry.2 accepts (List.forall_mem_nil _)).succeeds
  exact ⟨again, last, ran⟩

/-- Custom data of a sound system could be added again. -/
theorem Sound.storedAgain (sound : system.Sound tape) {entry : String × Block}
    (member : entry ∈ system.data) (fitted : entry.2.Fitted) : system.StoredAgain entry := by
  obtain ⟨valid, free⟩ := sound.named entry member
  have attached := sound.data entry member
  exact ⟨⟨_, @addData_appends { system with data := [] } _ _ valid free attached.device
    attached.dtype (List.forall_mem_nil _)⟩, fitted⟩

section Conversion

variable (sound : system.Sound tape) (holds : tape.Holds Dense.Valid) (clean : workspace.Clean)
  (reaches : system.device.Reaches (device.getD system.device))

include holds clean reaches in
/-- What was cast and moved with a system is what is cast and moved by itself. -/
theorem Attached.carried {κ : Type} {entry new : κ × Block}
    (attached : Attached tape system entry.2) (moved : Moved dtype device entry new) :
    Carried workspace dtype device entry new := by
  have home := attached.device ▸ attached.sound.home holds
  obtain ⟨alone, last, ran, bare⟩ := ((Block.transfer_recasts home clean dtype device).congr
    (iff_of_true trivial reaches)).succeeds
  exact ⟨moved.key, moved.ran, alone, last, ran, moved.bare.trans bare.symm⟩

include sound holds reaches in
/-- The values of a tensor that keeps its type are the same elsewhere, or absent on the meta
device. -/
theorem recast_values (field : Field) :
    ((system.get field).data.recast none device).values =
      if (device.getD system.device).isMeta then .absent else (system.get field).data.values := by
  have home : (system.get field).data.device = system.device := sound.together field
  rw [@Dense.Valid.recast_values _ (holds.knows (sound.known field)) device (home ▸ reaches), home]

include sound holds clean reaches

/-- A tensor of a system can be cast and moved by itself. -/
theorem field_transfers (field : Field) : ∃ moved last,
    ((system.get field).transfer (field.cast dtype) device).exec workspace = (.ok moved, last) ∧
      moved.data = (system.get field).data.recast (field.cast dtype) device := by
  have home : (system.get field).device = system.device := sound.together field
  exact ((Tensor.transfer_recasts clean (holds.knows (sound.known field)) (field.cast dtype)
    device).congr (iff_of_true trivial (home ▸ reaches))).succeeds

/-- Away from the meta device, the cell and the periodicity agree after a cast and move exactly
if the cell, cast by itself, is zero along every direction that is not periodic. -/
theorem cellAgrees_recast_iff (placed : device.getD system.device ≠ .metadata) :
    CellAgrees (system.cell.data.recast dtype device) (system.pbc.data.recast none device) ↔
      ∃ cell last periodic vectors,
        (system.cell.transfer dtype device).exec workspace = (.ok cell, last) ∧
        cell.data.toFloats = .ok vectors ∧ system.pbc.data.toBooleans = .ok periodic ∧
        ∀ direction, periodic[direction]? = some false → ZeroRow vectors direction := by
  have present (field : Field) :
      ((system.get field).data.recast (field.cast dtype) device).device ≠ .metadata := by
    rw [(recast_kinds sound holds reaches field).2.2]
    exact placed
  obtain ⟨cell, last, ran, held⟩ :=
    @field_transfers workspace system dtype device tape sound holds clean reaches .cell
  obtain ⟨vectors, cell_read, _⟩ :=
    (recast_valid sound holds reaches .cell).toFloats_ok (present .cell)
  obtain ⟨periodic, pbc_read, _⟩ :=
    (recast_valid sound holds reaches .pbc).toBooleans_ok (present .pbc)
  have same_flags : (system.pbc.data.recast none device).toBooleans =
      system.pbc.data.toBooleans := by
    have values : (system.pbc.data.recast none device).values = system.pbc.data.values :=
      (recast_values sound holds reaches .pbc).trans
        (if_neg (by simpa [Device.isMeta] using placed))
    rw [Dense.toBooleans, values, Dense.toBooleans]
  constructor
  · intro agrees
    exact ⟨cell, last, periodic, vectors, ran, by rw [held]; exact cell_read,
      same_flags ▸ pbc_read, agrees periodic vectors pbc_read cell_read⟩
  · rintro ⟨other, after, flags, entries, other_ran, entries_read, flags_read, zero⟩
    have one : other = cell := by
      have same := other_ran.symm.trans ran
      exact Except.ok.inj (congrArg Prod.fst same)
    rw [one, held] at entries_read
    intro periodic vectors pbc_read cell_read
    cases (same_flags ▸ pbc_read).symm.trans flags_read
    cases cell_read.symm.trans entries_read
    exact zero

end Conversion

/-- On which condition a system is convertible, in terms of the numbers in its cell. -/
theorem convertible_iff (sound : system.Sound tape) (holds : tape.Holds Dense.Valid)
    (clean : workspace.Clean) :
    system.Convertible dtype device ↔ (dtype.getD system.dtype).isFloating ∧
      (system.device = .metadata → device.getD system.device = .metadata) ∧
      (device.getD system.device = .metadata ∨ ∃ cell last periodic vectors,
        (system.cell.transfer dtype device).exec workspace = (.ok cell, last) ∧
        cell.data.toFloats = .ok vectors ∧ system.pbc.data.toBooleans = .ok periodic ∧
        ∀ direction, periodic[direction]? = some false → ZeroRow vectors direction) := by
  have parts : system.Convertible dtype device ↔ (dtype.getD system.dtype).isFloating ∧
      system.device.Reaches (device.getD system.device) ∧
      CellAgrees (system.cell.data.recast dtype device) (system.pbc.data.recast none device) :=
    ⟨fun convertible => ⟨convertible.floating, convertible.reaches, convertible.agrees⟩,
      fun all => ⟨all.1, all.2.1, all.2.2⟩⟩
  rw [parts]
  refine and_congr_right fun _ => and_congr_right fun reaches => ?_
  by_cases gone : device.getD system.device = .metadata
  · have placed := (@recast_kinds system dtype device tape sound holds reaches .pbc).2.2
    exact iff_of_true (cellAgrees_of_meta
      (@recast_valid system dtype device tape sound holds reaches .pbc) (placed.trans gone))
      (.inl gone)
  · rw [cellAgrees_recast_iff sound holds clean reaches gone, or_iff_right gone]

/-- Everything that is in a system that was cast and moved. -/
theorem Recast.converted {after : Workspace} {made : System}
    (recast : system.Recast dtype device made) (sound : system.Sound tape)
    (holds : tape.Holds Dense.Valid) (clean : workspace.Clean)
    (reaches : system.device.Reaches (device.getD system.device))
    (made_sound : made.Sound after.tape) (fitted : ∀ entry ∈ system.data, entry.2.Fitted) :
    system.Converted workspace dtype device made := by
  have kinds (field : Field) := @recast_kinds system dtype device tape sound holds reaches field
  have shape (field : Field) : (made.get field).shape = (system.get field).shape :=
    (congrArg Dense.shape (recast.fields field)).trans (kinds field).1
  have same_keys {κ : Type} {entries news : List (κ × Block)}
      (all : List.Forall₂ (Moved dtype device) entries news) :
      news.map Prod.fst = entries.map Prod.fst :=
    map_eq_of_forall₂ all fun _ _ moved => moved.key
  refine
    { size := congrArg (fun shape : Shape => shape.getD 0 0) (shape .types)
      fixed := fun field fixed => ⟨shape field, ?_⟩
      fields := fun field => ?_
      known := same_keys recast.lists
      names := same_keys recast.data
      lists := ?_
      data := ?_
      listed := fun entry member => made_sound.listedAgain member
      stored := fun entry member => made_sound.storedAgain member ?_ }
  · have uncast : field.cast dtype = none := by
      simp only [List.mem_cons, List.not_mem_nil, or_false] at fixed
      rcases fixed with rfl | rfl
      · rfl
      · rfl
    have held := recast.fields field
    have same := (kinds field).2.1
    rw [uncast] at held same
    exact ⟨(congrArg Dense.dtype held).trans same,
      (congrArg Dense.values held).trans (recast_values sound holds reaches field)⟩
  · obtain ⟨moved, last, ran, held⟩ :=
      @field_transfers workspace system dtype device tape sound holds clean reaches field
    refine ⟨moved, last, ran, ?_⟩
    rw [Tensor.bitEqual, recast.fields field, held, Dense.bitEqual]
    exact beq_self_eq_true _
  · have attached := fun entry member => (sound.lists entry member).2.toAttached
    exact ((List.forall₂_and_left _ _).mpr ⟨attached, recast.lists⟩).imp fun _ _ both =>
      both.1.carried holds clean reaches both.2
  · exact ((List.forall₂_and_left _ _).mpr ⟨sound.data, recast.data⟩).imp fun _ _ both =>
      both.1.carried holds clean reaches both.2
  · obtain ⟨older, old, moved⟩ := exists_of_forall₂ recast.data entry member
    exact (sound.data older old).fitted holds reaches (fitted older old) moved

end System

namespace World

/-- **Systems are cast and moved exactly if** the element type is a floating point type, the
system is not on the meta device unless it stays there, and, unless it is moved there, the cell
when it is cast is zero along every direction that is not periodic.  Then everything in the
system is cast and moved, and passes its checks again.  In any case nothing changes for the
tensors that there were. -/
theorem Reachable.transfer_converts {world : World} (reachable : world.Reachable) {system : System}
    (present : system ∈ world.systems) (dtype : Option DType) (device : Option Device) :
    ((∃ made after, (system.transfer dtype device).exec world.workspace = (.ok made, after)) ↔
      (dtype.getD system.dtype).isFloating ∧
      (system.device = .metadata → device.getD system.device = .metadata) ∧
      (device.getD system.device = .metadata ∨ ∃ cell last periodic vectors,
        (system.cell.transfer dtype device).exec world.workspace = (.ok cell, last) ∧
        cell.data.toFloats = .ok vectors ∧ system.pbc.data.toBooleans = .ok periodic ∧
        ∀ direction, periodic[direction]? = some false → System.ZeroRow vectors direction)) ∧
    (∀ made after, (system.transfer dtype device).exec world.workspace = (.ok made, after) →
      system.Converted world.workspace dtype device made) ∧
    ∀ result after, (system.transfer dtype device).exec world.workspace = (result, after) →
      (∀ tensor, world.workspace.tape.Knows tensor → after.tape.Knows tensor ∧
        after.tape.state tensor.number = world.workspace.tape.state tensor.number) ∧
      ∀ (number : Nat) (node : Node), world.workspace.tape.nodes[number]? = some node →
        after.tape.nodes[number]? = some node := by
  have sound := reachable.sound
  have clean := clean_of_sound sound.tape
  have system_sound := sound.systems system present
  have decided := System.transfer_decides system_sound sound.holds clean dtype device
  refine ⟨?_, fun made after ran => ?_, fun result after ran => ?_⟩
  · rw [decided.success_iff]
    exact System.convertible_iff system_sound sound.holds clean
  · have convertible := decided.success_iff.mp ⟨made, after, ran⟩
    have made_sound := ((System.transfer_within Dense.kind_valid system_sound dtype
      device).of_success ran).2.toSound
    exact (decided.of_success ran).2.converted system_sound sound.holds clean convertible.reaches
      made_sound (reachable.fitted.2 system present)
  · have spares := (@System.transfer_spares world.workspace system dtype device).moved
    have extended := (System.transfer_within Dense.kind_valid system_sound dtype device).moved
    rw [ran] at spares extended
    exact ⟨fun tensor known => ⟨extended.knows known, spares.states tensor.number known.lt⟩,
      spares.nodes⟩

namespace Alone

/-- The atoms and their list can be cast to `float32`. -/
theorem transfer_converts_listed : attached.Reachable ∧ listed ∈ attached.systems ∧
    ∃ made after,
      (listed.transfer (some .float32) none).exec attached.workspace = (.ok made, after) ∧
      listed.Converted attached.workspace (some .float32) none made ∧
      after.tape.state 1 = attached.workspace.tape.state 1 := by
  have present : listed ∈ attached.systems := by
    rw [show attached.systems = [listed, system] from rfl]
    exact List.mem_cons_self
  obtain ⟨succeeds, converts, spares⟩ :=
    attached_reachable.transfer_converts present (some .float32) none
  have zero := (System.rows_agree [false, false, false]
    (rfl : (List.replicate 9 (DType.float32.round .zero)).length = 9)).mp (by decide)
  obtain ⟨made, after, ran⟩ :=
    succeeds.mpr ⟨rfl, by decide, .inr ⟨_, _, _, _, rfl, rfl, rfl, zero⟩⟩
  exact ⟨attached_reachable, present, made, after, ran, converts made after ran,
    ((spares _ after ran).1 (tensor 1) rfl).2⟩

/-- On the meta device there are no types and no periodicity left. -/
theorem transfer_meta_absent : attached.Reachable ∧ listed ∈ attached.systems ∧
    ∃ made after,
      (listed.transfer none (some .metadata)).exec attached.workspace = (.ok made, after) ∧
      listed.types.data.values = .integers [1, 8] ∧ made.types.data.values = .absent ∧
      listed.pbc.data.values = .integers [0, 0, 0] ∧ made.pbc.data.values = .absent := by
  have present : listed ∈ attached.systems := by
    rw [show attached.systems = [listed, system] from rfl]
    exact List.mem_cons_self
  have sound := attached_reachable.sound
  have decided := System.transfer_decides (sound.systems listed present) sound.holds
    (clean_of_sound sound.tape) none (some .metadata)
  have convertible : listed.Convertible none (some .metadata) :=
    ⟨rfl, fun _ => rfl, fun _ _ read => nomatch read⟩
  obtain ⟨made, after, ran⟩ := decided.success_iff.mpr convertible
  have recast := (decided.of_success ran).2
  exact ⟨attached_reachable, present, made, after, ran, rfl,
    congrArg Dense.values (recast.fields .types), rfl, congrArg Dense.values (recast.fields .pbc)⟩

end Alone

end World

end Atomistic
