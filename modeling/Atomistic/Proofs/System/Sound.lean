import Atomistic.Proofs.Block.Sound
import Atomistic.Proofs.NeighborList.Options
import Atomistic.Proofs.System.Cell
import Atomistic.Proofs.System.Changes

/-!
# Sound systems

What holds of every system that can be made (`Atomistic.System.Sound`), and that the
operations on systems make sound ones from sound parts.
-/

namespace Atomistic

open Run

namespace System

/-- A block that is attached to a system. -/
structure Attached (tape : Tape) (system : System) (block : Block) : Prop where
  sound : block.Sound tape
  device : block.values.device = system.device
  dtype : block.values.dtype = system.dtype

/-- A neighbor list that is attached to a system. -/
structure Listed (tape : Tape) (system : System) (list : Block) : Prop
    extends Attached tape system list where
  layout : NeighborList.checkLayout list = .ok ()
  plain : list.gradients = []

/-- What holds of a system. -/
structure Sound (tape : Tape) (system : System) : Prop where
  known : ∀ field, tape.Knows (system.get field)
  together : ∀ field, (system.get field).device = system.device
  types : system.types.shape = [system.size] ∧ system.types.dtype = .int32
  positions : system.positions.shape = [system.size, 3] ∧ system.positions.dtype.isFloating
  cell : system.cell.shape = [3, 3] ∧ system.cell.dtype = system.dtype
  pbc : system.pbc.shape = [3] ∧ system.pbc.dtype = .bool
  sorted : Registry.Sorted system.neighborLists
  lists : ∀ entry ∈ system.neighborLists, entry.1.Sound ∧ Listed tape system entry.2
  named : ∀ entry ∈ system.data, validDataName entry.1 ∧ checkReserved entry.1 = .ok ()
  ordered : Registry.Sorted system.data
  data : ∀ entry ∈ system.data, Attached tape system entry.2

/-- What a construction gives: a sound system whose cell passes the check against its
periodicity. -/
structure Constructed (tape : Tape) (system : System) : Prop extends Sound tape system where
  agrees : checkCell system.cell.data system.pbc.data = .ok ()

variable {allowed : Dense → Prop} {before after workspace : Workspace}

private theorem Attached.mono {system : System} {block : Block}
    (attached : Attached before.tape system block)
    (extended : Extends allowed before after) : Attached after.tape system block :=
  ⟨attached.sound.mono extended, attached.device, attached.dtype⟩

private theorem Listed.mono {system : System} {list : Block}
    (listed : Listed before.tape system list)
    (extended : Extends allowed before after) : Listed after.tape system list :=
  ⟨listed.toAttached.mono extended, listed.layout, listed.plain⟩

/-- A sound system stays sound on a longer tape. -/
theorem Sound.mono {system : System} (sound : system.Sound before.tape)
    (extended : Extends allowed before after) : system.Sound after.tape :=
  { sound with
    known := fun field => extended.knows (sound.known field)
    lists := fun entry member =>
      ⟨(sound.lists entry member).1, (sound.lists entry member).2.mono extended⟩
    data := fun entry member => (sound.data entry member).mono extended }

/-- The tensors of a system that is not on the meta device have data. -/
theorem Sound.placed {tape : Tape} {system : System} (sound : system.Sound tape)
    (present : system.device ≠ .metadata) (field : Field) :
    (system.get field).data.device ≠ .metadata := by
  rw [show (system.get field).data.device = system.device from sound.together field]
  exact present

/-- The periodicity and the cell of a sound system with data. -/
theorem Sound.readings {tape : Tape} {system : System} (sound : system.Sound tape)
    (holds : tape.Holds Dense.Valid) (present : system.device ≠ .metadata) :
    ∃ periodic vectors, system.pbc.data.toBooleans = .ok periodic ∧ periodic.length = 3 ∧
      system.cell.data.toFloats = .ok vectors ∧ vectors.length = 9 := by
  have valid (field : Field) : (system.get field).data.Valid := holds.knows (sound.known field)
  obtain ⟨periodic, pbc_read, three⟩ := (valid .pbc).toBooleans_ok (sound.placed present .pbc)
  obtain ⟨vectors, cell_read, nine⟩ := (valid .cell).toFloats_ok (sound.placed present .cell)
  rw [show (system.get .pbc).data.shape = [3] from sound.pbc.1] at three
  rw [show (system.get .cell).data.shape = [3, 3] from sound.cell.1] at nine
  exact ⟨periodic, vectors, pbc_read, (Option.some.inj three).symm, cell_read,
    (Option.some.inj nine).symm⟩

/-- The cell of a sound system with values passes its check exactly if it agrees with the periodic
directions. -/
theorem Sound.checkCell_iff {tape : Tape} {system : System} (sound : system.Sound tape)
    (holds : tape.Holds Dense.Valid) (present : system.device ≠ .metadata) :
    checkCell system.cell.data system.pbc.data = .ok () ↔
      CellAgrees system.cell.data system.pbc.data := by
  obtain ⟨periodic, vectors, pbc_read, three, cell_read, nine⟩ := sound.readings holds present
  exact System.checkCell_iff (sound.placed present .pbc) pbc_read cell_read (by omega)

/-- A table that passes its check has three columns and a row for each entry. -/
theorem checkTable_ok {stage : Stage} {field : Field} {table : Tensor} {rows : Nat}
    (checked : checkTable stage field table rows = .ok ()) : table.shape = [rows, 3] := by
  rw [checkTable] at checked
  obtain ⟨dim, rest⟩ := ok_of_check checked
  have sizes : ¬ (table.size 0 ≠ rows ∨ table.size 1 ≠ 3) := by
    by_contra wrong
    rw [if_pos wrong] at rest
    cases rest
  rw [not_or, not_not, not_not] at sizes
  have two : table.shape.length = 2 := not_not.mp dim
  obtain ⟨first, second, shape⟩ := List.length_eq_two.mp two
  obtain ⟨height, width⟩ := sizes
  change table.shape.getD 0 0 = rows at height
  change table.shape.getD 1 0 = 3 at width
  rw [shape] at height width ⊢
  exact congrArg₂ (fun first second => [first, second]) height width

/-- A tensor of one dimension has one size. -/
theorem shape_of_dim_one {tensor : Tensor} (dim : tensor.dim = 1) :
    tensor.shape = [tensor.size 0] := by
  have one : tensor.shape.length = 1 := dim
  obtain ⟨extent, shape⟩ := List.length_eq_one_iff.mp one
  change tensor.shape = [tensor.shape.getD 0 0]
  rw [shape]
  rfl

/-- A system that was created is sound, its cell agrees with its periodicity, and it has
nothing attached. -/
theorem create_within (kind : Dense.Kind allowed) {types positions cell pbc : Tensor}
    (known : ∀ tensor ∈ [types, positions, cell, pbc], workspace.tape.Knows tensor) :
    (create types positions cell pbc).Within (Extends allowed) workspace fun made after =>
      made.Constructed after.tape ∧ made.neighborLists = [] ∧ made.data = [] ∧
        made.device = types.device ∧ made.positions = positions ∧ made.cell = cell := by
  rw [create]
  refine .check (Extends.refl _) fun devices => ?_
  refine .check (Extends.refl _) fun dim => ?_
  refine .check (Extends.refl _) fun _ => ?_
  have types_known := known types (by simp)
  apply (Run.transfer_within kind types_known (some .int32) none).adapt.bind
  rintro new middle extended ⟨new_known, kinds⟩
  apply (ofExcept_within _).bind
  rintro _ one _ ⟨positions_checked, rfl⟩
  refine .check (Extends.refl _) fun floating => ?_
  apply (ofExcept_within _).bind
  rintro _ two _ ⟨cell_checked, rfl⟩
  refine .check (Extends.refl _) fun cell_dtype => ?_
  refine .check (Extends.refl _) fun pbc_dim => ?_
  refine .check (Extends.refl _) fun pbc_size => ?_
  refine .check (Extends.refl _) fun pbc_dtype => ?_
  apply (ofExcept_within _).bind
  rintro _ three _ ⟨agrees, rfl⟩
  refine .of_exec rfl (.refl _) fun made result => ?_
  cases result
  rw [not_or, not_or, not_not, not_not, not_not] at devices
  have shape : new.shape = types.shape := congrArg Prod.fst kinds
  have dtype : new.dtype = .int32 := congrArg (fun kind => kind.2.1) kinds
  have device : new.device = types.device := congrArg (fun kind => kind.2.2) kinds
  have still : ∀ tensor ∈ [positions, cell, pbc], three.tape.Knows tensor := fun tensor member =>
    extended.knows (known tensor (List.mem_cons_of_mem _ member))
  have pbc_shape : pbc.shape = [3] := by
    rw [shape_of_dim_one (not_not.mp pbc_dim), not_not.mp pbc_size]
  refine ⟨⟨⟨fun field => ?_, fun field => ?_, ⟨?_, dtype⟩, ⟨?_, ?_⟩,
    ⟨checkTable_ok cell_checked, ?_⟩, ⟨pbc_shape, not_not.mp pbc_dtype⟩, .nil,
    List.forall_mem_nil _, List.forall_mem_nil _, .nil, List.forall_mem_nil _⟩, agrees⟩,
    rfl, rfl, device, rfl, rfl⟩
  · cases field with
    | types => exact new_known
    | positions => exact still positions (by simp)
    | cell => exact still cell (by simp)
    | pbc => exact still pbc (by simp)
  · cases field with
    | types => rfl
    | positions => exact devices.1.trans device.symm
    | cell => exact devices.2.1.trans device.symm
    | pbc => exact devices.2.2.trans device.symm
  · refine shape_of_dim_one ?_
    rw [← not_not.mp dim]
    exact congrArg List.length shape
  · exact checkTable_ok positions_checked
  · simpa using floating
  · exact not_not.mp cell_dtype

private theorem Attached.of_same {tape : Tape} {system other : System} {block : Block}
    (attached : Attached tape system block) (device : other.device = system.device)
    (dtype : other.dtype = system.dtype) : Attached tape other block :=
  ⟨attached.sound, attached.device.trans device.symm, attached.dtype.trans dtype.symm⟩

private theorem Listed.of_same {tape : Tape} {system other : System} {list : Block}
    (listed : Listed tape system list) (device : other.device = system.device)
    (dtype : other.dtype = system.dtype) : Listed tape other list :=
  ⟨listed.toAttached.of_same device dtype, listed.layout, listed.plain⟩

/-- A sound system stays sound when its tensors are replaced by others that fit. -/
theorem Sound.replace {tape : Tape} {system other : System} (sound : system.Sound tape)
    (known : ∀ field, tape.Knows (other.get field))
    (together : ∀ field, (other.get field).device = system.device)
    (types : other.types.shape = [system.size] ∧ other.types.dtype = .int32)
    (positions : other.positions.shape = [system.size, 3] ∧ other.positions.dtype = system.dtype)
    (cell : other.cell.shape = [3, 3] ∧ other.cell.dtype = system.dtype)
    (pbc : other.pbc.shape = [3] ∧ other.pbc.dtype = .bool)
    (lists : other.neighborLists = system.neighborLists) (data : other.data = system.data) :
    other.Sound tape ∧ other.size = system.size ∧ other.device = system.device ∧
      other.dtype = system.dtype := by
  have device : other.device = system.device := together .types
  have dtype : other.dtype = system.dtype := positions.2
  have size : other.size = system.size := by
    change (other.types.shape).getD 0 0 = _
    rw [types.1]
    rfl
  refine ⟨⟨known, fun field => (together field).trans device.symm, ?_, ?_, ?_, pbc, ?_,
    fun entry member => ?_, ?_, ?_, fun entry member => ?_⟩, size, device, dtype⟩
  · rw [size]
    exact types
  · rw [size, positions.2]
    exact ⟨positions.1, sound.positions.2⟩
  · rw [dtype]
    exact cell
  · rw [lists]
    exact sound.sorted
  · rw [lists] at member
    exact ⟨(sound.lists entry member).1, (sound.lists entry member).2.of_same device dtype⟩
  · rw [data]
    exact sound.named
  · rw [data]
    exact sound.ordered
  · rw [data] at member
    exact (sound.data entry member).of_same device dtype

/-- What has passed the check is on the device of the system. -/
theorem checkDevice_ok {system : System} {field : Field} {tensor : Tensor}
    (checked : system.checkDevice field tensor = .ok ()) : tensor.device = system.device := by
  rw [checkDevice] at checked
  by_contra other
  rw [if_pos other] at checked
  cases checked

/-- What has passed the check has the element type of the system. -/
theorem checkDType_ok {system : System} {field : Field} {tensor : Tensor}
    (checked : system.checkDType field tensor = .ok ()) : tensor.dtype = system.dtype := by
  rw [checkDType] at checked
  by_contra other
  rw [if_pos other] at checked
  cases checked

/-- What a setter gives: a sound system with as many atoms, of the same type and on the
same device. -/
structure Changed (system made : System) (after : Workspace) : Prop where
  sound : made.Sound after.tape
  size : made.size = system.size
  device : made.device = system.device
  dtype : made.dtype = system.dtype
  lists : made.neighborLists = system.neighborLists
  data : made.data = system.data

/-- A system with another tensor in one of its fields. -/
def put (system : System) (field : Field) (tensor : Tensor) : System :=
  match field with
  | .types => { system with types := tensor }
  | .positions => { system with positions := tensor }
  | .cell => { system with cell := tensor }
  | .pbc => { system with pbc := tensor }

/-- A tensor fits in a field of a system. -/
structure Fits (tape : Tape) (system : System) (field : Field) (tensor : Tensor) : Prop where
  known : tape.Knows tensor
  device : tensor.device = system.device
  shape : tensor.shape = (system.get field).shape
  dtype : tensor.dtype = (system.get field).dtype

private theorem Sound.put {system : System} (sound : system.Sound workspace.tape) {field : Field}
    {tensor : Tensor} (fits : Fits workspace.tape system field tensor) :
    Changed system (system.put field tensor) workspace := by
  have get (other : Field) : (system.put field tensor).get other =
      if other = field then tensor else system.get other := by
    cases field <;> cases other <;> rfl
  have shape (other : Field) :
      ((system.put field tensor).get other).shape = (system.get other).shape := by
    rw [get]
    split
    next same => rw [fits.shape, same]
    next => rfl
  have dtype (other : Field) :
      ((system.put field tensor).get other).dtype = (system.get other).dtype := by
    rw [get]
    split
    next same => rw [fits.dtype, same]
    next => rfl
  obtain ⟨fine, size, device, kind⟩ := @sound.replace _ _ (system.put field tensor)
    (fun other => by
      rw [get]
      split
      · exact fits.known
      · exact sound.known other)
    (fun other => by
      rw [get]
      split
      · exact fits.device
      · exact sound.together other)
    ⟨(shape .types).trans sound.types.1, (dtype .types).trans sound.types.2⟩
    ⟨(shape .positions).trans sound.positions.1, dtype .positions⟩
    ⟨(shape .cell).trans sound.cell.1, (dtype .cell).trans sound.cell.2⟩
    ⟨(shape .pbc).trans sound.pbc.1, (dtype .pbc).trans sound.pbc.2⟩
    (by cases field <;> rfl) (by cases field <;> rfl)
  exact ⟨fine, size, device, kind, by cases field <;> rfl, by cases field <;> rfl⟩

/-- What the setter of a field gives: only that field is replaced, and the periodicity only
by one that the cell agrees with. -/
structure Replaced (system : System) (field : Field) (made : System) (after : Workspace) : Prop
    extends Changed system made after where
  put : ∃ tensor, made = system.put field tensor
  agrees : field = .pbc → checkCell made.cell.data made.pbc.data = .ok ()

private theorem setTypes_within (kind : Dense.Kind allowed) {system : System} {types : Tensor}
    (sound : system.Sound workspace.tape) (known : workspace.tape.Knows types) :
    (system.set .types types).Within (Extends allowed) workspace (Replaced system .types) := by
  rw [set_types]
  apply (ofExcept_within _).bind
  rintro _ one _ ⟨device, rfl⟩
  refine .check (Extends.refl _) fun dim => ?_
  refine .check (Extends.refl _) fun size => ?_
  refine .check (Extends.refl _) fun _ => ?_
  apply (Run.transfer_within kind known (some .int32) none).adapt.bind
  rintro new middle extended ⟨new_known, kinds⟩
  refine .of_exec rfl (.refl _) fun made result => ?_
  rw [← Except.ok.inj result]
  have fits : Fits middle.tape system .types new := by
    refine ⟨new_known, ?_, ?_, ?_⟩
    · exact (congrArg (fun kind => kind.2.2) kinds).trans (checkDevice_ok device)
    · refine (congrArg Prod.fst kinds).trans ?_
      rw [shape_of_dim_one (not_not.mp dim), not_not.mp size]
      exact sound.types.1.symm
    · exact (congrArg (fun kind => kind.2.1) kinds).trans sound.types.2.symm
  exact ⟨(sound.mono extended).put fits, ⟨new, rfl⟩, nofun⟩

/-- Positions that were set fit the system, and nothing else has changed. -/
theorem setPositions_fits {tape : Tape} {system made : System} {positions : Tensor}
    (sound : system.Sound tape) (known : tape.Knows positions)
    (set : (assignPositions positions).copied system = .ok made) :
    Fits tape system .positions positions ∧ made = system.put .positions positions := by
  rw [assignPositions_copied] at set
  obtain ⟨_, device, rest⟩ := ok_of_bind set
  obtain ⟨_, dtype, rest⟩ := ok_of_bind rest
  obtain ⟨_, table, rest⟩ := ok_of_bind rest
  cases rest
  exact ⟨⟨known, checkDevice_ok device, (checkTable_ok table).trans sound.positions.1.symm,
    checkDType_ok dtype⟩, rfl⟩

/-- A cell that was set fits the system, and nothing else has changed. -/
theorem setCell_fits {tape : Tape} {system made : System} {cell : Tensor}
    (sound : system.Sound tape) (known : tape.Knows cell)
    (set : (assignCell cell).copied system = .ok made) :
    Fits tape system .cell cell ∧ made = system.put .cell cell := by
  rw [assignCell_copied] at set
  obtain ⟨_, device, rest⟩ := ok_of_bind set
  obtain ⟨_, dtype, rest⟩ := ok_of_bind rest
  obtain ⟨_, table, rest⟩ := ok_of_bind rest
  cases rest
  exact ⟨⟨known, checkDevice_ok device, (checkTable_ok table).trans sound.cell.1.symm,
    (checkDType_ok dtype).trans sound.cell.2.symm⟩, rfl⟩

/-- Periodic directions that were set fit the system and agree with its cell. -/
theorem setPbc_fits {tape : Tape} {system made : System} {pbc : Tensor}
    (sound : system.Sound tape) (known : tape.Knows pbc)
    (set : (assignPbc pbc).copied system = .ok made) :
    (Fits tape system .pbc pbc ∧ made = system.put .pbc pbc) ∧
      checkCell made.cell.data made.pbc.data = .ok () := by
  rw [assignPbc_copied] at set
  obtain ⟨_, device, rest⟩ := ok_of_bind set
  obtain ⟨dtype, rest⟩ := ok_of_check rest
  obtain ⟨dim, rest⟩ := ok_of_check rest
  obtain ⟨size, rest⟩ := ok_of_check rest
  obtain ⟨_, agrees, rest⟩ := ok_of_bind rest
  cases rest
  have shape : pbc.shape = [3] := by
    rw [shape_of_dim_one (not_not.mp dim), not_not.mp size]
  exact ⟨⟨⟨known, checkDevice_ok device, shape.trans sound.pbc.1.symm,
    (not_not.mp dtype).trans sound.pbc.2.symm⟩, rfl⟩, agrees⟩

/-- A setter that succeeds leaves a sound system. -/
theorem set_within (kind : Dense.Kind allowed) {system : System} {tensor : Tensor}
    (sound : system.Sound workspace.tape) (known : workspace.tape.Knows tensor) (field : Field) :
    (system.set field tensor).Within (Extends allowed) workspace (Replaced system field) := by
  have exact_put {field : Field} {result : Except Error System}
      (put : ∀ made, result = .ok made →
        Fits workspace.tape system field tensor ∧ made = system.put field tensor)
      (agrees : ∀ made, result = .ok made → field = .pbc →
        checkCell made.cell.data made.pbc.data = .ok ()) :
      (Session.ofExcept result).Within (Extends allowed) workspace (Replaced system field) := by
    apply (ofExcept_within _).weaken
    rintro made after ⟨succeeded, same⟩
    obtain ⟨fits, shape⟩ := put made succeeded
    have changed := sound.put fits
    rw [← shape] at changed
    exact ⟨same ▸ changed, ⟨tensor, shape⟩, agrees made succeeded⟩
  cases field with
  | types => exact setTypes_within kind sound known
  | positions =>
      rw [set_positions]
      exact exact_put (fun _ set => setPositions_fits sound known set) fun _ _ => nofun
  | cell =>
      rw [set_cell]
      exact exact_put (fun _ set => setCell_fits sound known set) fun _ _ => nofun
  | pbc =>
      rw [set_pbc]
      exact exact_put (fun _ set => (setPbc_fits sound known set).1) fun _ set _ =>
        (setPbc_fits sound known set).2

/-- A note leaves the tape alone. -/
theorem note_within (level : Level) (target text : String) :
    (Session.note level target text : Session Error Unit).Within (Extends allowed) workspace
      fun _ after => after.tape = workspace.tape :=
  .of_exec rfl (.of_tape rfl) fun _ _ => rfl

/-- A system to which a neighbor list was attached is sound. -/
theorem addNeighborList_within {system : System} (sound : system.Sound workspace.tape)
    {options : NeighborListOptions} (options_sound : options.Sound) {list : Block}
    (list_sound : list.Sound workspace.tape) :
    (system.addNeighborList options list).Within (Extends allowed) workspace fun made after =>
      made.Sound after.tape ∧ made = { system with
        neighborLists := Registry.insert options list system.neighborLists } := by
  rw [addNeighborList_steps]
  apply (ofExcept_within _).bind
  rintro _ one _ ⟨layout, rfl⟩
  refine .check (Extends.refl _) fun plain => ?_
  refine .check (Extends.refl _) fun device => ?_
  refine .check (Extends.refl _) fun dtype => ?_
  apply (tracked_within system.positions).bind
  intro positionsGrad two _ same
  subst same
  apply (tracked_within system.cell).bind
  intro cellGrad three _ same
  subst same
  apply (tracked_within list.values).bind
  intro valuesGrad four _ same
  subst same
  have attached : Listed four.tape system list :=
    ⟨⟨list_sound, not_not.mp device, not_not.mp dtype⟩, layout,
      List.length_eq_zero_iff.mp (not_not.mp plain)⟩
  refine .when (Extends.refl _) (rfl : four.tape = four.tape) (note_within _ _ _)
    fun middle _ tape => ?_
  refine .check (Extends.refl _) fun _ => ?_
  apply (note_within _ _ _).bind
  intro _ last _ kept
  refine .of_exec rfl (.refl _) fun made result => ?_
  cases result
  rw [kept, tape]
  have all := @Registry.forall_insert _ _ _ NeighborListOptions.Sound (Listed four.tape system)
    options list system.neighborLists options_sound attached sound.lists
  refine ⟨{ sound with sorted := sound.sorted.insert options list, lists := ?_, data := ?_ }, rfl⟩
  · exact fun entry member => ⟨(all entry member).1, (all entry member).2.of_same rfl rfl⟩
  · exact fun entry member => (sound.data entry member).of_same rfl rfl

/-- A system to which custom data was attached is sound. -/
theorem addData_sound {tape : Tape} {system made : System} (sound : system.Sound tape)
    {name : String} {block : Block} (block_sound : block.Sound tape) {overwrite : Bool}
    (added : system.addData name block overwrite = .ok made) :
    made.Sound tape ∧ made = { system with data := Registry.insert name block system.data } := by
  rw [addData_steps] at added
  obtain ⟨valid, rest⟩ := ok_of_check added
  obtain ⟨_, free, rest⟩ := ok_of_bind rest
  obtain ⟨_, rest⟩ := ok_of_check rest
  obtain ⟨device, rest⟩ := ok_of_check rest
  obtain ⟨dtype, rest⟩ := ok_of_check rest
  cases rest
  have attached : Attached tape system block := ⟨block_sound, not_not.mp device, not_not.mp dtype⟩
  have all := @Registry.forall_insert _ _ _
    (fun name => validDataName name ∧ checkReserved name = .ok ()) (Attached tape system)
    name block system.data ⟨by simpa using valid, free⟩ attached
    fun entry member => ⟨sound.named entry member, sound.data entry member⟩
  refine ⟨{ sound with
    named := fun entry member => (all entry member).1
    ordered := sound.ordered.insert name block
    lists := ?_, data := ?_ }, rfl⟩
  · exact fun entry member =>
      ⟨(sound.lists entry member).1, (sound.lists entry member).2.of_same rfl rfl⟩
  · exact fun entry member => (all entry member).2.of_same rfl rfl

/-- Attaching lists changes no tensor of a system. -/
theorem get_neighborLists (system : System) (neighborLists : List (NeighborListOptions × Block)) :
    ({ system with neighborLists } : System).get = system.get := by
  funext field
  cases field <;> rfl

private theorem get_data (system : System) (data : List (String × Block)) :
    ({ system with data } : System).get = system.get := by
  funext field
  cases field <;> rfl

/-- A sound system with the tensors of a constructed one is like a constructed one. -/
theorem Constructed.of_get {tape other : Tape} {system made : System}
    (constructed : system.Constructed other) (sound : made.Sound tape)
    (same : made.get = system.get) : made.Constructed tape := by
  refine ⟨sound, ?_⟩
  have cell : made.cell = system.cell := congrFun same .cell
  have pbc : made.pbc = system.pbc := congrFun same .pbc
  rw [cell, pbc]
  exact constructed.agrees

private theorem addConverted_within (kind : Dense.Kind allowed) {system : System}
    (sound : system.Sound workspace.tape) {lists : List (NeighborListOptions × Block)}
    (lists_sound : ∀ entry ∈ lists, entry.1.Sound ∧ entry.2.Sound workspace.tape)
    (dtype : Option DType) (device : Option Device) :
    (addConverted dtype device system lists).Within (Extends allowed) workspace fun made after =>
      made.Sound after.tape ∧ made.get = system.get := by
  rw [addConverted]
  refine .foldlM Extends.refl (fun entry member state middle extended kept => ?_) ⟨sound, rfl⟩
  obtain ⟨state_sound, fields⟩ := kept
  have list := (lists_sound entry member).2.mono extended
  apply (Block.transfer_within kind list dtype device).adapt.bind
  intro block last further moved
  apply (addNeighborList_within (state_sound.mono further) (lists_sound entry member).1
    moved.sound).weaken
  rintro made after ⟨made_sound, rfl⟩
  exact ⟨made_sound, fields ▸ get_neighborLists state _⟩

private theorem addConvertedData_within (kind : Dense.Kind allowed) {system : System}
    (sound : system.Sound workspace.tape) {data : List (String × Block)}
    (data_sound : ∀ entry ∈ data, entry.2.Sound workspace.tape)
    (dtype : Option DType) (device : Option Device) :
    (addConvertedData dtype device system data).Within (Extends allowed) workspace
      fun made after => made.Sound after.tape ∧ made.get = system.get := by
  rw [addConvertedData]
  refine .foldlM Extends.refl (fun entry member state middle extended kept => ?_) ⟨sound, rfl⟩
  obtain ⟨state_sound, fields⟩ := kept
  have block := (data_sound entry member).mono extended
  apply (Block.transfer_within kind block dtype device).adapt.bind
  intro made last further moved
  apply (ofExcept_within _).weaken
  rintro after _ ⟨added, same⟩
  rw [same]
  obtain ⟨after_sound, shape⟩ := addData_sound (state_sound.mono further) moved.sound added
  refine ⟨after_sound, ?_⟩
  rw [shape, ← fields]
  exact get_data state _

/-- A system that was cast and moved is constructed anew. -/
theorem transfer_within (kind : Dense.Kind allowed) {system : System}
    (sound : system.Sound workspace.tape) (dtype : Option DType) (device : Option Device) :
    (system.transfer dtype device).Within (Extends allowed) workspace fun made after =>
      made.Constructed after.tape := by
  rw [transfer]
  apply (Run.transfer_within kind (sound.known .types) none device).adapt.bind
  rintro types one first ⟨types_known, _⟩
  have positions_known := first.knows (sound.known .positions)
  apply (Run.transfer_within kind positions_known dtype device).adapt.bind
  rintro positions two second ⟨positions_known, _⟩
  have cell_known := second.knows (first.knows (sound.known .cell))
  apply (Run.transfer_within kind cell_known dtype device).adapt.bind
  rintro cell three third ⟨cell_known, _⟩
  have pbc_known := third.knows (second.knows (first.knows (sound.known .pbc)))
  apply (Run.transfer_within kind pbc_known none device).adapt.bind
  rintro pbc four fourth ⟨pbc_known, _⟩
  have parts_known : ∀ tensor ∈ [types, positions, cell, pbc], four.tape.Knows tensor := by
    simp only [List.forall_mem_cons]
    exact ⟨fourth.knows (third.knows (second.knows types_known)),
      fourth.knows (third.knows positions_known), fourth.knows cell_known, pbc_known,
      List.forall_mem_nil _⟩
  apply (create_within kind parts_known).bind
  rintro created five fifth ⟨constructed, _⟩
  have moved : Extends allowed workspace five :=
    IsTrans.trans _ _ _ first (IsTrans.trans _ _ _ second (IsTrans.trans _ _ _ third
      (IsTrans.trans _ _ _ fourth fifth)))
  have lists : ∀ entry ∈ system.neighborLists, entry.1.Sound ∧ entry.2.Sound five.tape :=
    fun entry member =>
      ⟨(sound.lists entry member).1, (sound.lists entry member).2.sound.mono moved⟩
  apply (addConverted_within kind constructed.toSound lists dtype device).bind
  rintro converted six sixth ⟨converted_sound, lists_kept⟩
  have data : ∀ entry ∈ system.data, entry.2.Sound six.tape := fun entry member =>
    ((sound.data entry member).sound.mono moved).mono sixth
  apply (addConvertedData_within kind converted_sound data dtype device).weaken
  rintro made after ⟨made_sound, data_kept⟩
  exact constructed.of_get made_sound (data_kept.trans lists_kept)

end System

end Atomistic
