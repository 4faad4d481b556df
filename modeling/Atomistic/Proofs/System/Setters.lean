import Atomistic.Proofs.System.Construction
import Atomistic.Proofs.System.Sound

/-!
# Which tensors a setter takes

A setter and the construction of a system check the same things in different orders and
against different tensors.  Both succeed exactly on a condition, whatever the tape is
(`Atomistic.System.rebuild_decides`, `Atomistic.System.set_decides`), and for a sound
system the two conditions are the same once the directions of the constructed system are
taken to be periodic (`Atomistic.System.Sound.replaceable_iff`).
-/

namespace Atomistic

open Session

variable {workspace : Workspace}

namespace Tensor

variable {tensor : Tensor} {dtype : DType}

/-- Data that can be converted is converted, whatever the tape is. -/
theorem convert_ok {device : Device} {data : Dense}
    (converted : tensor.data.convert dtype device = .ok data) :
    ∃ made after, (tensor.convert dtype device).exec workspace = (.ok made, after) ∧
      made.data = data := by
  have view : tensor.toView.convert dtype device = .ok
      ⟨data, if dtype == tensor.dtype && !device.isMeta then some tensor.buffer else none⟩ := by
    rw [tensor.view_convert, converted]
    rfl
  rw [convert, view, exec_bind, exec_ofExcept]
  exact ⟨_, _, exec_place _ _, rfl⟩

/-- A cast to an integral type is not tracked, and it always succeeds on the same device. -/
theorem transfer_integral (valid : tensor.data.Valid) (integral : dtype.isFloating = false) :
    ∃ made after, (tensor.transfer (some dtype) none).exec workspace = (.ok made, after) ∧
      made.data = tensor.data.recast (some dtype) none := by
  have converted := @Dense.Valid.convert_recast _ valid (some dtype) none id
  by_cases same : (some dtype).getD tensor.dtype = tensor.dtype ∧
      (none : Option Device).getD tensor.device = tensor.device
  · obtain ⟨ran, held⟩ := transfer_self valid converted same
    exact ⟨tensor, workspace, ran, held⟩
  · rw [transfer, if_neg same, exec_bind, exec_requiresGrad]
    simp only [Option.getD, integral, Bool.and_false, Bool.false_eq_true, if_false]
    exact convert_ok converted

end Tensor

namespace System

/-- Periodic in every direction: three booleans that are true, or none on the meta device. -/
def everywhere (device : Device) : Dense :=
  ⟨[3], .bool, device, if device.isMeta then .absent else .integers [1, 1, 1]⟩

/-- Construct a system of the four tensors of another. -/
def rebuild (system : System) : Session Error System :=
  create system.types system.positions system.cell system.pbc

/-- What a field keeps of a tensor that it is given: the types are cast. -/
def stored : Field → Tensor → Session TensorError Tensor
  | .types, tensor => tensor.transfer (some .int32) none
  | _, tensor => pure tensor

/-- A system can be constructed of the four tensors of a system. -/
structure Buildable (system : System) : Prop where
  together : system.positions.device = system.device ∧ system.cell.device = system.device ∧
    system.pbc.device = system.device
  types : system.types.shape = [system.size] ∧ system.types.dtype.canCast .int32
  positions : system.positions.shape = [system.size, 3] ∧ system.positions.dtype.isFloating
  cell : system.cell.shape = [3, 3] ∧ system.cell.dtype = system.dtype
  pbc : system.pbc.shape = [3] ∧ system.pbc.dtype = .bool
  agrees : checkCell system.cell.data system.pbc.data = .ok ()

/-- A tensor that can replace the one in a field of a system. -/
structure Replaceable (system : System) (field : Field) (tensor : Tensor) : Prop where
  device : tensor.device = system.device
  shape : tensor.shape = (system.get field).shape
  dtype : if field = .types then tensor.dtype.canCast .int32
    else tensor.dtype = (system.get field).dtype
  agrees : field = .pbc → checkCell system.cell.data tensor.data = .ok ()

private theorem checkTable_iff {stage : Stage} {field : Field} {table : Tensor} {rows : Nat} :
    checkTable stage field table rows = .ok () ↔ table.shape = [rows, 3] :=
  ⟨checkTable_ok, checkTable_eq⟩

private theorem shape_iff {tensor : Tensor} {count : Nat} :
    tensor.shape = [count] ↔ tensor.dim = 1 ∧ tensor.size 0 = count := by
  constructor
  · intro shape
    exact ⟨congrArg List.length shape, congrArg (fun shape : Shape => shape.getD 0 0) shape⟩
  · rintro ⟨dim, size⟩
    rw [shape_of_dim_one dim, size]

/-- A check without state, before the rest of a session. -/
theorem checked {check : Except Error Unit} {first second : Prop}
    {next : Unit → Session Error System} {ended : System → Workspace → Prop}
    (passes : check = .ok () ↔ first)
    (rest : (next ()).Decides Anywhere second workspace ended) :
    (ofExcept check >>= next).Decides Anywhere (first ∧ second) workspace ended := by
  have decided : (ofExcept check).Decides Anywhere first workspace fun _ after =>
      after = workspace :=
    (Decides.ofExcept_iff passes.mpr (fun _ passed => passes.mp passed) trivial).weaken
      fun _ _ _ ended => ended.2
  refine decided.bind ?_
  rintro _ _ _ rfl
  exact rest

/-- **What a system is made of**: the construction succeeds exactly for tensors of the right
kinds, and it keeps all but the types as they are. -/
theorem rebuild_decides {system : System} (valid : system.types.data.Valid) :
    system.rebuild.Decides Anywhere system.Buildable workspace fun made after =>
      (stored .types system.types).exec workspace = (.ok made.types, after) ∧
        made = ⟨made.types, system.positions, system.cell, system.pbc, [], []⟩ := by
  obtain ⟨new, middle, ran, cast⟩ := @Tensor.transfer_integral workspace _ .int32 valid rfl
  have kept : (system.types.transfer (some .int32) none : Session TensorError Tensor).Decides
      Anywhere True workspace fun made after => made = new ∧ after = middle :=
    .gives ran trivial trivial ⟨rfl, rfl⟩
  have rows : new.size 0 = system.size := by
    have shape : new.data.shape = system.types.data.shape := by
      rw [cast]
      exact (@Dense.Valid.recast_kind _ valid (some .int32) none id).1
    exact congrArg (fun shape : Shape => shape.getD 0 0) shape
  -- the conditions of the checks, in their order
  have decided : system.rebuild.Decides Anywhere
      ((system.positions.device = system.device ∧ system.cell.device = system.device ∧
          system.pbc.device = system.device) ∧
        system.types.dim = 1 ∧ system.types.dtype.canCast .int32 ∧
        system.positions.shape = [system.size, 3] ∧ system.positions.dtype.isFloating ∧
        system.cell.shape = [3, 3] ∧ system.cell.dtype = system.dtype ∧
        system.pbc.dim = 1 ∧ system.pbc.size 0 = 3 ∧ system.pbc.dtype = .bool ∧
        checkCell system.cell.data system.pbc.data = .ok () ∧ True) workspace fun made after =>
      (stored .types system.types).exec workspace = (.ok made.types, after) ∧
        made = ⟨made.types, system.positions, system.cell, system.pbc, [], []⟩ := by
    rw [rebuild, create]
    refine .check (by simp only [not_or, not_not, device]) fun _ => .check not_not fun _ =>
      .check (by rw [Bool.not_eq_true', Bool.not_eq_false]) fun _ => ?_
    apply kept.adapt.follow
    rintro _ one _ ⟨rfl, rfl⟩
    rw [rows]
    refine checked checkTable_iff (.check (by rw [Bool.not_eq_true', Bool.not_eq_false]) fun _ =>
      checked checkTable_iff (.check not_not fun _ => .check not_not fun _ =>
        .check not_not fun _ => .check not_not fun _ => checked Iff.rfl ?_))
    exact .gives rfl trivial trivial ⟨ran, rfl⟩
  refine decided.congr ⟨?_, ?_⟩
  · rintro ⟨together, types, positions, cell, pbc, agrees⟩
    have dims := shape_iff.mp pbc.1
    exact ⟨together, (shape_iff.mp types.1).1, types.2, positions.1, positions.2, cell.1, cell.2,
      dims.1, dims.2, pbc.2, agrees, trivial⟩
  · rintro ⟨together, dim, castable, positions, floating, cell, kind, pbc_dim, pbc_size, flags,
      agrees, _⟩
    exact ⟨together, ⟨shape_iff.mpr ⟨dim, rfl⟩, castable⟩, ⟨positions, floating⟩, ⟨cell, kind⟩,
      ⟨shape_iff.mpr ⟨pbc_dim, pbc_size⟩, flags⟩, agrees⟩

private theorem checkDevice_iff {system : System} {field : Field} {tensor : Tensor} :
    system.checkDevice field tensor = .ok () ↔ tensor.device = system.device := by
  refine ⟨checkDevice_ok, fun same => ?_⟩
  rw [checkDevice, if_neg (not_not.mpr same)]
  rfl

private theorem checkDType_iff {system : System} {field : Field} {tensor : Tensor} :
    system.checkDType field tensor = .ok () ↔ tensor.dtype = system.dtype := by
  refine ⟨checkDType_ok, fun same => ?_⟩
  rw [checkDType, if_neg (not_not.mpr same)]
  rfl

section Set

variable {tape : Tape} {system : System} {tensor : Tensor} (sound : system.Sound tape)

include sound

private theorem setTypes_decides (valid : tensor.data.Valid) :
    (system.set .types tensor).Decides Anywhere (system.Replaceable .types tensor) workspace
      fun changed after => (stored .types tensor).exec workspace = (.ok changed.types, after) ∧
        changed = system.put .types changed.types := by
  obtain ⟨new, middle, ran, _⟩ := @Tensor.transfer_integral workspace _ .int32 valid rfl
  have kept : (tensor.transfer (some .int32) none : Session TensorError Tensor).Decides
      Anywhere True workspace fun made after => made = new ∧ after = middle :=
    .gives ran trivial trivial ⟨rfl, rfl⟩
  have decided : (system.set .types tensor).Decides Anywhere
      (tensor.device = system.device ∧ tensor.dim = 1 ∧ tensor.size 0 = system.size ∧
        tensor.dtype.canCast .int32 ∧ True) workspace fun changed after =>
      (stored .types tensor).exec workspace = (.ok changed.types, after) ∧
        changed = system.put .types changed.types := by
    rw [set_types]
    refine checked checkDevice_iff (.check not_not fun _ => .check not_not fun _ =>
      .check (by rw [Bool.not_eq_true', Bool.not_eq_false]) fun _ => ?_)
    apply kept.adapt.follow
    rintro _ one _ ⟨rfl, rfl⟩
    exact .gives rfl trivial trivial ⟨ran, rfl⟩
  refine decided.congr ⟨?_, ?_⟩
  · rintro ⟨device, shape, castable, _⟩
    have dims := shape_iff.mp (shape.trans sound.types.1)
    exact ⟨device, dims.1, dims.2, castable, trivial⟩
  · rintro ⟨device, dim, size, castable, _⟩
    exact ⟨device, (shape_iff.mpr ⟨dim, size⟩).trans sound.types.1.symm, castable,
      fun same => absurd same (by decide)⟩

private theorem setPositions_eq (fits : system.Replaceable .positions tensor) :
    (assignPositions tensor).copied system = .ok (system.put .positions tensor) := by
  have table := @checkTable_eq .replaced .positions _ _ (fits.shape.trans sound.positions.1)
  rw [assignPositions_copied, checkDevice_iff.mpr fits.device, ok_bind,
      checkDType_iff.mpr fits.dtype, ok_bind,
    table]
  rfl

private theorem setCell_eq (fits : system.Replaceable .cell tensor) :
    (assignCell tensor).copied system = .ok (system.put .cell tensor) := by
  have table := @checkTable_eq .replaced .cell _ _ (fits.shape.trans sound.cell.1)
  rw [assignCell_copied, checkDevice_iff.mpr fits.device, ok_bind,
    checkDType_iff.mpr (Eq.trans fits.dtype sound.cell.2), ok_bind, table]
  rfl

private theorem setPbc_eq (fits : system.Replaceable .pbc tensor) :
    (assignPbc tensor).copied system = .ok (system.put .pbc tensor) := by
  obtain ⟨dim, size⟩ := shape_iff.mp (fits.shape.trans sound.pbc.1)
  rw [assignPbc_copied, checkDevice_iff.mpr fits.device, ok_bind,
    if_neg (not_not.mpr (Eq.trans fits.dtype sound.pbc.2)), if_neg (not_not.mpr dim),
    if_neg (not_not.mpr size), fits.agrees rfl]
  rfl

/-- **What a setter takes**: it succeeds exactly for a tensor that fits, and replaces only the
field. -/
theorem set_decides (known : tape.Knows tensor) (valid : tensor.data.Valid) (field : Field) :
    (system.set field tensor).Decides Anywhere (system.Replaceable field tensor) workspace
      fun changed after => (stored field tensor).exec workspace = (.ok (changed.get field), after) ∧
        changed = system.put field (changed.get field) := by
  have decides {field : Field} {result : Except Error System}
      (eq : system.Replaceable field tensor → result = .ok (system.put field tensor))
      (fits : ∀ made, result = .ok made → system.Replaceable field tensor) :
      (ofExcept result).Decides Anywhere (system.Replaceable field tensor) workspace
        fun changed after => changed = system.put field tensor ∧ after = workspace :=
    .ofExcept_iff eq fits trivial
  cases field with
  | types => exact setTypes_decides sound valid
  | positions =>
      rw [set_positions]
      refine (decides (setPositions_eq sound) fun made set => ?_).weaken ?_
      · obtain ⟨fits, _⟩ := setPositions_fits sound known set
        exact ⟨fits.device, fits.shape, fits.dtype, nofun⟩
      · rintro _ _ _ ⟨rfl, rfl⟩
        exact ⟨rfl, rfl⟩
  | cell =>
      rw [set_cell]
      refine (decides (setCell_eq sound) fun made set => ?_).weaken ?_
      · obtain ⟨fits, _⟩ := setCell_fits sound known set
        exact ⟨fits.device, fits.shape, fits.dtype, nofun⟩
      · rintro _ _ _ ⟨rfl, rfl⟩
        exact ⟨rfl, rfl⟩
  | pbc =>
      rw [set_pbc]
      refine (decides (setPbc_eq sound) fun made set => ?_).weaken ?_
      · obtain ⟨⟨fits, rfl⟩, agrees⟩ := setPbc_fits sound known set
        exact ⟨fits.device, fits.shape, fits.dtype, fun _ => agrees⟩
      · rintro _ _ _ ⟨rfl, rfl⟩
        exact ⟨rfl, rfl⟩

end Set

private theorem everywhere_valid (device : Device) : (everywhere device).Valid := by
  cases device with
  | metadata => exact .absent rfl
  | cpu => exact .integers rfl nofun rfl (by decide)
  | cuda index => exact .integers rfl nofun rfl (by decide)

private theorem toBooleans_everywhere {device : Device} {periodic : List Bool}
    (read : (everywhere device).toBooleans = .ok periodic) : ∀ flag ∈ periodic, flag = true := by
  cases device with
  | metadata => cases read
  | cpu =>
      cases read
      simp
  | cuda index =>
      cases read
      simp

/-- No cell vector has to be zero in a direction that is periodic. -/
theorem checkCell_everywhere {cell : Dense} (valid : cell.Valid) (shape : cell.shape = [3, 3]) :
    checkCell cell (everywhere cell.device) = .ok () := by
  rw [checkCell_agrees valid (everywhere_valid _) shape rfl rfl]
  intro periodic vectors read _ direction off
  have flag := toBooleans_everywhere read false (List.mem_of_getElem? off)
  cases flag

/-- The tensors that a system would have with another tensor in a field.  Unless that is the
periodicity itself, the periodicity is replaced too. -/
def revised (system : System) (field : Field) (tensor periodic : Tensor) : System :=
  match field with
  | .pbc => system.put .pbc tensor
  | field => (system.put field tensor).put .pbc periodic

/-- **A setter takes what a construction takes**, of a system that is periodic everywhere
unless it is the periodicity that is set. -/
theorem Sound.replaceable_iff {tape : Tape} {system : System} (sound : system.Sound tape)
    (holds : tape.Holds Dense.Valid) {tensor periodic : Tensor} (known : tape.Knows tensor)
    (all : periodic.data = everywhere system.device) {field : Field} :
    system.Replaceable field tensor ↔ (system.revised field tensor periodic).Buildable := by
  have home : periodic.device = system.device :=
    (show periodic.data.device = system.device by rw [all]; rfl)
  have flags : periodic.shape = [3] ∧ periodic.dtype = .bool :=
    ⟨show periodic.data.shape = [3] by rw [all]; rfl, show periodic.data.dtype = .bool by
      rw [all]; rfl⟩
  have together := sound.together
  have types : system.types.shape = [system.size] ∧ system.types.dtype.canCast .int32 := by
    rw [sound.types.2]
    exact ⟨sound.types.1, rfl⟩
  have agrees : checkCell system.cell.data periodic.data = .ok () := by
    rw [all, ← show system.cell.data.device = system.device from together .cell]
    exact checkCell_everywhere (holds.knows (sound.known .cell)) sound.cell.1
  cases field with
  | types =>
      constructor
      · rintro ⟨device, shape, castable, _⟩
        obtain ⟨dim, count⟩ := shape_iff.mp (shape.trans sound.types.1)
        have rows : system.positions.shape = [tensor.size 0, 3] := by
          rw [count]
          exact sound.positions.1
        exact ⟨⟨(together .positions).trans device.symm, (together .cell).trans device.symm,
          home.trans device.symm⟩, ⟨shape_iff.mpr ⟨dim, rfl⟩, castable⟩,
          ⟨rows, sound.positions.2⟩, sound.cell, flags, agrees⟩
      · rintro ⟨⟨device, _⟩, ⟨shape, castable⟩, ⟨rows, _⟩, _⟩
        have count : tensor.size 0 = system.size := by
          have same : [tensor.size 0, 3] = [system.size, 3] := rows.symm.trans sound.positions.1
          exact (List.cons.inj same).1
        refine ⟨device.symm.trans (together .positions), ?_, castable, nofun⟩
        exact (shape_iff.mpr ⟨(shape_iff.mp shape).1, count⟩).trans sound.types.1.symm
  | positions =>
      constructor
      · rintro ⟨device, shape, dtype, _⟩
        have floating : tensor.dtype.isFloating := by
          rw [show tensor.dtype = system.positions.dtype from dtype]
          exact sound.positions.2
        exact ⟨⟨device, together .cell, home⟩, types, ⟨shape.trans sound.positions.1, floating⟩,
          ⟨sound.cell.1, sound.cell.2.trans dtype.symm⟩, flags, agrees⟩
      · rintro ⟨⟨device, _⟩, _, ⟨shape, _⟩, ⟨_, dtype⟩, _⟩
        exact ⟨device, shape.trans sound.positions.1.symm, dtype.symm.trans sound.cell.2, nofun⟩
  | cell =>
      constructor
      · rintro ⟨device, shape, dtype, _⟩
        have fits : checkCell tensor.data periodic.data = .ok () := by
          rw [all, ← show tensor.data.device = system.device from device]
          exact checkCell_everywhere (holds.knows known) (shape.trans sound.cell.1)
        exact ⟨⟨together .positions, device, home⟩, types, sound.positions,
          ⟨shape.trans sound.cell.1, dtype.trans sound.cell.2⟩, flags, fits⟩
      · rintro ⟨⟨_, device, _⟩, _, _, ⟨shape, dtype⟩, _⟩
        exact ⟨device, shape.trans sound.cell.1.symm, dtype.trans sound.cell.2.symm, nofun⟩
  | pbc =>
      constructor
      · rintro ⟨device, shape, dtype, agrees⟩
        exact ⟨⟨together .positions, together .cell, device⟩, types, sound.positions, sound.cell,
          ⟨shape.trans sound.pbc.1, dtype.trans sound.pbc.2⟩, agrees rfl⟩
      · rintro ⟨⟨_, _, device⟩, _, _, _, ⟨shape, dtype⟩, agrees⟩
        exact ⟨device, shape.trans sound.pbc.1.symm, dtype.trans sound.pbc.2.symm, fun _ => agrees⟩

/-- The data that a field keeps of a tensor. -/
def kept : Field → Dense → Dense
  | .types, data => data.recast (some .int32) none
  | _, data => data

private theorem stored_kept {tensor made : Tensor} {after : Workspace} (valid : tensor.data.Valid)
    {field : Field} (ran : (stored field tensor).exec workspace = (.ok made, after)) :
    made.data = kept field tensor.data := by
  cases field with
  | types =>
      obtain ⟨new, last, cast, data⟩ := @Tensor.transfer_integral workspace _ .int32 valid rfl
      cases ran.symm.trans cast
      exact data
  | positions | cell | pbc =>
      cases ran
      rfl

/-- What a setter left, next to what a construction made of the same tensor. -/
structure Matches (system changed made : System) (field : Field) (tensor : Tensor) : Prop where
  field_data : (changed.get field).data = kept field tensor.data
  made_data : (made.get field).data = kept field tensor.data
  others : ∀ other ≠ field, changed.get other = system.get other
  neighborLists : changed.neighborLists = system.neighborLists
  data : changed.data = system.data

/-- A construction stores in a field what the setter of the field stores, down to the tensor
if both start from the same tape. -/
theorem rebuild_revised {tape : Tape} {system made : System} (sound : system.Sound tape)
    {field : Field} {tensor periodic : Tensor}
    (valid : (system.revised field tensor periodic).types.data.Valid)
    {after : Workspace}
    (ran : (system.revised field tensor periodic).rebuild.exec workspace = (.ok made, after)) :
    (stored field tensor).exec workspace = (.ok (made.get field), after) := by
  obtain ⟨cast, same⟩ := ((rebuild_decides valid).of_success ran).2
  have types : (stored .types system.types).exec workspace = (.ok system.types, workspace) := by
    have same : (some DType.int32).getD system.types.dtype = system.types.dtype ∧
        (none : Option Device).getD system.types.device = system.types.device :=
      ⟨sound.types.2.symm, rfl⟩
    rw [stored, Tensor.transfer, if_pos same]
    rfl
  -- the types stay as they are unless they are what is set
  have stays (kept : (system.revised field tensor periodic).types = system.types) :
      after = workspace := by
    rw [kept, types] at cast
    exact (congrArg Prod.snd cast).symm
  have gives (pure : (stored field tensor).exec workspace = (.ok tensor, workspace))
      (kept : (system.revised field tensor periodic).types = system.types)
      (got : made.get field = tensor) : (stored field tensor).exec workspace =
        (.ok (made.get field), after) := by
    rw [pure, got, stays kept]
  cases field with
  | types => exact cast
  | positions => exact gives rfl rfl (congrArg positions same)
  | cell => exact gives rfl rfl (congrArg cell same)
  | pbc => exact gives rfl rfl (congrArg pbc same)

private theorem get_put_of_ne {system : System} {field other : Field} (different : other ≠ field)
    (tensor : Tensor) : (system.put field tensor).get other = system.get other := by
  cases field <;> cases other <;> first | rfl | exact absurd rfl different

/-- **A setter and a construction agree**: they succeed on the same tensors, whatever the two
tapes are, and store the same. -/
theorem Sound.set_agrees {tape : Tape} {system : System} (sound : system.Sound tape)
    (holds : tape.Holds Dense.Valid) {tensor periodic : Tensor} (known : tape.Knows tensor)
    (all : periodic.data = everywhere system.device) (field : Field) (here there : Workspace) :
    ((∃ changed after, (system.set field tensor).exec here = (.ok changed, after)) ↔
      ∃ made after, (system.revised field tensor periodic).rebuild.exec there = (.ok made, after)) ∧
    ∀ changed after made other, (system.set field tensor).exec here = (.ok changed, after) →
      (system.revised field tensor periodic).rebuild.exec there = (.ok made, other) →
      system.Matches changed made field tensor ∧
        (here = there → changed.get field = made.get field ∧ after = other) := by
  have valid := holds.knows known
  have types_valid : (system.revised field tensor periodic).types.data.Valid := by
    cases field with
    | types => exact valid
    | positions | cell | pbc => exact holds.knows (sound.known .types)
  have setting := fun workspace => @set_decides workspace _ _ _ sound known valid field
  refine ⟨?_, ?_⟩
  · rw [(setting here).success_iff, (rebuild_decides types_valid).success_iff]
    exact sound.replaceable_iff holds known all
  · intro changed after made other set_ran made_ran
    obtain ⟨stored, same⟩ := ((setting here).of_success set_ran).2
    have also := rebuild_revised sound types_valid made_ran
    refine ⟨⟨stored_kept valid stored, stored_kept valid also, ?_, ?_, ?_⟩, ?_⟩
    · intro left different
      rw [same]
      exact get_put_of_ne different _
    · rw [same]
      cases field <;> rfl
    · rw [same]
      cases field <;> rfl
    · rintro rfl
      have both := stored.symm.trans also
      exact ⟨Except.ok.inj (congrArg Prod.fst both), congrArg Prod.snd both⟩

end System

end Atomistic
