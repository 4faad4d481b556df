import Atomistic.Proofs.Document.Entries
import Atomistic.Proofs.Document.Integers
import Atomistic.Proofs.NeighborList.Order
import Atomistic.Proofs.Sessions.Alike

/-!
# The order of neighbor lists in documents

The neighbor lists of a document are attached one after another, until one of them fails.
Still their order does not matter (`Atomistic.System.ofJson_lists_any_order`): the rest of the
document is read alike (`Atomistic.Document.bareOfJson_alike`), each entry says the same wherever
it stands, and lists with different options are stored in the order of the options, whatever the
order in which they come.  So a document is accepted exactly if it is with each of its entries
alone and no two of them are for the same list (`Atomistic.Document.accepted_apart_iff`).
-/

namespace Atomistic

open Session Workspace

variable {workspace before : Workspace}

/-! ### The system without its lists -/

/-- Two systems without neighbor lists, on the CPU, that hold the same data. -/
structure System.Twins (system other : System) : Prop where
  fields : ∀ field, (other.get field).data = (system.get field).data
  bare : system.neighborLists = [] ∧ other.neighborLists = []
  home : system.device = .cpu

private theorem System.checkTable_congr {stage : Stage} {field : Field} {table other : Tensor}
    {rows : Nat}
    (same : other.data = table.data) :
    checkTable stage field other rows = checkTable stage field table rows := by
  obtain ⟨⟨d, _⟩, _⟩ := table
  obtain ⟨⟨e, _⟩, _⟩ := other
  dsimp only at same
  subst same
  rfl

/-- A system is created alike from the same data. -/
theorem System.create_alike (clean : workspace.Clean) (before_clean : before.Clean)
    {types positions cell pbc types' positions' cell' pbc' : Tensor}
    (types_same : types.Same types') (positions_same : positions'.data = positions.data)
    (cell_same : cell'.data = cell.data) (pbc_same : pbc'.data = pbc.data)
    (home : types.device = .cpu) :
    Alike System.Twins ((create types positions cell pbc).exec workspace)
      ((create types' positions' cell' pbc').exec before) := by
  have reaches : types.data.device.Reaches (none.getD types.data.device) := fun gone => gone
  rw [create, create]
  simp only [Tensor.device, Tensor.dim, Tensor.dtype, types_same.data, positions_same, cell_same,
    pbc_same]
  refine .check Iff.rfl fun _ => .check Iff.rfl fun _ => .check Iff.rfl fun _ => ?_
  refine ((Tensor.transfer_alike clean before_clean types_same (some .int32) none).adapt _).bind ?_
  rintro made other one two ⟨same, held⟩ one_clean two_clean
  have rows : other.size 0 = made.size 0 := congrArg (fun d : Dense => d.size 0) same.data
  rw [rows]
  refine (Alike.computation one_clean two_clean (checkTable_congr positions_same)).bind ?_
  rintro _ _ three four _ three_clean four_clean
  refine .check Iff.rfl fun _ => ?_
  refine (Alike.computation three_clean four_clean (checkTable_congr cell_same)).bind ?_
  rintro _ _ five six _ five_clean six_clean
  simp only [Tensor.size, pbc_same]
  refine .check Iff.rfl fun _ => .check Iff.rfl fun _ => .check Iff.rfl fun _ => ?_
  refine .check Iff.rfl fun _ => ?_
  refine (Alike.computation five_clean six_clean rfl).bind ?_
  rintro _ _ seven eight _ seven_clean eight_clean
  refine .value seven_clean eight_clean ⟨fun field => ?_, ⟨rfl, rfl⟩, ?_⟩
  · cases field with
    | types => exact same.data
    | positions => exact positions_same
    | cell => exact cell_same
    | pbc => exact pbc_same
  · rw [device, Tensor.device, held, (types_same.valid.recast_kind reaches).2.2]
    exact home

namespace Document

/-- The part of a document for a system that comes before its neighbor lists. -/
def bareOfJson (value : Json) : Session Error System := do
  let fields ← Session.ofExcept (ofClass value systemClass)
  let positions ← systemTensor fields "positions"
  let cell ← systemTensor fields "cell"
  let types ← systemTensor fields "types"
  let pbc ← systemTensor fields "pbc"
  let pbc ← pbc.transfer (some .bool) none
  System.create types positions cell pbc

/-- The neighbor lists of a document are attached to what the rest of it gives. -/
theorem systemOfJson_listed {value : Json} {entries : List Json}
    (listed : value.get? "neighbor_lists" = some (.array entries)) :
    systemOfJson value = bareOfJson value >>= entries.foldlM attachEntry := by
  rw [systemOfJson, bareOfJson]
  cases classed : ofClass value systemClass with
  | error fault => rfl
  | ok fields =>
      have whole := of_ofClass classed
      subst whole
      have found : Registry.find? fields "neighbor_lists" = some (.array entries) := listed
      have known {α : Type} (next : List (String × Json) → Session Error α) :
          (Session.ofExcept (.ok fields) >>= next) = next fields := rfl
      simp only [known, bind_assoc, found, Json.array?]

/-- A tensor of a document is read alike wherever the document holds the same for it. -/
theorem systemTensor_alike (clean : workspace.Clean) (before_clean : before.Clean)
    {fields others : List (String × Json)} {key : String}
    (same : Registry.find? others key = Registry.find? fields key) :
    Alike (fun made other => Tensor.Same made other ∧ made.device = .cpu)
      ((systemTensor fields key).exec workspace) ((systemTensor others key).exec before) := by
  have found : field others key systemClass = field fields key systemClass := by
    rw [field, field, same]
  rw [systemTensor, systemTensor]
  refine (Alike.computation clean before_clean found).bind ?_
  rintro value _ one two ⟨rfl, _⟩ one_clean two_clean
  refine (Alike.computation one_clean two_clean rfl).bind ?_
  rintro d _ three four ⟨rfl, read⟩ three_clean four_clean
  have created := @Tensor.create_alike three four three_clean four_clean _ (tensorOfJson_valid read)
    Error Error
  exact created.imp fun made other both =>
    ⟨both.1, (congrArg Dense.device both.2).trans (tensorOfJson_onCpu read)⟩

/-- Two documents for systems that are the same but for their neighbor lists. -/
structure SameRest (document other : Json) : Prop where
  objects : document.object?.isSome ∧ other.object?.isSome
  fields : ∀ key, key ≠ "neighbor_lists" → other.get? key = document.get? key

/-- The fields of two such documents, if both are of the class of systems. -/
theorem ofClass_alike (clean : workspace.Clean) (before_clean : before.Clean)
    {fields others : List (String × Json)}
    (name : Registry.find? others "class" = Registry.find? fields "class") :
    Alike (fun found again => found = fields ∧ again = others)
      ((Session.ofExcept (ofClass (.object fields) systemClass)).exec workspace)
      ((Session.ofExcept (ofClass (.object others) systemClass)).exec before) := by
  rw [ofClass, ofClass, Json.object?, Json.object?]
  dsimp only
  rw [name]
  cases (Registry.find? fields "class").bind Json.string? with
  | none => exact .failed _ _ _ _
  | some found =>
      dsimp only
      by_cases wanted : found = systemClass
      · rw [if_pos wanted, if_pos wanted]
        exact .succeeded ⟨rfl, rfl⟩ clean before_clean
      · rw [if_neg wanted, if_neg wanted]
        exact .failed _ _ _ _

/-- What comes before the neighbor lists is read alike. -/
theorem bareOfJson_alike (clean : workspace.Clean) (before_clean : before.Clean)
    {document other : Json} (rest : SameRest document other) :
    Alike System.Twins ((bareOfJson document).exec workspace) ((bareOfJson other).exec before) := by
  obtain ⟨⟨object, other_object⟩, same⟩ := rest
  obtain ⟨fields, held⟩ := Option.isSome_iff_exists.mp object
  obtain ⟨others, other_held⟩ := Option.isSome_iff_exists.mp other_object
  have whole {value : Json} {fields : List (String × Json)} (held : value.object? = some fields) :
      value = .object fields := by
    cases value with
    | object => exact congrArg Json.object (Option.some.inj held)
    | _ => cases held
  cases whole held
  cases whole other_held
  have same (key : String) (apart : key ≠ "neighbor_lists") :
      Registry.find? others key = Registry.find? fields key := same key apart
  rw [bareOfJson, bareOfJson]
  refine (ofClass_alike clean before_clean (same "class" (by decide))).bind ?_
  rintro _ _ one two ⟨rfl, rfl⟩ one_clean two_clean
  refine (systemTensor_alike one_clean two_clean (same "positions" (by decide))).bind ?_
  rintro positions positions' three four ⟨positions_same, _⟩ three_clean four_clean
  refine (systemTensor_alike three_clean four_clean (same "cell" (by decide))).bind ?_
  rintro cell cell' five six ⟨cell_same, _⟩ five_clean six_clean
  refine (systemTensor_alike five_clean six_clean (same "types" (by decide))).bind ?_
  rintro types types' seven eight ⟨types_same, home⟩ seven_clean eight_clean
  refine (systemTensor_alike seven_clean eight_clean (same "pbc" (by decide))).bind ?_
  rintro raw raw' nine ten ⟨raw_same, _⟩ nine_clean ten_clean
  refine ((Tensor.transfer_alike nine_clean ten_clean raw_same _ _).adapt _).bind ?_
  rintro pbc pbc' last final ⟨pbc_same, _⟩ last_clean final_clean
  exact System.create_alike last_clean final_clean types_same positions_same.data cell_same.data
    pbc_same.data home

/-! ### The lists -/

/-- Entries that can be attached one after another to a system with an element type and without
lists, and what they say. -/
structure Attachable (dtype : DType) (entries : List Json)
    (said : List (NeighborListOptions × PairData)) : Prop where
  listings : List.Forall₂ (Listing dtype) entries said
  distinct : Registry.Distinct said

private theorem Attachable.unique {dtype : DType} {entries : List Json}
    {said again : List (NeighborListOptions × PairData)}
    (attachable : Attachable dtype entries said) (also : Attachable dtype entries again) :
    said = again := by
  have unique : Relator.RightUnique (Listing dtype) := fun _ _ _ first second => first.unique second
  exact List.right_unique_forall₂' unique attachable.listings also.listings

/-- Entries in another order say the same in another order. -/
theorem Attachable.perm {dtype : DType} {entries turned : List Json}
    {said : List (NeighborListOptions × PairData)} (attachable : Attachable dtype entries said)
    (perm : turned.Perm entries) : ∃ again, Attachable dtype turned again ∧ again.Perm said := by
  obtain ⟨again, listings, moved⟩ := List.perm_comp_forall₂ perm attachable.listings
  exact ⟨again, ⟨listings, attachable.distinct.perm moved⟩, moved⟩

/-- What the entries of a document come to, after the rest of it gave a system. -/
theorem attachAll_bare (clean : workspace.Clean) {bare : System} (home : bare.device = .cpu)
    (none : bare.neighborLists = []) (entries : List Json) :
    (entries.foldlM attachEntry bare).Decides Cleanly (∃ said, Attachable bare.dtype entries said)
      workspace fun made _ => made.get = bare.get ∧
        ∃ said, Attachable bare.dtype entries said ∧ Holds made (Registry.ofList said) := by
  have holds : Holds bare [] := by
    rw [Holds, none]
    exact .nil
  have decided := attachAll_attaches entries clean home holds
  simp only [Registry.fresh_nil] at decided
  refine (decided.congr ?_).cleanly.weaken ?_
  · exact exists_congr fun said =>
      ⟨fun all => ⟨all.listings, all.distinct⟩, fun all => ⟨all.1, all.2⟩⟩
  · rintro made after _ ⟨same, said, listings, distinct, held⟩
    exact ⟨same, said, ⟨listings, distinct⟩, held⟩

/-- Two systems that hold the same data, and the lists that the same entries tell of. -/
structure Agree (entries : List Json) (system other : System) : Prop where
  fields : ∀ field, (other.get field).data = (system.get field).data
  lists : ∃ stored, Holds system stored ∧ Holds other stored ∧
    ∀ said ∈ stored, ∃ entry ∈ entries, entryData entry = .ok said

/-- **Documents with the same entries in another order are read alike.** -/
theorem systemOfJson_alike (clean : workspace.Clean) (before_clean : before.Clean)
    {document other : Json} (rest : SameRest document other) {entries turned : List Json}
    (listed : document.get? "neighbor_lists" = some (.array entries))
    (other_listed : other.get? "neighbor_lists" = some (.array turned))
    (perm : turned.Perm entries) :
    Alike (Agree entries) ((systemOfJson document).exec workspace)
      ((systemOfJson other).exec before) := by
  rw [systemOfJson_listed listed, systemOfJson_listed other_listed]
  refine (bareOfJson_alike clean before_clean rest).bind ?_
  rintro bare twin middle last ⟨fields, ⟨none, twin_none⟩, home⟩ middle_clean last_clean
  have dtype : twin.dtype = bare.dtype := congrArg Dense.dtype (fields .positions)
  have twin_home : twin.device = .cpu := (congrArg Dense.device (fields .types)).trans home
  have first := attachAll_bare middle_clean home none entries
  have second := attachAll_bare last_clean twin_home twin_none turned
  rw [dtype] at second
  have conditions : (∃ said, Attachable bare.dtype entries said) ↔
      ∃ said, Attachable bare.dtype turned said := by
    constructor
    · rintro ⟨said, attachable⟩
      obtain ⟨again, moved, _⟩ := attachable.perm perm
      exact ⟨again, moved⟩
    · rintro ⟨said, attachable⟩
      obtain ⟨again, moved, _⟩ := attachable.perm perm.symm
      exact ⟨again, moved⟩
  refine .of_decides middle_clean last_clean first (second.congr conditions) ?_
  rintro _ system made _ _ ⟨system_get, said, attachable, holds⟩
    ⟨made_get, again, moved, made_holds⟩
  refine ⟨fun field => ?_, Registry.ofList said, holds, ?_, fun one member => ?_⟩
  · rw [system_get, made_get]
    exact fields field
  · obtain ⟨others, turned_attachable, others_perm⟩ := attachable.perm perm
    cases moved.unique turned_attachable
    rw [← Registry.ofList_eq_of_perm attachable.distinct others_perm]
    exact made_holds
  · have present := (Registry.ofList_perm attachable.distinct).mem_iff.mp member
    obtain ⟨entry, listed_there, listing⟩ := exists_of_forall₂ attachable.listings one present
    exact ⟨entry, listed_there, listing.read⟩

private theorem object_of_get? {document part : Json} {key : String}
    (found : document.get? key = some part) : document.object?.isSome := by
  cases document with
  | object => rfl
  | _ => cases found

/-- The neighbor lists of a document, in place of those that it has. -/
def withLists (document : Json) (entries : List Json) : Json :=
  match document with
  | .object fields => .object (Registry.insert "neighbor_lists" (.array entries) fields)
  | other => other

private theorem withLists_rest {document : Json} (object : document.object?.isSome)
    (entries : List Json) :
    SameRest document (withLists document entries) ∧
      (withLists document entries).get? "neighbor_lists" = some (.array entries) := by
  cases document with
  | object fields =>
      have found (key : String) : (withLists (.object fields) entries).get? key =
          if compare key "neighbor_lists" = .eq then some (.array entries)
          else Registry.find? fields key := Registry.find?_insert _ _ _ _
      refine ⟨⟨⟨rfl, rfl⟩, fun key apart => ?_⟩, ?_⟩
      · rw [found, if_neg fun same => apart (Std.LawfulEqCmp.eq_of_compare same)]
        rfl
      · rw [found, if_pos Std.ReflCmp.compare_self]
  | _ => cases object

/-- A document can be written with other lists if these can be written. -/
theorem withLists_writable {document : Json} {depth : Nat} (written : document.Writable (depth + 2))
    {entries : List Json} (fine : ∀ entry ∈ entries, entry.Writable depth) :
    (withLists document entries).Writable (depth + 2) := by
  cases written with
  | object sorted members =>
      refine .object (sorted.insert _ _) fun field present => ?_
      exact (@Registry.forall_insert _ _ _ (fun _ => True) _ "neighbor_lists" _ _ trivial
        (.array fine) (fun field member => ⟨trivial, members field member⟩) field present).2
  | null => exact .null
  | bool => exact .bool _
  | integer least greatest => exact .integer least greatest
  | real finite => exact .real finite
  | string => exact .string _
  | array members => exact .array members

/-- The options that an entry is for. -/
def Names (entry : Json) (options : NeighborListOptions) : Prop :=
  ∃ part, entry.get? "options" = some part ∧ optionsOfJson part = .ok options

/-- Two entries that are for different lists. -/
def Apart (entry other : Json) : Prop :=
  ∀ options others, Names entry options → Names other others → options.sameList others = false

private theorem Listing.names {dtype : DType} {entry : Json} {said : NeighborListOptions × PairData}
    (listing : Listing dtype entry said) {options : NeighborListOptions} :
    Names entry options ↔ options = said.1 := by
  obtain ⟨part, _, found, read, _⟩ := of_entryData listing.read
  constructor
  · rintro ⟨again, there, reread⟩
    cases found.symm.trans there
    exact Except.ok.inj (reread.symm.trans read)
  · rintro rfl
    exact ⟨part, found, read⟩

/-- Every entry says something exactly if they do so together. -/
theorem exists_forall₂_iff {α β : Type} {related : α → β → Prop} {items : List α} :
    (∃ others, List.Forall₂ related items others) ↔
      ∀ item ∈ items, ∃ other, related item other := by
  induction items with
  | nil => exact iff_of_true ⟨[], .nil⟩ (List.forall_mem_nil _)
  | cons item rest ih =>
      rw [List.forall_mem_cons, ← ih]
      constructor
      · rintro ⟨_, _ | ⟨first, later⟩⟩
        exact ⟨⟨_, first⟩, _, later⟩
      · rintro ⟨⟨other, first⟩, others, later⟩
        exact ⟨other :: others, .cons first later⟩

/-- Entries are for different lists exactly if what they say is. -/
theorem apart_iff {dtype : DType} {entries : List Json}
    {said : List (NeighborListOptions × PairData)}
    (listings : List.Forall₂ (Listing dtype) entries said) :
    entries.Pairwise Apart ↔ Registry.Distinct said := by
  induction listings with
  | nil => exact iff_of_true .nil .nil
  | @cons entry one rest others listing listings ih =>
      have two {other : Json} {second : NeighborListOptions × PairData}
          (also : Listing dtype other second) : Apart entry other ↔
            compare one.1 second.1 ≠ .eq := by
        simp only [Apart, listing.names, also.names, forall_eq_apply_imp_iff, forall_eq,
          ne_eq, NeighborListOptions.compare_eq_iff, Bool.not_eq_true]
      rw [List.pairwise_cons, Registry.Distinct, List.pairwise_cons, ih]
      refine and_congr_left fun _ => ⟨fun all second member => ?_, fun all other member => ?_⟩
      · obtain ⟨other, present, also⟩ := exists_of_forall₂ listings second member
        exact (two also).mp (all other present)
      · obtain ⟨second, present, also⟩ := exists_of_forall₂ listings.flip other member
        exact (two also).mpr (all second present)

/-- Entries can be attached together exactly if each of them can be and no two are for the same
list. -/
theorem attachable_iff {dtype : DType} {entries : List Json} :
    (∃ said, Attachable dtype entries said) ↔
      (∀ entry ∈ entries, ∃ said, Attachable dtype [entry] said) ∧ entries.Pairwise Apart := by
  have single (entry : Json) : (∃ said, Attachable dtype [entry] said) ↔
      ∃ one, Listing dtype entry one := by
    constructor
    · rintro ⟨_, _ | ⟨listing, _⟩, _⟩
      exact ⟨_, listing⟩
    · rintro ⟨one, listing⟩
      exact ⟨[one], .cons listing .nil, List.pairwise_singleton _ _⟩
  simp only [single, ← exists_forall₂_iff]
  constructor
  · rintro ⟨said, listings, distinct⟩
    exact ⟨⟨said, listings⟩, (apart_iff listings).mpr distinct⟩
  · rintro ⟨⟨said, listings⟩, apart⟩
    exact ⟨said, listings, (apart_iff listings).mp apart⟩

/-- A system is read from a document. -/
def Accepted (workspace : Workspace) (document : Json) : Prop :=
  ∃ system after, (systemOfJson document).exec workspace = (.ok system, after)

/-- Whatever lists a document is given, the rest of it is read as it is. -/
theorem accepted_iff (clean : workspace.Clean) {document other : Json}
    (rest : SameRest document other) {entries : List Json}
    (listed : other.get? "neighbor_lists" = some (.array entries)) :
    Accepted workspace other ↔
      ∃ bare middle, (bareOfJson document).exec workspace = (.ok bare, middle) ∧
        ∃ said, Attachable bare.dtype entries said := by
  rw [Accepted, systemOfJson_listed listed]
  refine (bareOfJson_alike clean clean rest).bind_success_iff ?_
  rintro bare twin last ⟨fields, ⟨_, none⟩, home⟩ last_clean
  have decided := attachAll_bare last_clean ((congrArg Dense.device (fields .types)).trans home)
    none entries
  rw [show twin.dtype = bare.dtype from congrArg Dense.dtype (fields .positions)] at decided
  exact decided.success_iff

/-- **A document is accepted exactly if it is without its lists and with each of its entries alone,
and if no two of the entries are for the same list.** -/
theorem accepted_apart_iff (clean : workspace.Clean) {document : Json} {entries : List Json}
    (listed : document.get? "neighbor_lists" = some (.array entries)) :
    Accepted workspace document ↔ Accepted workspace (withLists document []) ∧
      (∀ entry ∈ entries, Accepted workspace (withLists document [entry])) ∧
      entries.Pairwise Apart := by
  have object := object_of_get? listed
  have given (others : List Json) : Accepted workspace (withLists document others) ↔
        ∃ bare middle, (bareOfJson document).exec workspace = (.ok bare, middle) ∧
          ∃ said, Attachable bare.dtype others said :=
    accepted_iff clean (withLists_rest object others).1 (withLists_rest object others).2
  rw [accepted_iff clean ⟨⟨object, object⟩, fun _ _ => rfl⟩ listed, given]
  simp only [given]
  constructor
  · rintro ⟨bare, middle, ran, attachable⟩
    obtain ⟨each, apart⟩ := attachable_iff.mp attachable
    exact ⟨⟨bare, middle, ran, [], .nil, .nil⟩,
      fun entry listed => ⟨bare, middle, ran, each entry listed⟩, apart⟩
  · rintro ⟨⟨bare, middle, ran, _⟩, each, apart⟩
    refine ⟨bare, middle, ran, attachable_iff.mpr ⟨fun entry listed => ?_, apart⟩⟩
    obtain ⟨again, _, reran, attachable⟩ := each entry listed
    cases ran.symm.trans reran
    exact attachable

end Document

namespace System

open Document

/-- The tensors of two systems are the same bit by bit, their lists are equal and under the same
options in the same order, and the same text is stored for both. -/
structure Identical (system other : System) : Prop where
  fields : ∀ field, (other.get field).bitEqual (system.get field)
  options : other.knownNeighborLists = system.knownNeighborLists
  lists : List.Forall₂ (fun list again => again.equal list ∧ list.SameData again)
    (system.neighborLists.map Prod.snd) (other.neighborLists.map Prod.snd)
  text : ∃ written, system.toJson = .ok written ∧ other.toJson = .ok written

end System

namespace Document

/-- Two lists, under their options, that hold the same numbers. -/
structure Paired (entry again : NeighborListOptions × Block) : Prop where
  options : again.1 = entry.1
  tables : ∃ data : PairData, data.pairs.Numbers ∧ data.vectors.Numbers ∧
    NeighborList.Contents entry.2 data.pairs data.vectors ∧
    NeighborList.Contents again.2 data.pairs data.vectors

private theorem Agree.paired {entries : List Json} {system other : System}
    (agree : Agree entries system other) (inRange : ∀ entry ∈ entries, entry.InRange) :
    List.Forall₂ Paired system.neighborLists other.neighborLists := by
  obtain ⟨stored, holds, also, source⟩ := agree.lists
  have numbers : ∀ said ∈ stored, said.2.pairs.Numbers ∧ said.2.vectors.Numbers := by
    intro said member
    obtain ⟨entry, listed, read⟩ := source said member
    exact entryData_numbers (inRange entry listed) read
  have first := (List.forall₂_and_left _ _).mpr ⟨numbers, holds.flip⟩
  refine System.forall₂_of_both ?_ first also.flip
  rintro said entry again ⟨⟨pairs, vectors⟩, entry_options, contents⟩ ⟨again_options, others⟩
  exact ⟨again_options.symm.trans entry_options, said.2, pairs, vectors, contents, others⟩

/-- Systems that agree are identical. -/
theorem Agree.identical {entries : List Json} {system other : System}
    (agree : Agree entries system other) (inRange : ∀ entry ∈ entries, entry.InRange)
    {tape last : Tape} (decoded : system.Decoded tape) (holds : tape.Holds Dense.Valid)
    (also : other.Decoded last) (last_holds : last.Holds Dense.Valid) : system.Identical other := by
  have paired := agree.paired inRange
  refine ⟨fun field => ?_, map_eq_of_forall₂ paired fun _ _ both => both.options, ?_, ?_⟩
  · rw [Tensor.bitEqual, agree.fields field, Dense.bitEqual]
    exact beq_self_eq_true _
  · rw [List.forall₂_map_left_iff, List.forall₂_map_right_iff]
    refine paired.imp fun entry again both => ?_
    obtain ⟨data, pairs, vectors, contents, others⟩ := both.tables
    exact ⟨others.equal contents pairs vectors, contents.sameData others⟩
  · have present {system : System} {tape : Tape} (decoded : system.Decoded tape) :
        system.device ≠ .metadata := by
      rw [decoded.onCpu]
      decide
    have same : systemFields other = systemFields system := by
      refine systemFields_congr (fun field => congrArg Dense.onCpu (agree.fields field))
        (map_eq_of_forall₂ paired fun entry again both => ?_)
      obtain ⟨data, _, _, contents, others⟩ := both.tables
      rw [entryFields, entryFields, listFields, listFields, both.options, others.samples,
        others.values,
        contents.samples, contents.values]
    refine ⟨_, System.toJson_eq (decoded.toSound.storable holds (present decoded)), ?_⟩
    rw [System.toJson_eq (also.toSound.storable last_holds (present also)), same]

/-- Two documents that are the same but for the order of their neighbor lists. -/
structure Reordered (document other : Json) (entries : List Json) : Prop where
  fields : ∀ key, key ≠ "neighbor_lists" → other.get? key = document.get? key
  listed : document.get? "neighbor_lists" = some (.array entries)
  turned : ∃ turned, other.get? "neighbor_lists" = some (.array turned) ∧ turned.Perm entries

private theorem Reordered.rest {document other : Json} {entries : List Json}
    (reordered : Reordered document other entries) : SameRest document other := by
  obtain ⟨fields, listed, _, found, _⟩ := reordered
  exact ⟨⟨object_of_get? listed, object_of_get? found⟩, fields⟩

end Document

namespace System

open Document

/-- A text is read as its document. -/
theorem ofJson_exec {text : String} {document : Json} (parsed : parse text = .ok document)
    (workspace : Workspace) :
    (ofJson text).exec workspace = (systemOfJson document).exec workspace := by
  rw [ofJson, exec_bind, exec_ofExcept, parsed]

/-- **The order of the neighbor lists in a document does not matter.**  With its entries in
another order, a document is accepted exactly if it was accepted, and then the same system is
read.  A document is accepted exactly if it is without its lists and with each of the entries
alone, and if no two of them are for the same list. -/
theorem ofJson_lists_any_order {world other : World} (reachable : world.Reachable)
    (other_reachable : other.Reachable) {text turned : String} {document reordered : Json}
    (parsed : parse text = .ok document) (turned_parsed : parse turned = .ok reordered)
    {entries : List Json} (same : Reordered document reordered entries) :
    ((∃ system after, (ofJson text).exec world.workspace = (.ok system, after)) ↔
      ∃ made last, (ofJson turned).exec other.workspace = (.ok made, last)) ∧
    (∀ system after made last, (ofJson text).exec world.workspace = (.ok system, after) →
      (ofJson turned).exec other.workspace = (.ok made, last) → system.Identical made) ∧
    ((∃ system after, (ofJson text).exec world.workspace = (.ok system, after)) ↔
      Accepted world.workspace (withLists document []) ∧
      (∀ entry ∈ entries, Accepted world.workspace (withLists document [entry])) ∧
      entries.Pairwise Apart) := by
  have sound := reachable.sound
  have other_sound := other_reachable.sound
  have clean := clean_of_sound sound.tape
  obtain ⟨others, other_listed, perm⟩ := same.turned
  have alike := systemOfJson_alike clean (clean_of_sound other_sound.tape) same.rest same.listed
    other_listed perm
  rw [← ofJson_exec parsed, ← ofJson_exec turned_parsed] at alike
  refine ⟨alike.success_iff, fun system after made last read reread => ?_, ?_⟩
  · rw [read, reread] at alike
    obtain ⟨moved, decoded, _⟩ := (ofJson_decoded text).of_success read
    obtain ⟨made_moved, made_decoded, _⟩ := (ofJson_decoded turned).of_success reread
    have inRange : document.InRange := by
      rw [parse] at parsed
      split at parsed
      next accepted =>
        cases parsed
        exact Json.lawful.inRange accepted
      next => cases parsed
    exact alike.of_success.1.identical (inRange.get? same.listed).items decoded
      (moved.holds sound.holds) made_decoded (made_moved.holds other_sound.holds)
  · rw [ofJson_exec parsed]
    exact accepted_apart_iff clean same.listed

end System

namespace Document

namespace Twice

/-- An entry for the pair of an atom with itself, a step apart on the first axis. -/
def entry (options : NeighborListOptions) : Json :=
  .object
    [ ("data", .object
        [ ("samples", Bonded.tensor .int32 [1, 5] [0, 0, 1, 0, 0]),
          ("values", Bonded.tensor .float32 [1, 3, 1] [1, 0, 0]) ]),
      ("options", optionsToJson options) ]

/-- The document of an atom and its neighbor lists. -/
def document (entries : List Json) : Json :=
  withLists (Bonded.document .int32 1 [0, 0, 1, 0, 0]) entries

/-- The entry of a half list. -/
def half : Json := entry { cutoff := .one, fullList := false }

/-- The entry of a full list. -/
def full : Json := entry { cutoff := .one, fullList := true }

private theorem entry_writable (options : NeighborListOptions) : (entry options).Writable 125 := by
  refine .object ?_ ?_
  · simp only [Registry.Sorted, List.pairwise_cons, List.forall_mem_cons]
    exact ⟨⟨by decide, List.forall_mem_nil _⟩, List.forall_mem_nil _, .nil⟩
  · simp only [List.forall_mem_cons]
    refine ⟨.object ?_ ?_, optionsToJson_writable _ _, List.forall_mem_nil _⟩
    · simp only [Registry.Sorted, List.pairwise_cons, List.forall_mem_cons]
      exact ⟨⟨by decide, List.forall_mem_nil _⟩, List.forall_mem_nil _, .nil⟩
    · simp only [List.forall_mem_cons]
      exact ⟨Bonded.tensor_writable _ (by decide) (by decide),
        Bonded.tensor_writable _ (by decide) (by decide), List.forall_mem_nil _⟩

private theorem entries_writable : ∀ item ∈ [full, half], item.Writable 125 := by
  simp only [List.forall_mem_cons]
  exact ⟨entry_writable _, entry_writable _, List.forall_mem_nil _⟩

private theorem parse_eq {entries : List Json} (perm : entries.Perm [full, half]) :
    parse (document entries).dump = .ok (document entries) := by
  have bonded := @Bonded.document_writable .int32 1 [0, 0, 1, 0, 0] (by decide) (by decide)
  have fine : ∀ item ∈ entries, item.Writable 125 := fun item member =>
    entries_writable item (perm.subset member)
  rw [parse, document, Json.lawful.reads (withLists_writable bonded fine)]

/-- The text of the document is accepted if something can be seen of the system in the document. -/
theorem read {α : Type} (look : System → α) {seen : α}
    (found : ((systemOfJson (document [full, half])).exec {}).1.toOption.map look = some seen) :
    ∃ system after, (System.ofJson (document [full, half]).dump).exec {} = (.ok system, after) ∧
      look system = seen := by
  rw [System.ofJson_exec (parse_eq (.refl _))]
  rcases ran : (systemOfJson (document [full, half])).exec {} with ⟨_ | system, after⟩
  · rw [ran] at found
    cases found
  · rw [ran] at found
    exact ⟨system, after, rfl, Option.some.inj found⟩

end Twice

end Document

namespace System

open Document

/-- A full and a half list of the same pair, in both orders. -/
theorem ofJson_lists_any_order_twice : ∃ text turned system after made last,
    (ofJson text).exec {} = (.ok system, after) ∧ (ofJson turned).exec {} = (.ok made, last) ∧
    system.neighborLists.length = 2 ∧ system.Identical made := by
  have perm : [Twice.half, Twice.full].Perm [Twice.full, Twice.half] := .swap _ _ _
  have parsed := Twice.parse_eq (.refl _)
  have turned := Twice.parse_eq perm
  have given (entries : List Json) :=
    @withLists_rest (Bonded.document .int32 1 [0, 0, 1, 0, 0]) rfl entries
  have same : Reordered (Twice.document [Twice.full, Twice.half])
      (Twice.document [Twice.half, Twice.full]) [Twice.full, Twice.half] := by
    refine ⟨fun key apart => ?_, (given _).2, _, (given _).2, perm⟩
    exact ((given _).1.fields key apart).trans ((given _).1.fields key apart).symm
  obtain ⟨accepted, identical, _⟩ :=
    @ofJson_lists_any_order {} {} .refl .refl _ _ _ _ parsed turned _ same
  obtain ⟨system, after, read, count⟩ := Twice.read (fun system => system.neighborLists.length)
    (show _ = some 2 by decide +kernel)
  obtain ⟨made, last, reread⟩ := accepted.mp ⟨system, after, read⟩
  exact ⟨_, _, system, after, made, last, read, reread, count, identical _ _ _ _ read reread⟩

end System

end Atomistic
