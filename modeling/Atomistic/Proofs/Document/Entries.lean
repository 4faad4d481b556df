import Atomistic.Proofs.Document.ReadBack
import Atomistic.Proofs.Document.Sound
import Atomistic.Proofs.NeighborList.Assembly
import Atomistic.Proofs.System.Lists

/-!
# Entries of documents

What an entry of a document says about a neighbor list does not depend on the system that it is
attached to, nor on what was read before (`Atomistic.Document.entryData`).  An entry is attached
exactly if it can be read, its tables fit each other and the system, and there is no list with
equal options (`Atomistic.Document.attachEntry_attaches`); so entries are attached one after
another exactly if each of them fits and no two have equal options
(`Atomistic.Document.attachAll_attaches`).
-/

namespace Atomistic

open Session Workspace

variable {workspace : Workspace}

/-- A neighbor list is added exactly if the system accepts it and has none with equal
options. -/
theorem System.addNeighborList_adds {system : System} (options : NeighborListOptions)
    (list : Block) : (system.addNeighborList options list).Decides Grows
      (system.Accepts list ∧ Registry.contains system.neighborLists options = false) workspace
      fun made _ => made = { system with
        neighborLists := Registry.insert options list system.neighborLists } := by
  have inserts := @addNeighborList_inserts workspace system options list
  rcases ran : (system.addNeighborList options list).exec workspace with ⟨fault | made, after⟩
  · refine .refuses ran ?_
    rintro ⟨accepts, absent⟩
    obtain ⟨last, added, _⟩ := addNeighborList_exec accepts options workspace
    rw [ran, absent] at added
    cases added
  · obtain ⟨_, accepts, absent, same⟩ := inserts.of_success ran
    obtain ⟨last, added, tape⟩ := addNeighborList_exec accepts options workspace
    rw [absent, ran] at added
    cases added
    exact .gives ran ⟨accepts, absent⟩ ⟨by rw [tape], by rw [tape]⟩ same

/-- The tables of a neighbor list. -/
structure PairData where
  pairs : Dense
  vectors : Dense

/-- The tables have a row for each pair. -/
structure PairData.Fits (data : PairData) : Prop where
  pairs : data.pairs.shape = [data.pairs.size 0, 5]
  dtype : data.pairs.dtype = .int32
  vectors : data.vectors.shape = [data.pairs.size 0, 3, 1]

namespace Document

/-- The tables of a neighbor list from its fields. -/
def pairData (fields : List (String × Json)) : Except Error PairData := do
  let what := "neighbor list block"
  let samples ← field fields "samples" what
  let pairs ← tensorOfJson samples
  let values ← field fields "values" what
  let vectors ← tensorOfJson values
  return ⟨pairs, vectors⟩

/-- What an entry says: the options and the tables of its neighbor list. -/
def entryData (value : Json) : Except Error (NeighborListOptions × PairData) := do
  let what := "neighbor list"
  let some options := (value.get? "options").filter fun options => options.object?.isSome
    | throw (.keyMissing "options" what)
  let options ← optionsOfJson options
  let some fields := (value.get? "data").bind Json.object? | throw (.keyMissing "data" what)
  return (options, ← pairData fields)

/-- What was read as the pairs of a list was stored under their two names. -/
theorem of_pairData {fields : List (String × Json)} {data : PairData}
    (read : pairData fields = .ok data) : ∃ samples values,
      Registry.find? fields "samples" = some samples ∧ tensorOfJson samples = .ok data.pairs ∧
      Registry.find? fields "values" = some values ∧ tensorOfJson values = .ok data.vectors := by
  obtain ⟨samples, samples_found, read⟩ := ok_of_bind read
  obtain ⟨_, pairs, read⟩ := ok_of_bind read
  obtain ⟨values, values_found, read⟩ := ok_of_bind read
  obtain ⟨_, vectors, read⟩ := ok_of_bind read
  cases read
  exact ⟨samples, values, of_field samples_found, pairs, of_field values_found, vectors⟩

/-- What was read as the entry of a list was stored under the names of its parts. -/
theorem of_entryData {entry : Json} {said : NeighborListOptions × PairData}
    (read : entryData entry = .ok said) : ∃ part fields,
      entry.get? "options" = some part ∧ optionsOfJson part = .ok said.1 ∧
      entry.get? "data" = some (.object fields) ∧ pairData fields = .ok said.2 := by
  rw [entryData] at read
  split at read
  next part found =>
    obtain ⟨options, options_read, read⟩ := ok_of_bind read
    split at read
    next fields stored =>
      obtain ⟨data, tables, read⟩ := ok_of_bind read
      cases read
      obtain ⟨inner, inner_found, object⟩ := Option.bind_eq_some_iff.mp stored
      cases inner with
      | object =>
          cases object
          exact ⟨part, fields, (Option.filter_eq_some_iff.mp found).1, options_read, inner_found,
            tables⟩
      | _ => cases object
    next => cases read
  next => cases read

private theorem pairData_onCpu {fields : List (String × Json)} {data : PairData}
    (read : pairData fields = .ok data) :
    data.pairs.device = .cpu ∧ data.vectors.device = .cpu := by
  obtain ⟨_, _, _, pairs, _, vectors⟩ := of_pairData read
  exact ⟨tensorOfJson_onCpu pairs, tensorOfJson_onCpu vectors⟩

/-- What an entry of a text says is numbers. -/
theorem entryData_numbers {entry : Json} (inRange : entry.InRange)
    {said : NeighborListOptions × PairData} (read : entryData entry = .ok said) :
    said.2.pairs.Numbers ∧ said.2.vectors.Numbers := by
  obtain ⟨_, fields, _, _, found, tables⟩ := of_entryData read
  obtain ⟨_, _, samples_found, pairs, values_found, vectors⟩ := of_pairData tables
  have inside := inRange.get? found
  exact ⟨tensorOfJson_numbers (inside.get? samples_found) pairs,
    tensorOfJson_numbers (inside.get? values_found) vectors⟩

/-- Tables that were read onto the CPU are tables of a neighbor list exactly if they fit. -/
theorem tables_iff {samples distances : Tensor} {data : PairData}
    (pairs : samples.data = data.pairs) (vectors : distances.data = data.vectors)
    (placed : data.pairs.device = .cpu ∧ data.vectors.device = .cpu) :
    NeighborList.Tables samples distances ↔ data.Fits := by
  have together : samples.device = distances.device := by
    rw [Tensor.device, Tensor.device, pairs, vectors, placed.1, placed.2]
  constructor
  · rintro ⟨shape, dtype, triples, _⟩
    rw [Tensor.shape, Tensor.size, pairs] at shape
    rw [Tensor.dtype, pairs] at dtype
    rw [Tensor.shape, Tensor.size, pairs, vectors] at triples
    exact ⟨shape, dtype, triples⟩
  · rintro ⟨shape, dtype, triples⟩
    refine ⟨?_, ?_, ?_, together⟩
    · rw [Tensor.shape, Tensor.size, pairs]
      exact shape
    · rw [Tensor.dtype, pairs]
      exact dtype
    · rw [Tensor.shape, Tensor.size, pairs, vectors]
      exact triples

/-- The tables make a neighbor list exactly if they fit each other. -/
theorem listOfJson_lists (clean : workspace.Clean) (fields : List (String × Json)) :
    (listOfJson fields).Decides Grows (∃ data, pairData fields = .ok data ∧ data.Fits) workspace
      fun made _ => ∃ data, pairData fields = .ok data ∧
        NeighborList.Contents made data.pairs data.vectors := by
  have steps : (∃ data, pairData fields = .ok data ∧ data.Fits) ↔
      ∃ samples, field fields "samples" "neighbor list block" = .ok samples ∧
      ∃ pairs, tensorOfJson samples = .ok pairs ∧
      ∃ values, field fields "values" "neighbor list block" = .ok values ∧
      ∃ vectors, tensorOfJson values = .ok vectors ∧ PairData.Fits ⟨pairs, vectors⟩ := by
    simp only [pairData, exists_ok_bind, pure, Except.pure, Except.ok.injEq, exists_eq_left']
  refine Decides.congr ?_ steps
  rw [listOfJson]
  refine .read fun samples samples_found => .read fun pairs pairs_read => ?_
  refine (create_decides clean pairs).ran.follow ?_
  rintro table one grown ⟨⟨table_held, _⟩, table_made⟩
  refine .read fun values values_found => .read fun vectors vectors_read => ?_
  have one_clean := grown.clean clean
  refine (create_decides one_clean vectors).ran.follow ?_
  rintro distances two further ⟨⟨distances_held, _⟩, distances_made⟩
  have table_known := ((Run.place_within fun _ => tensorOfJson_valid pairs_read).of_success
    table_made).2.1
  have extended := ((Run.place_within fun _ => tensorOfJson_valid vectors_read).of_success
    distances_made).1
  have read : pairData fields = .ok ⟨pairs, vectors⟩ := by
    rw [pairData, samples_found, ok_bind, pairs_read, ok_bind, values_found, ok_bind, vectors_read]
    rfl
  have placed := pairData_onCpu read
  have fits := @tables_iff table distances ⟨pairs, vectors⟩ table_held distances_held placed
  have assembled := @NeighborList.assemble_fits two (further.clean one_clean) table distances
    (extended.knows table_known)
  refine (assembled.congr fits.symm).weaken fun made after _ same => ⟨⟨pairs, vectors⟩, read, ?_⟩
  have present : distances.device ≠ .metadata := by
    rw [Tensor.device, distances_held, show vectors.device = .cpu from placed.2]
    decide
  rw [← table_held, ← distances_held]
  exact same.contents present

private theorem entryOfJson_lists (clean : workspace.Clean) (value : Json) :
    (entryOfJson value).Decides Grows (∃ said, entryData value = .ok said ∧ said.2.Fits) workspace
      fun made _ => ∃ said, entryData value = .ok said ∧ made.1 = said.1 ∧
        NeighborList.Contents made.2 said.2.pairs said.2.vectors := by
  rw [entryOfJson]
  split
  next options part =>
    have steps : (∃ said, entryData value = .ok said ∧ said.2.Fits) ↔
        ∃ named, optionsOfJson options = .ok named ∧
          ∃ fields, (value.get? "data").bind Json.object? = some fields ∧
            ∃ data, pairData fields = .ok data ∧ data.Fits := by
      rw [entryData, part]
      cases inner : (value.get? "data").bind Json.object? with
      | none => simp [exists_ok_bind, throw, throwThe, MonadExceptOf.throw]
      | some fields => simp [exists_ok_bind, pure, Except.pure]
    refine Decides.congr (.read fun named options_read => ?_) steps
    split
    next fields inner =>
      have only : (∃ others, (value.get? "data").bind Json.object? = some others ∧
          ∃ data, pairData others = .ok data ∧ data.Fits) ↔
            ∃ data, pairData fields = .ok data ∧ data.Fits := by
        rw [inner]
        simp only [Option.some.injEq, exists_eq_left']
      refine Decides.congr ?_ only
      apply (listOfJson_lists clean fields).settle
      rintro list after _ ⟨data, read, contents⟩
      refine .gives rfl trivial (.refl _) ⟨(named, data), ?_, rfl, contents⟩
      rw [entryData, part]
      simp [inner, options_read, read, ok_bind, pure, Except.pure]
    next absent =>
      refine .refuses (exec_throw _ _) ?_
      rintro ⟨fields, inner, _⟩
      exact absent fields inner
  next absent =>
    refine .refuses (exec_throw _ _) ?_
    rintro ⟨said, read, _⟩
    rw [entryData] at read
    split at read
    next options part => exact absent options part
    next => cases read

/-- An entry says something that fits together and has an element type. -/
structure Listing (dtype : DType) (entry : Json) (said : NeighborListOptions × PairData) :
    Prop where
  read : entryData entry = .ok said
  fits : said.2.Fits
  dtype : said.2.vectors.dtype = dtype

/-- An entry lists one thing only. -/
theorem Listing.unique {dtype other : DType} {entry : Json}
    {said again : NeighborListOptions × PairData} (listing : Listing dtype entry said)
    (also : Listing other entry again) : said = again :=
  Except.ok.inj (listing.read.symm.trans also.read)

private theorem entryData_onCpu {entry : Json} {said : NeighborListOptions × PairData}
    (read : entryData entry = .ok said) : said.2.vectors.device = .cpu := by
  obtain ⟨_, _, _, _, _, tables⟩ := of_entryData read
  exact (pairData_onCpu tables).2

/-- **An entry is attached exactly if it fits and there is no list with equal options.** -/
theorem attachEntry_attaches (clean : workspace.Clean) {system : System}
    (home : system.device = .cpu) (entry : Json) :
    (attachEntry system entry).Decides Grows (∃ said, Listing system.dtype entry said ∧
        Registry.contains system.neighborLists said.1 = false) workspace
      fun made _ => ∃ said list, Listing system.dtype entry said ∧
        NeighborList.Contents list said.2.pairs said.2.vectors ∧
        made = { system with
          neighborLists := Registry.insert said.1 list system.neighborLists } := by
  have decided := entryOfJson_lists clean entry
  rw [attachEntry]
  by_cases readable : ∃ said, entryData entry = .ok said ∧ said.2.Fits
  · obtain ⟨said, read, fits⟩ := readable
    have only (other : NeighborListOptions × PairData) (again : entryData entry = .ok other) :
        other = said := Except.ok.inj (again.symm.trans read)
    refine (decided.congr (iff_of_true trivial ⟨said, read, fits⟩)).follow ?_
    rintro ⟨options, list⟩ one grown ⟨other, again, options_same, contents⟩
    cases only other again
    dsimp only at options_same contents
    subst options_same
    refine (note_decides _ _ _).follow fun _ two _ _ => ?_
    have held : list.values.data = said.2.vectors := contents.values
    have placed := entryData_onCpu read
    have accepts : system.Accepts list ↔ said.2.vectors.dtype = system.dtype := by
      have type : list.values.dtype = said.2.vectors.dtype := congrArg Dense.dtype held
      refine ⟨fun accepted => type.symm.trans accepted.dtype, fun same =>
        ⟨contents.layout ?_, contents.plain, ?_, type.trans same⟩⟩
      · rw [placed]
        decide
      · rw [Tensor.device, held, placed, home]
    have conditions : (∃ other, Listing system.dtype entry other ∧
        Registry.contains system.neighborLists other.1 = false) ↔
          system.Accepts list ∧ Registry.contains system.neighborLists said.1 = false := by
      rw [accepts]
      constructor
      · rintro ⟨other, listing, absent⟩
        cases only other listing.read
        exact ⟨listing.dtype, absent⟩
      · exact fun both => ⟨said, ⟨read, fits, both.1⟩, both.2⟩
    rcases (system.addNeighborList_adds said.1 list).congr conditions with
      ⟨ran, holds, moved, same⟩ | ⟨ran, fails⟩
    · have dtype := accepts.mp (conditions.mp holds).1
      exact .gives ran holds moved ⟨said, list, ⟨read, fits, dtype⟩, contents, same⟩
    · exact .refuses ran fails
  · refine decided.stop readable ?_
    rintro ⟨said, listing, _⟩
    exact ⟨said, listing.read, listing.fits⟩

/-- A system holds the neighbor lists that a registry tells of, in the same order. -/
def Holds (system : System) (stored : List (NeighborListOptions × PairData)) : Prop :=
  List.Forall₂ (fun entry said => said.1 = entry.1 ∧
    NeighborList.Contents entry.2 said.2.pairs said.2.vectors) system.neighborLists stored

private theorem Holds.contains_eq {system : System} {stored : List (NeighborListOptions × PairData)}
    (holds : Holds system stored) (options : NeighborListOptions) :
    Registry.contains system.neighborLists options = Registry.contains stored options := by
  have found := @Registry.find?_rel _ _ _ _
    (fun list (data : PairData) => NeighborList.Contents list data.pairs data.vectors) _ _ holds
      options
  rw [Registry.contains, Registry.contains]
  revert found
  generalize Registry.find? system.neighborLists options = first
  generalize Registry.find? stored options = second
  rintro (_ | _) <;> rfl

private theorem Holds.insert {system : System} {stored : List (NeighborListOptions × PairData)}
    (holds : Holds system stored) (options : NeighborListOptions) {list : Block} {data : PairData}
    (contents : NeighborList.Contents list data.pairs data.vectors) :
    Holds { system with neighborLists := Registry.insert options list system.neighborLists }
      (Registry.insert options data stored) :=
  @Registry.insert_rel _ _ _ _
    (fun list (data : PairData) => NeighborList.Contents list data.pairs data.vectors) _ _ holds
      options
    _ _ contents

/-- **Entries are attached one after another exactly if each of them fits and no two have equal
options**, and then the system holds what they say in the order of the options. -/
theorem attachAll_attaches (entries : List Json) : ∀ {workspace : Workspace} {system : System}
    {stored : List (NeighborListOptions × PairData)}, workspace.Clean → system.device = .cpu →
    Holds system stored →
    (entries.foldlM attachEntry system).Decides Grows
      (∃ said, List.Forall₂ (Listing system.dtype) entries said ∧ Registry.Fresh stored said)
        workspace
      fun made _ => made.get = system.get ∧ ∃ said,
          List.Forall₂ (Listing system.dtype) entries said ∧
        Registry.Fresh stored said ∧
        Holds made (said.foldl (fun registry new => Registry.insert new.1 new.2 registry)
          stored) := by
  induction entries with
  | nil =>
      intro workspace system stored _ _ holds
      have none : List.Forall₂ (Listing system.dtype) [] [] ∧ Registry.Fresh stored [] :=
        ⟨.nil, .nil, List.forall_mem_nil _⟩
      exact .gives rfl ⟨[], none⟩ (.refl _) ⟨rfl, [], none.1, none.2, holds⟩
  | cons entry rest ih =>
      intro workspace system stored clean home holds
      have decided := attachEntry_attaches clean home entry
      rw [List.foldlM_cons]
      by_cases attachable : ∃ said, Listing system.dtype entry said ∧
          Registry.contains system.neighborLists said.1 = false
      · obtain ⟨said, listing, absent⟩ := attachable
        refine (decided.congr (iff_of_true trivial ⟨said, listing, absent⟩)).follow ?_
        rintro made one grown ⟨other, list, again, contents, rfl⟩
        cases listing.unique again
        have later := @ih one { system with
          neighborLists := Registry.insert said.1 list system.neighborLists } _
            (grown.clean clean) home
          (holds.insert said.1 contents)
        rw [holds.contains_eq] at absent
        refine (later.congr ⟨?_, ?_⟩).weaken ?_
        · rintro ⟨_, _ | ⟨first, others⟩, fresh⟩
          cases listing.unique first
          exact ⟨_, others, (Registry.fresh_cons.mp fresh).2⟩
        · rintro ⟨others, listings, fresh⟩
          exact ⟨said :: others, .cons listing listings, Registry.fresh_cons.mpr ⟨absent, fresh⟩⟩
        · rintro made last _ ⟨same, others, listings, fresh, held⟩
          exact ⟨same.trans (system.get_neighborLists _), said :: others, .cons listing listings,
            Registry.fresh_cons.mpr ⟨absent, fresh⟩, held⟩
      · refine decided.stop attachable ?_
        rintro ⟨_, _ | ⟨first, _⟩, fresh⟩
        refine ⟨_, first, ?_⟩
        rw [holds.contains_eq]
        exact (Registry.fresh_cons.mp fresh).1

end Document

end Atomistic
