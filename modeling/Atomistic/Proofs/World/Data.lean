import Atomistic.Proofs.System.Data
import Atomistic.Proofs.World.Lists

/-!
# Custom data over whole runs

The custom data of a system is a map from names, as they are spelled, to blocks.  Whatever
happened to a system since it was made, the names that were added successfully are known, each
gives the block that was added last, and a call that fails changes nothing
(`Atomistic.System.customData_filed`).
-/

namespace Atomistic

namespace System

variable {system : System} {name : String} {block : Block} {overwrite : Bool} {events : List Event}

/-- A system whose custom data is what was stored last under each name since it was made. -/
structure Filed (system : System) (events : List Event) : Prop where
  adds : ∀ name block overwrite, (∃ made, system.addData name block overwrite = .ok made) ↔
    system.AcceptsData name block overwrite
  keeps : ∀ name block overwrite fault left,
    (attachData name block overwrite).run.run system = (.error fault, left) →
      left = system ∧ ∀ changes workspace,
        Held.call ⟨system, changes⟩ (.addData name block overwrite) workspace =
          (⟨system, changes⟩, workspace)
  finds : ∀ name, (∃ found, system.getData name = .ok found) ↔ Stores events name
  gives : ∀ name found, system.getData name = .ok found → ∃ block conversions,
    lastStored name events = some (block, conversions) ∧ Became conversions block found
  known : ∀ name, name ∈ system.knownData ↔ Stores events name
  increasing : system.knownData.Pairwise (· < ·)

private theorem getData_ok_iff {found : Block} : system.getData name = .ok found ↔
    checkReserved name = .ok () ∧ Registry.find? system.data name = some found := by
  rw [getData]
  cases checkReserved name with
  | error fault => simp [bind, Except.bind]
  | ok =>
      rw [ok_bind]
      cases Registry.find? system.data name with
      | none => simp [throw, throwThe, MonadExceptOf.throw]
      | some block => simp [pure, Except.pure]

/-- A call that fails to add data leaves what is held and the workspace as they are. -/
theorem addData_fails {fault : Error} {left : System}
    (failed : (attachData name block overwrite).run.run system = (.error fault, left)) :
    left = system ∧ ∀ changes workspace,
      Held.call ⟨system, changes⟩ (.addData name block overwrite) workspace =
        (⟨system, changes⟩, workspace) := by
  have ran (workspace : Workspace) : (Change.addData name block overwrite).apply.exec system
      workspace = ((.error fault, left), workspace) := by
    rw [Change.apply, InPlace.exec_inSession, failed]
  exact ⟨(Change.fails _ (ran {})).1,
    fun changes workspace => (Change.fails _ (ran workspace)).2.2 changes⟩

/-- **The custom data of a system is a guarded map** from names to what was stored last. -/
theorem Traced.filed (traced : system.Traced events) : system.Filed events := by
  obtain ⟨sorted, stored⟩ := traced.files
  have present (name : String) : (∃ found, Registry.find? system.data name = some found) ↔
      Stores events name := by
    rw [← lastStored_iff, ← Option.isSome_iff_exists]
    have last := stored name
    generalize lastStored name events = kept, Registry.find? system.data name = found at last ⊢
    cases last <;> simp
  refine
    { adds := fun name block overwrite => ?_
      keeps := fun name block overwrite fault left failed => addData_fails failed
      finds := fun name => ?_
      gives := fun name found got => ?_
      known := fun name => ?_
      increasing := ?_ }
  · simp only [addData_ok_iff, exists_and_left, exists_eq, and_true]
  · simp only [getData_ok_iff, exists_and_left, present]
    exact and_iff_right_of_imp traced.free
  · have last := stored name
    rw [(getData_ok_iff.mp got).2] at last
    generalize lastStored name events = kept at last ⊢
    cases last with
    | @some stored _ became => exact ⟨stored.1, stored.2, rfl, became⟩
  · rw [← contains_data, Registry.contains, Option.isSome_iff_exists, present]
  · refine ((Registry.sorted_iff_keys _).mp sorted).imp fun before => ?_
    exact compareOfLessAndEq_eq_lt.mp before

/-- **Custom data is a guarded map.**  Every system at hand has a history, whatever led to it.
A system with any history accepts data exactly under the names that are allowed, replaces it only
on request, finds exactly what was added last under each name, cast and moved as the system was
since, and lists exactly these names, in order; a call that fails changes nothing. -/
theorem customData_filed :
    (∀ world : World, world.Reachable → ∀ system ∈ world.systems,
      ∃ events, system.Traced events) ∧
    ∀ system events, Traced system events → system.Filed events :=
  ⟨fun _ reachable => traced_of_reachable reachable, fun _ _ traced => traced.filed⟩

end System

namespace World.Alone

/-- Data under two names that differ in their case; the first of them is replaced, and the system
is cast afterwards. -/
def recorded : List System.Event :=
  [ .converted (some .float32) none, .changed (.addData "Charges" list true),
    .changed (.addData "charges" list false), .changed (.addData "Charges" list false) ]

private theorem recorded_traced : ∃ charged, System.Traced charged recorded := by
  have created : system.Traced [] :=
    @System.Traced.created (tensor 0) (tensor 1) (tensor 2) (tensor 3) made.workspace _ _ rfl
  have first := @System.Traced.changed _ { system with data := [("Charges", list)] } _ created
    (.addData "Charges" list false) attached.workspace _ rfl
  have second := @System.Traced.changed _
    { system with data := [("Charges", list), ("charges", list)] } _ first
    (.addData "charges" list false) attached.workspace _ rfl
  have replaced := @System.Traced.changed _
    { system with data := [("Charges", list), ("charges", list)] } _ second
    (.addData "Charges" list true) attached.workspace _ rfl
  exact ⟨_, @System.Traced.converted _ _ _ replaced (some .float32) none attached.workspace _ rfl⟩

/-- Two names that differ in their case are two names, and a name that is reserved stays so. -/
theorem customData_filed_recorded : attached.Reachable ∧ listed ∈ attached.systems ∧
    (∃ events, listed.Traced events) ∧
    ∃ charged, System.Traced charged recorded ∧
      (∃ found, charged.getData "Charges" = .ok found ∧
        System.Became [(some .float32, none)] list found) ∧
      (¬ ∃ found, charged.getData "CHARGES" = .ok found) ∧
      (∀ name, name ∈ charged.knownData ↔ name = "Charges" ∨ name = "charges") ∧
      ∀ block, ¬ ∃ made, charged.addData "Cell" block true = .ok made := by
  obtain ⟨histories, filed⟩ := System.customData_filed
  have present : listed ∈ attached.systems := by
    rw [show attached.systems = [listed, system] from rfl]
    exact List.mem_cons_self
  obtain ⟨charged, traced⟩ := recorded_traced
  have filed := filed charged recorded traced
  have stores (name : String) :
      System.Stores recorded name ↔ name = "Charges" ∨ name = "charges" := by
    constructor
    · rintro ⟨block, overwrite, member⟩
      simp only [recorded, List.mem_cons, System.Event.changed.injEq, System.Change.addData.injEq,
        reduceCtorEq, List.not_mem_nil, or_false, false_or] at member
      rcases member with first | second | third
      · exact .inl first.1
      · exact .inr second.1
      · exact .inl third.1
    · rintro (rfl | rfl)
      · exact ⟨list, true, List.mem_cons_of_mem _ List.mem_cons_self⟩
      · exact ⟨list, false, List.mem_cons_of_mem _ (List.mem_cons_of_mem _ List.mem_cons_self)⟩
  refine ⟨attached_reachable, present, histories attached attached_reachable listed present,
    charged, traced, ?_, fun got => ?_, fun name => (filed.known name).trans (stores name),
    fun block made => ?_⟩
  · obtain ⟨found, got⟩ := (filed.finds "Charges").mpr ((stores _).mpr (.inl rfl))
    obtain ⟨block, conversions, last, became⟩ := filed.gives "Charges" found got
    cases last
    exact ⟨found, got, became⟩
  · exact absurd ((stores _).mp ((filed.finds "CHARGES").mp got)) (by decide)
  · exact absurd ((filed.adds "Cell" block true).mp made).free (by decide +kernel)

end World.Alone

end Atomistic
