/-!
# Results that can be errors

What the steps of a computation gave, from the result of all of it.
-/

namespace Atomistic

variable {Fault α β : Type}

/-- What follows a success is what happens. -/
theorem ok_bind (value : α) (next : α → Except Fault β) : (Except.ok value >>= next) = next value :=
  rfl

/-- Both halves of a computation that succeeds have succeeded. -/
theorem ok_of_bind {result : Except Fault α} {next : α → Except Fault β} {value : β}
    (success : (result >>= next) = .ok value) :
    ∃ middle, result = .ok middle ∧ next middle = .ok value := by
  cases result with
  | error fault => cases success
  | ok middle => exact ⟨middle, rfl, success⟩

/-- What holds of the result of two computations, one after the other. -/
theorem exists_ok_bind {result : Except Fault α} {next : α → Except Fault β}
    {holds : β → Prop} : (∃ value, (result >>= next) = .ok value ∧ holds value) ↔
      ∃ middle, result = .ok middle ∧ ∃ value, next middle = .ok value ∧ holds value := by
  cases result with
  | error fault => exact iff_of_false nofun nofun
  | ok middle =>
      refine ⟨fun both => ⟨middle, rfl, both⟩, fun both => ?_⟩
      obtain ⟨_, same, holds⟩ := both
      exact Except.ok.inj same ▸ holds

/-- A check that can only fail has passed when what follows it succeeds. -/
theorem ok_of_check {condition : Prop} [Decidable condition] {fault : Fault}
    {next : PUnit → Except Fault β} {value : β}
    (success : (if condition then throw fault >>= next else next ⟨⟩) = .ok value) :
    ¬ condition ∧ next ⟨⟩ = .ok value := by
  by_cases holds : condition
  · rw [if_pos holds] at success
    cases success
  · rw [if_neg holds] at success
    exact ⟨holds, success⟩

/-- A success does not depend on how faults are named. -/
theorem ok_of_mapError {Other : Type} {inject : Fault → Other} {result : Except Fault α} {value : α}
    (success : result.mapError inject = .ok value) : result = .ok value := by
  cases result with
  | error fault => cases success
  | ok found =>
      cases success
      rfl

/-- The fault of a check, if it has one. -/
def faults : Except Fault Unit → List Fault
  | .ok () => []
  | .error fault => [fault]

/-- A fault that there is on a condition. -/
def faultIf (condition : Prop) [Decidable condition] (fault : Fault) : List Fault :=
  if condition then [fault] else []

/-- Checks in order, as all faults that they could find: the first fault is the error. -/
def firstOf : List Fault → Except Fault Unit
  | [] => .ok ()
  | fault :: _ => .error fault

/-- There is no first fault exactly if there is none. -/
theorem firstOf_ok_iff {all : List Fault} : firstOf all = .ok () ↔ all = [] := by
  cases all with
  | nil => simp [firstOf]
  | cons fault rest => simp [firstOf]

/-- The first fault is one of them. -/
theorem mem_of_firstOf {all : List Fault} {fault : Fault} (failed : firstOf all = .error fault) :
    fault ∈ all := by
  cases all with
  | nil => cases failed
  | cons first rest =>
      cases failed
      exact List.mem_cons_self

/-- A result is told by its faults. -/
@[simp] theorem firstOf_faults (result : Except Fault Unit) : firstOf (faults result) = result := by
  cases result <;> rfl

/-- The first fault of two lists is that of the first list, if it has one. -/
theorem firstOf_append (earlier later : List Fault) :
    firstOf (earlier ++ later) = (firstOf earlier >>= fun _ => firstOf later) := by
  cases earlier <;> rfl

/-- A check before others. -/
theorem firstOf_faultIf {condition : Prop} [Decidable condition] {fault : Fault}
    {later : List Fault} :
    firstOf (faultIf condition fault ++ later) =
      if condition then .error fault else firstOf later := by
  rw [faultIf]
  split <;> rfl

/-- A check is told by the fault it may find. -/
theorem check_eq_firstOf {condition : Prop} [Decidable condition] {fault : Fault} :
    (if condition then throw fault else pure ⟨⟩) = firstOf (faultIf condition fault) := by
  rw [faultIf]
  split <;> rfl

/-- No fault is found exactly if the condition for it fails. -/
theorem faultIf_eq_nil {condition : Prop} [Decidable condition] {fault : Fault} :
    faultIf condition fault = [] ↔ ¬ condition := by
  rw [faultIf]
  split <;> simp [*]

/-- A result has no faults exactly if it is a success. -/
theorem faults_eq_nil {result : Except Fault Unit} : faults result = [] ↔ result = .ok () := by
  cases result <;> simp [faults]

/-- A check of each entry of a list fails with the first fault of any entry. -/
theorem forM_eq_firstOf {entries : List α} {each : α → Except Fault PUnit} {all : α → List Fault}
    (same : ∀ entry ∈ entries, each entry = firstOf (all entry)) :
    forM entries each = firstOf (entries.flatMap all) := by
  induction entries with
  | nil => rfl
  | cons entry rest ih =>
      obtain ⟨first, later⟩ := List.forall_mem_cons.mp same
      rw [List.forM_cons, first, ih later, List.flatMap_cons, firstOf_append]

end Atomistic
