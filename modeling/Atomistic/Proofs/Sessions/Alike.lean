import Atomistic.Proofs.Tensor.Transfer

/-!
# Runs that end alike

Two runs end alike if both fail, or if both succeed with values that are related.  What an
operation does is told by the data that it gets, not by the workspace in which it runs: from
clean workspaces, with the same data, it ends alike.
-/

namespace Atomistic

namespace Session

variable {Fault Error Other α β γ δ : Type}

/-- Two runs both fail, or both succeed with related values and leave clean workspaces. -/
inductive Alike (related : α → β → Prop) :
    Except Fault α × Workspace → Except Error β × Workspace → Prop
  | failed (fault : Fault) (after : Workspace) (other : Error) (last : Workspace) :
      Alike related (.error fault, after) (.error other, last)
  | succeeded {value : α} {after : Workspace} {other : β} {last : Workspace}
      (holds : related value other) (clean : after.Clean) (last_clean : last.Clean) :
      Alike related (.ok value, after) (.ok other, last)

namespace Alike

variable {related : α → β → Prop} {workspace before : Workspace}

/-- Of two sessions that are alike one succeeds if the other does. -/
theorem success_iff {first : Except Fault α × Workspace} {second : Except Error β × Workspace}
    (alike : Alike related first second) :
    (∃ value after, first = (.ok value, after)) ↔ ∃ value after, second = (.ok value, after) := by
  cases alike with
  | failed => exact iff_of_false nofun nofun
  | succeeded => exact iff_of_true ⟨_, _, rfl⟩ ⟨_, _, rfl⟩

/-- Sessions that are alike are so for a weaker relation. -/
theorem imp {stronger : α → β → Prop} {first : Except Fault α × Workspace}
    {second : Except Error β × Workspace} (alike : Alike stronger first second)
    (weaker : ∀ value other, stronger value other → related value other) :
    Alike related first second := by
  cases alike with
  | failed => exact .failed _ _ _ _
  | succeeded holds clean last_clean => exact .succeeded (weaker _ _ holds) clean last_clean

/-- Sessions that are alike and succeed give related values. -/
theorem of_success {value : α} {other : β} {after last : Workspace}
    (alike : Alike related ((.ok value, after) : Except Fault α × Workspace)
      ((.ok other, last) : Except Error β × Workspace)) :
    related value other ∧ after.Clean ∧ last.Clean := by
  cases alike with
  | succeeded holds clean last_clean => exact ⟨holds, clean, last_clean⟩

/-- Sessions are alike if they begin alike and go on alike. -/
theorem bind {session : Session Fault α} {other : Session Error β} {next : α → Session Fault γ}
    {further : β → Session Error δ} {ended : γ → δ → Prop}
    (alike : Alike related (session.exec workspace) (other.exec before))
    (rest : ∀ value second after last, related value second → after.Clean → last.Clean →
      Alike ended ((next value).exec after) ((further second).exec last)) :
    Alike ended ((session >>= next).exec workspace) ((other >>= further).exec before) := by
  rw [exec_bind, exec_bind]
  generalize session.exec workspace = first at alike
  generalize other.exec before = second at alike
  cases alike with
  | failed fault after other last => exact .failed fault after other last
  | succeeded holds clean last_clean => exact rest _ _ _ _ holds clean last_clean

/-- When a session succeeds that goes on after one of two runs, told by the other run. -/
theorem bind_success_iff {session : Session Fault α} {other : Session Error β}
    {further : β → Session Error δ} {condition : α → Prop}
    (alike : Alike related (session.exec workspace) (other.exec before))
    (rest : ∀ value second last, related value second → last.Clean →
      ((∃ ended final, (further second).exec last = (.ok ended, final)) ↔ condition value)) :
    (∃ ended final, (other >>= further).exec before = (.ok ended, final)) ↔
      ∃ value after, session.exec workspace = (.ok value, after) ∧ condition value := by
  rw [exec_bind]
  generalize session.exec workspace = first at alike
  generalize other.exec before = second at alike
  cases alike with
  | failed => exact iff_of_false nofun nofun
  | @succeeded value after second last holds _ last_clean =>
      refine (rest value second last holds last_clean).trans
        ⟨fun also => ⟨value, after, rfl, also⟩, ?_⟩
      rintro ⟨_, _, same, also⟩
      cases same
      exact also

/-- Sessions are alike however their faults are renamed. -/
theorem adapt {session : Session Fault α} {other : Session Fault β}
    (alike : Alike related (session.exec workspace) (other.exec before)) (inject : Fault → Error) :
    Alike related (exec (ExceptT.adapt inject session) workspace)
      (exec (ExceptT.adapt inject other) before) := by
  rw [exec_adapt, exec_adapt]
  generalize session.exec workspace = first at alike
  generalize other.exec before = second at alike
  cases alike with
  | failed => exact .failed _ _ _ _
  | succeeded holds clean last_clean => exact .succeeded holds clean last_clean

/-- A check of the same condition, before the rest of two sessions. -/
theorem check {condition other : Prop} [Decidable condition] [Decidable other] {fault : Fault}
    {error : Error} {next : PUnit → Session Fault γ} {further : PUnit → Session Error δ}
    {ended : γ → δ → Prop} (same : other ↔ condition)
    (rest : ¬ condition → Alike ended ((next ⟨⟩).exec workspace) ((further ⟨⟩).exec before)) :
    Alike ended ((if condition then throw fault >>= next else next ⟨⟩).exec workspace)
      ((if other then throw error >>= further else further ⟨⟩).exec before) := by
  by_cases holds : condition
  · rw [if_pos holds, if_pos (same.mpr holds), exec_bind, exec_bind]
    exact .failed fault workspace error before
  · rw [if_neg holds, if_neg (mt same.mp holds)]
    exact rest holds

section Clean

variable (clean : workspace.Clean) (before_clean : before.Clean)

include clean before_clean

/-- Related values are alike. -/
theorem value {value : α} {other : β} (holds : related value other) :
    Alike related ((pure value : Session Fault α).exec workspace)
      ((pure other : Session Error β).exec before) :=
  .succeeded holds clean before_clean

/-- A computation without state gives the same in any workspace. -/
theorem computation {result other : Except Fault α} (same : other = result) :
    Alike (fun value second => second = value ∧ result = .ok value)
      ((ofExcept result).exec workspace) ((ofExcept other).exec before) := by
  subst same
  cases other with
  | error fault => exact .failed fault _ fault _
  | ok value => exact .succeeded ⟨rfl, rfl⟩ clean before_clean

/-- Sessions that decide on the same condition. -/
theorem of_decides {session : Session Fault α} {other : Session Error β} {condition : Prop}
    {ended : α → Workspace → Prop} {finished : β → Workspace → Prop}
    (decided : session.Decides Workspace.Cleanly condition workspace ended)
    (also : other.Decides Workspace.Cleanly condition before finished)
    (both : condition → ∀ value second after last, ended value after → finished second last →
      related value second) :
    Alike related (session.exec workspace) (other.exec before) := by
  cases decided with
  | refuses ran fails =>
      cases also with
      | refuses stopped _ =>
          rw [ran, stopped]
          exact .failed _ _ _ _
      | gives _ holds => exact absurd holds fails
  | gives ran holds moved reached =>
      cases also with
      | refuses _ fails => exact absurd holds fails
      | gives continued _ further last =>
          rw [ran, continued]
          exact .succeeded (both holds _ _ _ _ reached last) (moved clean) (further before_clean)

end Clean

end Alike

end Session

open Session Workspace

variable {workspace before : Workspace}

/-- Two tensors hold the same data, which looks as data should. -/
structure Tensor.Same (tensor other : Tensor) : Prop where
  data : other.data = tensor.data
  valid : tensor.data.Valid

namespace Tensor

/-- New tensors of the same data. -/
theorem create_alike (clean : workspace.Clean) (before_clean : before.Clean) {d : Dense}
    (valid : d.Valid) {Fault Error : Type} :
    Alike (fun made other => Same made other ∧ made.data = d)
      ((create d : Session Fault Tensor).exec workspace)
      ((create d : Session Error Tensor).exec before) :=
  .of_decides clean before_clean (create_decides clean d).cleanly
      (create_decides before_clean d).cleanly
    fun _ _ _ _ _ first second =>
      ⟨⟨second.1.trans first.1.symm, first.1.symm ▸ valid⟩, first.1⟩

variable {tensor other : Tensor}

/-- Tensors with the same data are cast and moved alike, whatever tracks them. -/
theorem transfer_alike (clean : workspace.Clean) (before_clean : before.Clean)
    (same : Same tensor other) (dtype : Option DType) (device : Option Device) :
    Alike (fun made second => Same made second ∧ made.data = tensor.data.recast dtype device)
      ((tensor.transfer dtype device).exec workspace)
      ((other.transfer dtype device).exec before) := by
  have valid : other.data.Valid := same.data ▸ same.valid
  have first := transfer_recasts clean same.valid dtype device
  have second := transfer_recasts before_clean valid dtype device
  have place : other.device = tensor.device := congrArg Dense.device same.data
  rw [same.data, place] at second
  refine .of_decides clean before_clean first second fun reaches made moved _ _ held also => ?_
  exact ⟨⟨also.trans held.symm, held.symm ▸ same.valid.recast reaches⟩, held⟩

end Tensor

end Atomistic
