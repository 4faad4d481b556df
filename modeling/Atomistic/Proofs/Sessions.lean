import Atomistic.Autograd.Apply
import Mathlib.Data.List.Forall2
import Mathlib.Order.Defs.Unbundled

/-!
# Runs of sessions

A session takes a workspace to a result and another workspace
(`Atomistic.Session.exec`).  `Atomistic.Session.Within` says that the two
workspaces are related, also when the session fails, and what holds of the value
and of the workspace when it succeeds; `Atomistic.Session.Decides` says in addition on
which condition it succeeds.  Over a relation that composes both can be followed from
one operation of a session to the next.  `Atomistic.Session.FailsWith` says in which ways
a session can fail.
-/

namespace Atomistic

namespace Session

variable {Fault Error α β : Type}

/-- The result of a session and the workspace that it leaves. -/
def exec (session : Session Fault α) (workspace : Workspace) : Except Fault α × Workspace :=
  session.run.run workspace

/-- A failure stops and leaves the workspace alone. -/
@[simp] theorem exec_throw (fault : Fault) (workspace : Workspace) :
    (throw fault : Session Fault α).exec workspace = (.error fault, workspace) := rfl

/-- A check leaves the workspace alone. -/
@[simp] theorem exec_ofExcept (result : Except Fault α) (workspace : Workspace) :
    (ofExcept result).exec workspace = (result, workspace) := rfl

/-- To look at the tape changes nothing. -/
@[simp] theorem exec_tape (workspace : Workspace) :
    (tape : Session Fault Tape).exec workspace = (.ok workspace.tape, workspace) := rfl

/-- To set the tape changes the tape only. -/
@[simp] theorem exec_setTape (tape : Tape) (workspace : Workspace) :
    (setTape tape : Session Fault Unit).exec workspace = (.ok (), { workspace with tape }) := rfl

/-- A note is added to the journal. -/
@[simp] theorem exec_note (level : Level) (target text : String) (workspace : Workspace) :
    (note level target text : Session Fault Unit).exec workspace =
      (.ok (), { workspace with journal := workspace.journal ++ [⟨level, target, text⟩] }) := rfl

/-- What is placed is added to the tape. -/
@[simp] theorem exec_place (outcome : Outcome) (workspace : Workspace) :
    (place outcome : Session Fault Tensor).exec workspace =
      (.ok (workspace.tape.place outcome).1,
        { workspace with tape := (workspace.tape.place outcome).2 }) := rfl

/-- To ask whether a gradient is required changes nothing. -/
@[simp] theorem exec_requiresGrad (tensor : Tensor) (workspace : Workspace) :
    (requiresGrad tensor : Session Fault Bool).exec workspace =
      (.ok (workspace.tape.state tensor.number).requiresGrad, workspace) := rfl

/-- A session continues after a success only. -/
theorem exec_bind (session : Session Fault α) (next : α → Session Fault β)
    (workspace : Workspace) :
    (session >>= next).exec workspace =
      match session.exec workspace with
      | (.ok value, after) => (next value).exec after
      | (.error fault, after) => (.error fault, after) := by
  unfold exec ExceptT.run StateT.run
  simp only [bind, ExceptT.bind, ExceptT.mk, StateT.bind, ExceptT.bindCont]
  rcases session workspace with ⟨_ | _, _⟩ <;> rfl

/-- To rename the faults of a session changes nothing else about it. -/
theorem exec_adapt (inject : Fault → Error) (session : Session Fault α) (workspace : Workspace) :
    exec (ExceptT.adapt inject session) workspace =
      ((session.exec workspace).1.mapError inject, (session.exec workspace).2) := rfl

/-- A session takes a workspace to a related one, and when it succeeds, something
holds of its value and of the new workspace. -/
structure Within (related : Workspace → Workspace → Prop) (session : Session Fault α)
    (workspace : Workspace) (ended : α → Workspace → Prop) : Prop where
  moved : related workspace (session.exec workspace).2
  gives : ∀ value, (session.exec workspace).1 = .ok value → ended value (session.exec workspace).2

variable {related : Workspace → Workspace → Prop} {workspace : Workspace}

/-- How a session ends tells where it has stayed. -/
theorem Within.of_exec {session : Session Fault α} {result : Except Fault α} {after : Workspace}
    {ended : α → Workspace → Prop} (ran : session.exec workspace = (result, after))
    (moved : related workspace after) (gives : ∀ value, result = .ok value → ended value after) :
    session.Within related workspace ended := by
  constructor
  · rw [ran]
    exact moved
  · rw [ran]
    exact gives

/-- A session that failed has nothing to give. -/
theorem Within.of_error {session : Session Fault α} {fault : Fault} {after : Workspace}
    {ended : α → Workspace → Prop} (ran : session.exec workspace = (.error fault, after))
    (moved : related workspace after) : session.Within related workspace ended :=
  .of_exec ran moved fun _ impossible => nomatch impossible

/-- A session that succeeded gives what it promises. -/
theorem Within.of_success {session : Session Fault α} {ended : α → Workspace → Prop}
    (within : session.Within related workspace ended) {value : α} {after : Workspace}
    (ran : session.exec workspace = (.ok value, after)) :
    related workspace after ∧ ended value after := by
  obtain ⟨moved, gives⟩ := within
  rw [ran] at moved gives
  exact ⟨moved, gives value rfl⟩

/-- Two sessions stay where each of them stays. -/
theorem Within.bind [IsTrans Workspace related] {session : Session Fault α}
    {next : α → Session Fault β} {middle : α → Workspace → Prop} {ended : β → Workspace → Prop}
    (first : session.Within related workspace middle)
    (second : ∀ value after, related workspace after → middle value after →
      (next value).Within related after ended) :
    (session >>= next).Within related workspace ended := by
  rcases ran : session.exec workspace with ⟨result, after⟩
  have moved := first.moved
  have gives := first.gives
  rw [ran] at moved gives
  cases result with
  | error fault =>
      have failed : (session >>= next).exec workspace = (.error fault, after) := by
        rw [exec_bind, ran]
      exact .of_error failed moved
  | ok value =>
      have rest := second value after moved (gives value rfl)
      refine ⟨?_, ?_⟩
      · rw [exec_bind, ran]
        exact IsTrans.trans _ _ _ moved rest.moved
      · rw [exec_bind, ran]
        exact rest.gives

/-- A session that only looks at the workspace. -/
theorem Within.look {session : Session Fault α} {result : Except Fault α}
    (ran : session.exec workspace = (result, workspace)) (stays : related workspace workspace) :
    session.Within related workspace fun value after => result = .ok value ∧ after = workspace :=
  .of_exec ran stays fun _ same => ⟨same, rfl⟩

/-- A check that can only fail, before the rest of a session. -/
theorem Within.check {condition : Prop} [Decidable condition] {fault : Fault}
    {next : PUnit → Session Fault β} {ended : β → Workspace → Prop}
    (stays : related workspace workspace)
    (rest : ¬ condition → (next ⟨⟩).Within related workspace ended) :
    (if condition then throw fault >>= next else next ⟨⟩).Within related workspace ended := by
  by_cases holds : condition
  · rw [if_pos holds]
    have failed : (throw fault >>= next).exec workspace = (.error fault, workspace) := by
      rw [exec_bind, exec_throw]
    exact .of_error failed stays
  · rw [if_neg holds]
    exact rest holds

/-- A session that is run on a condition, before the rest. -/
theorem Within.when [IsTrans Workspace related] {condition : Prop} [Decidable condition]
    {first : Session Fault PUnit} {next : PUnit → Session Fault β} {kept : Workspace → Prop}
    {ended : β → Workspace → Prop} (stays : related workspace workspace) (holds : kept workspace)
    (ran : first.Within related workspace fun _ after => kept after)
    (rest : ∀ middle, related workspace middle → kept middle →
      (next ⟨⟩).Within related middle ended) :
    (if condition then first >>= next else next ⟨⟩).Within related workspace ended := by
  split
  · exact ran.bind fun _ middle moved kept => rest middle moved kept
  · exact rest workspace stays holds

/-- A session that promises something promises less. -/
theorem Within.weaken {session : Session Fault α} {ended other : α → Workspace → Prop}
    (within : session.Within related workspace ended)
    (weaker : ∀ value after, ended value after → other value after) :
    session.Within related workspace other :=
  ⟨within.moved, fun value ran => weaker value _ (within.gives value ran)⟩

/-- A session stays where it does whatever its faults are called. -/
theorem Within.adapt {inject : Fault → Error} {session : Session Fault α}
    {ended : α → Workspace → Prop} (within : session.Within related workspace ended) :
    Within related (ExceptT.adapt inject session) workspace ended := by
  refine ⟨within.moved, fun value ran => within.gives value ?_⟩
  rw [exec_adapt] at ran
  cases result : (session.exec workspace).1 with
  | error fault =>
      rw [result] at ran
      cases ran
  | ok found =>
      rw [result] at ran
      cases ran
      rfl

/-- One session for each entry of a list. -/
theorem Within.mapM [IsTrans Workspace related] {entries : List α} {each : α → Session Fault β}
    {ended : α → β → Workspace → Prop} (stays : ∀ workspace, related workspace workspace)
    (stable : ∀ {entry made middle after}, related middle after → ended entry made middle →
      ended entry made after)
    (within : ∀ entry ∈ entries, ∀ middle, related workspace middle →
      (each entry).Within related middle (ended entry)) :
    (entries.mapM each).Within related workspace fun made after =>
      List.Forall₂ (fun entry value => ended entry value after) entries made := by
  induction entries generalizing workspace with
  | nil => exact .of_exec rfl (stays _) fun made same => Except.ok.inj same ▸ .nil
  | cons entry rest ih =>
      rw [List.mapM_cons]
      refine (within entry List.mem_cons_self workspace (stays _)).bind
        fun value middle moved first => ?_
      have later := ih fun other member last further =>
        within other (List.mem_cons_of_mem _ member) last (IsTrans.trans _ _ _ moved further)
      refine later.bind fun values after further all => ?_
      refine .of_exec rfl (stays _) fun made same => ?_
      rw [← Except.ok.inj same]
      exact .cons (stable further first) all

/-- Any two workspaces, for what only concerns the value of a session. -/
def Anywhere (_ _ : Workspace) : Prop := True

instance : IsTrans Workspace Anywhere := ⟨fun _ _ _ _ _ => trivial⟩

/-- A session that stays within bounds stays anywhere. -/
theorem Within.anywhere {session : Session Fault α} {ended : α → Workspace → Prop}
    (within : session.Within related workspace ended) : session.Within Anywhere workspace ended :=
  ⟨trivial, within.gives⟩

/-- A session gives what it gives. -/
theorem Within.ran (session : Session Fault α) (workspace : Workspace) :
    session.Within Anywhere workspace fun value after =>
      session.exec workspace = (.ok value, after) :=
  ⟨trivial, fun _ succeeded => Prod.ext succeeded rfl⟩

/-- What every round of a loop keeps. -/
theorem Within.foldlM [IsTrans Workspace related] {entries : List α}
    {each : β → α → Session Fault β}
    {kept : β → Workspace → Prop} (stays : ∀ workspace, related workspace workspace)
    (within : ∀ entry ∈ entries, ∀ state middle, related workspace middle → kept state middle →
      (each state entry).Within related middle kept) {state : β} (started : kept state workspace) :
    (entries.foldlM each state).Within related workspace kept := by
  induction entries generalizing state workspace with
  | nil => exact .of_exec rfl (stays _) fun made same => Except.ok.inj same ▸ started
  | cons entry rest ih =>
      rw [List.foldlM_cons]
      refine (within entry List.mem_cons_self state workspace (stays _) started).bind
        fun next middle moved holds => ?_
      exact ih (fun other member state last further => within other (List.mem_cons_of_mem _ member)
        state last (IsTrans.trans _ _ _ moved further)) holds

/-- A session succeeds exactly on a condition, and then it takes the workspace to a
related one and something holds of its value and of the new workspace. -/
inductive Decides (related : Workspace → Workspace → Prop) (condition : Prop)
    (session : Session Fault α) (workspace : Workspace) (ended : α → Workspace → Prop) : Prop
  | gives {value : α} {after : Workspace} (ran : session.exec workspace = (.ok value, after))
      (holds : condition) (moved : related workspace after) (reached : ended value after) :
      Decides related condition session workspace ended
  | refuses {fault : Fault} {after : Workspace}
      (ran : session.exec workspace = (.error fault, after)) (fails : ¬ condition) :
      Decides related condition session workspace ended

/-- Two sessions decide what both of them decide. -/
theorem Decides.bind [IsTrans Workspace related] {session : Session Fault α}
    {next : α → Session Fault β} {first second : Prop} {middle : α → Workspace → Prop}
    {ended : β → Workspace → Prop} (decided : session.Decides related first workspace middle)
    (rest : ∀ value after, related workspace after → middle value after →
      (next value).Decides related second after ended) :
    (session >>= next).Decides related (first ∧ second) workspace ended := by
  cases decided with
  | refuses ran fails =>
      refine .refuses (by rw [exec_bind, ran]) ?_
      rw [not_and]
      exact fun holds => absurd holds fails
  | gives ran holds moved reached =>
      rcases rest _ _ moved reached with ⟨continued, also, further, last⟩ | ⟨continued, fails⟩
      · exact .gives (by rw [exec_bind, ran]; exact continued) ⟨holds, also⟩
          (IsTrans.trans _ _ _ moved further) last
      · exact .refuses (by rw [exec_bind, ran]; exact continued) fun both => fails both.2

/-- A session decides what is equivalent to what it decides. -/
theorem Decides.congr {session : Session Fault α} {condition other : Prop}
    {ended : α → Workspace → Prop} (decided : session.Decides related condition workspace ended)
    (same : other ↔ condition) : session.Decides related other workspace ended := by
  rw [propext same]
  exact decided

/-- What follows a session that always succeeds decides. -/
theorem Decides.follow [IsTrans Workspace related] {session : Session Fault α}
    {next : α → Session Fault β} {condition : Prop} {middle : α → Workspace → Prop}
    {ended : β → Workspace → Prop} (given : session.Decides related True workspace middle)
    (rest : ∀ value after, related workspace after → middle value after →
      (next value).Decides related condition after ended) :
    (session >>= next).Decides related condition workspace ended :=
  (given.bind rest).congr (by rw [true_and])

/-- A session decides as before when what follows it always succeeds. -/
theorem Decides.settle [IsTrans Workspace related] {session : Session Fault α}
    {next : α → Session Fault β} {condition : Prop} {middle : α → Workspace → Prop}
    {ended : β → Workspace → Prop} (decided : session.Decides related condition workspace middle)
    (rest : ∀ value after, related workspace after → middle value after →
      (next value).Decides related True after ended) :
    (session >>= next).Decides related condition workspace ended :=
  (decided.bind rest).congr (by rw [and_true])

/-- What follows a session that fails is not run. -/
theorem Decides.stop {session : Session Fault α} {next : α → Session Fault β}
    {first condition : Prop} {middle : α → Workspace → Prop} {ended : β → Workspace → Prop}
    (decided : session.Decides related first workspace middle) (fails : ¬ first)
    (only : condition → first) : (session >>= next).Decides related condition workspace ended := by
  cases decided with
  | gives _ holds => exact absurd holds fails
  | refuses ran _ => exact .refuses (by rw [exec_bind, ran]) fun holds => fails (only holds)

/-- A session that promises something promises less. -/
theorem Decides.weaken {session : Session Fault α} {condition : Prop}
    {ended other : α → Workspace → Prop}
    (decided : session.Decides related condition workspace ended)
    (weaker : ∀ value after, related workspace after → ended value after → other value after) :
    session.Decides related condition workspace other := by
  cases decided with
  | gives ran holds moved reached => exact .gives ran holds moved (weaker _ _ moved reached)
  | refuses ran fails => exact .refuses ran fails

/-- A session that decides within bounds decides anywhere. -/
theorem Decides.anywhere {session : Session Fault α} {condition : Prop}
    {ended : α → Workspace → Prop}
    (decided : session.Decides related condition workspace ended) :
    session.Decides Anywhere condition workspace ended := by
  cases decided with
  | gives ran holds _ reached => exact .gives ran holds trivial reached
  | refuses ran fails => exact .refuses ran fails

/-- A session that decides, with the run that it decides. -/
theorem Decides.ran {session : Session Fault α} {condition : Prop} {ended : α → Workspace → Prop}
    (decided : session.Decides related condition workspace ended) :
    session.Decides related condition workspace fun value after =>
      ended value after ∧ session.exec workspace = (.ok value, after) := by
  cases decided with
  | gives ran holds moved reached => exact .gives ran holds moved ⟨reached, ran⟩
  | refuses ran fails => exact .refuses ran fails

/-- A session decides the same whatever its faults are called. -/
theorem Decides.adapt {inject : Fault → Error} {session : Session Fault α} {condition : Prop}
    {ended : α → Workspace → Prop} (decided : session.Decides related condition workspace ended) :
    Decides related condition (ExceptT.adapt inject session) workspace ended := by
  cases decided with
  | gives ran holds moved reached => exact .gives (by rw [exec_adapt, ran]; rfl) holds moved reached
  | refuses ran fails => exact .refuses (by rw [exec_adapt, ran]; rfl) fails

/-- Sessions for the entries of a list, each of which decides on a condition. -/
theorem Decides.mapM_forall [IsTrans Workspace related] {entries : List α}
    {each : α → Session Fault β} {condition : α → Prop} {ended : α → β → Prop}
    (stays : ∀ workspace, related workspace workspace)
    (given : ∀ entry ∈ entries, ∀ middle, related workspace middle →
      (each entry).Decides related (condition entry) middle fun made _ => ended entry made) :
    (entries.mapM each).Decides related (∀ entry ∈ entries, condition entry) workspace
      fun made _ => List.Forall₂ ended entries made := by
  induction entries generalizing workspace with
  | nil => exact .gives rfl (List.forall_mem_nil _) (stays _) .nil
  | cons entry rest ih =>
      rw [List.mapM_cons]
      refine ((given entry List.mem_cons_self workspace (stays _)).bind
        fun value middle moved first => ?_).congr List.forall_mem_cons
      have later := ih fun other member last further =>
        given other (List.mem_cons_of_mem _ member) last (IsTrans.trans _ _ _ moved further)
      refine later.settle fun values after _ all => ?_
      exact .gives rfl trivial (stays _) (.cons first all)

/-- Sessions that always succeed, one for each entry of a list. -/
theorem Decides.mapM [IsTrans Workspace related] {entries : List α} {each : α → Session Fault β}
    {ended : α → β → Prop} (stays : ∀ workspace, related workspace workspace)
    (given : ∀ entry ∈ entries, ∀ middle, related workspace middle →
      (each entry).Decides related True middle fun made _ => ended entry made) :
    (entries.mapM each).Decides related True workspace
      fun made _ => List.Forall₂ ended entries made :=
  (Decides.mapM_forall stays given).congr (by simp)

/-- A computation without state that is known to succeed. -/
theorem Decides.ofExcept_ok {result : Except Fault α} {value : α} (succeeds : result = .ok value)
    (stays : related workspace workspace) :
    (ofExcept result).Decides related True workspace
      fun made after => made = value ∧ after = workspace :=
  .gives (by rw [exec_ofExcept, succeeds]) trivial stays ⟨rfl, rfl⟩

/-- A computation without state that can succeed in one way only. -/
theorem Decides.ofExcept_iff {result : Except Fault α} {condition : Prop} {value : α}
    (gives : condition → result = .ok value) (only : ∀ other, result = .ok other → condition)
    (stays : related workspace workspace) :
    (ofExcept result).Decides related condition workspace
      fun made after => made = value ∧ after = workspace := by
  cases found : result with
  | error fault =>
      refine .refuses (exec_ofExcept _ workspace) fun holds => ?_
      rw [gives holds] at found
      cases found
  | ok other =>
      have holds := only other found
      refine .gives (exec_ofExcept _ workspace) holds stays ⟨?_, rfl⟩
      exact Except.ok.inj (found.symm.trans (gives holds))

/-- A computation without state, before the rest of a session. -/
theorem Decides.read {result : Except Fault α} {next : α → Session Fault β} {condition : α → Prop}
    {ended : β → Workspace → Prop}
    (rest : ∀ value, result = .ok value →
      (next value).Decides related (condition value) workspace ended) :
    (ofExcept result >>= next).Decides related (∃ value, result = .ok value ∧ condition value)
      workspace ended := by
  cases result with
  | error fault => exact .refuses (by rw [exec_bind, exec_ofExcept]) nofun
  | ok value =>
      refine (rest value rfl).congr ⟨fun holds => ?_, fun holds => ⟨value, rfl, holds⟩⟩
      obtain ⟨other, same, holds⟩ := holds
      exact Except.ok.inj same ▸ holds

/-- A check that is known to pass. -/
theorem Decides.pass {check : Prop} [Decidable check] {fault : Fault}
    {next : PUnit → Session Fault β} {condition : Prop} {ended : β → Workspace → Prop}
    (passed : ¬ check)
    (rest : (next ⟨⟩).Decides related condition workspace ended) :
    (if check then throw fault >>= next else next ⟨⟩).Decides related condition workspace
      ended := by
  rw [if_neg passed]
  exact rest

/-- A check that is part of the condition. -/
theorem Decides.check {check condition : Prop} [Decidable check] {fault : Fault} {first : Prop}
    {next : PUnit → Session Fault β} {ended : β → Workspace → Prop} (passes : ¬ check ↔ first)
    (rest : first → (next ⟨⟩).Decides related condition workspace ended) :
    (if check then throw fault >>= next else next ⟨⟩).Decides related (first ∧ condition) workspace
      ended := by
  by_cases holds : first
  · rw [if_neg (passes.mpr holds)]
    exact (rest holds).congr (by simp [holds])
  · rw [if_pos (not_not.mp (mt passes.mp holds))]
    have failed : (throw fault >>= next).exec workspace = (.error fault, workspace) := by
      rw [exec_bind, exec_throw]
    exact .refuses failed fun both => holds both.1

/-- A session succeeds exactly if what it decides holds. -/
theorem Decides.success_iff {session : Session Fault α} {condition : Prop}
    {ended : α → Workspace → Prop} (decided : session.Decides related condition workspace ended) :
    (∃ value after, session.exec workspace = (.ok value, after)) ↔ condition := by
  cases decided with
  | gives ran holds => exact ⟨fun _ => holds, fun _ => ⟨_, _, ran⟩⟩
  | refuses ran fails =>
      refine ⟨fun success => ?_, fun holds => absurd holds fails⟩
      obtain ⟨value, after, succeeded⟩ := success
      rw [ran] at succeeded
      cases succeeded

/-- A session that decides nothing succeeds. -/
theorem Decides.succeeds {session : Session Fault α} {ended : α → Workspace → Prop}
    (given : session.Decides related True workspace ended) :
    ∃ value after, session.exec workspace = (.ok value, after) ∧ ended value after := by
  cases given with
  | gives ran _ _ reached => exact ⟨_, _, ran, reached⟩
  | refuses _ fails => exact absurd trivial fails

/-- A session that succeeded gives what it promises. -/
theorem Decides.of_success {session : Session Fault α} {condition : Prop}
    {ended : α → Workspace → Prop} (decided : session.Decides related condition workspace ended)
    {value : α} {after : Workspace} (succeeded : session.exec workspace = (.ok value, after)) :
    related workspace after ∧ ended value after := by
  cases decided with
  | gives ran _ moved reached =>
      rw [ran] at succeeded
      cases succeeded
      exact ⟨moved, reached⟩
  | refuses ran =>
      rw [ran] at succeeded
      cases succeeded

/-! ### Faults -/

/-- A session fails only in some ways. -/
def FailsWith (session : Session Fault α) (allowed : Fault → Prop) : Prop :=
  ∀ workspace fault, (session.exec workspace).1 = .error fault → allowed fault

namespace FailsWith

variable {allowed : Fault → Prop}

/-- Two sessions fail with the faults of either of them. -/
theorem bind {session : Session Fault α} {next : α → Session Fault β}
    (first : session.FailsWith allowed) (rest : ∀ value, (next value).FailsWith allowed) :
    (session >>= next).FailsWith allowed := by
  intro workspace fault failed
  rw [exec_bind] at failed
  rcases ran : session.exec workspace with ⟨other | value, middle⟩
  · rw [ran] at failed
    cases failed
    exact first workspace fault (congrArg Prod.fst ran)
  · rw [ran] at failed
    exact rest value middle fault failed

/-- To return a value does not fail. -/
theorem pure (value : α) : (Pure.pure value : Session Fault α).FailsWith allowed :=
  fun _ _ failed => nomatch failed

/-- A note does not fail. -/
theorem note (level : Level) (target text : String) :
    (Session.note level target text : Session Fault Unit).FailsWith allowed :=
  fun _ _ failed => nomatch failed

/-- A check fails with its own faults. -/
theorem ofExcept {result : Except Fault α} (only : ∀ fault, result = .error fault → allowed fault) :
    (Session.ofExcept result).FailsWith allowed :=
  fun _ fault failed => only fault failed

/-- Renamed faults are what they are renamed to. -/
theorem adapt {inject : Error → Fault} (session : Session Error α)
    (only : ∀ fault, allowed (inject fault)) :
      FailsWith (ExceptT.adapt inject session) allowed := by
  intro workspace fault failed
  rw [exec_adapt] at failed
  rcases ran : (session.exec workspace).1 with other | value
  · rw [ran] at failed
    cases failed
    exact only other
  · rw [ran] at failed
    cases failed

end FailsWith

end Session

end Atomistic
