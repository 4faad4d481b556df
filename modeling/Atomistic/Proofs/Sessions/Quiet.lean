import Atomistic.Proofs.Sessions

/-!
# Sessions that fail without effect

A session is quiet if it leaves the tape as it was, and it reverts if it does so when it
fails.  Checks are quiet, and a session reverts when nothing but checks and records of the
journal comes before the one part of it that changes the tape.
-/

namespace Atomistic

namespace Session

variable {Fault Error α β : Type}

/-- The tape is left as it was. -/
def Quiet (session : Session Fault α) : Prop :=
  ∀ workspace, (session.exec workspace).2.tape = workspace.tape

/-- The tape is left as it was by a failure. -/
def Reverts (session : Session Fault α) : Prop :=
  ∀ workspace fault after, session.exec workspace = (.error fault, after) →
    after.tape = workspace.tape

/-- A quiet session has nothing to undo. -/
theorem Quiet.reverts {session : Session Fault α} (quiet : session.Quiet) : session.Reverts := by
  intro workspace fault after failed
  have stays := quiet workspace
  rw [failed] at stays
  exact stays

/-- To return a value is quiet. -/
theorem quiet_pure (value : α) : (pure value : Session Fault α).Quiet := fun _ => rfl

/-- A check is quiet. -/
theorem quiet_ofExcept (result : Except Fault α) : (ofExcept result).Quiet := fun _ => rfl

/-- A note is quiet. -/
theorem quiet_note (level : Level) (target text : String) :
    (note level target text : Session Fault Unit).Quiet := fun _ => rfl

/-- To ask whether a gradient is required is quiet. -/
theorem quiet_requiresGrad (tensor : Tensor) :
    (requiresGrad tensor : Session Fault Bool).Quiet := fun _ => rfl

/-- What reverts does so after a quiet session. -/
theorem Reverts.bind {session : Session Fault α} {next : α → Session Fault β}
    (first : session.Quiet) (second : ∀ value, (next value).Reverts) :
    (session >>= next).Reverts := by
  intro workspace fault after failed
  have stays := first workspace
  rcases ran : session.exec workspace with ⟨_ | value, middle⟩
  all_goals
    rw [ran] at stays
    rw [exec_bind, ran] at failed
  · cases failed
    exact stays
  · exact (second value middle fault after failed).trans stays

/-- What always succeeds can follow. -/
theorem Reverts.map {session : Session Fault α} (reverts : session.Reverts) (f : α → β) :
    (session >>= fun value => pure (f value)).Reverts := by
  intro workspace fault after failed
  rcases ran : session.exec workspace with ⟨_ | value, middle⟩
  all_goals
    rw [exec_bind, ran] at failed
    cases failed
  exact reverts workspace fault after ran

/-- A session reverts whatever its faults are called. -/
theorem Reverts.adapt {session : Session Fault α} (reverts : session.Reverts)
    (inject : Fault → Error) : Reverts (ExceptT.adapt inject session) := by
  intro workspace fault after failed
  rcases ran : session.exec workspace with ⟨own | value, middle⟩
  all_goals
    rw [exec_adapt, ran] at failed
    cases failed
  exact reverts workspace own middle ran

/-- A check can come before what reverts. -/
theorem Reverts.check {condition : Prop} [Decidable condition] {fault : Fault}
    {next : PUnit → Session Fault β} (rest : ¬ condition → (next ⟨⟩).Reverts) :
    Reverts (if condition then throw fault >>= next else next ⟨⟩) := by
  split
  · intro workspace fault after failed
    rw [exec_bind, exec_throw] at failed
    cases failed
    rfl
  next passed => exact rest passed

/-- A quiet session can come before what reverts on one branch. -/
theorem Reverts.when {condition : Prop} [Decidable condition] {first : Session Fault PUnit}
    {next : PUnit → Session Fault β} (quiet : first.Quiet) (rest : (next ⟨⟩).Reverts) :
    Reverts (if condition then first >>= next else next ⟨⟩) := by
  split
  · exact .bind quiet fun _ => rest
  · exact rest

end Session

end Atomistic
