import Atomistic.Proofs.Sessions

/-!
# Operations in place that are all or nothing

An operation is all or nothing if it leaves the held value as it was whenever it fails
(`Atomistic.InPlace.AllOrNothing`).  Operations that only look at the value may come before
the one change that is made at the end.  How such an operation ends, and what it leaves, is
told by what it makes of a copy (`Atomistic.InPlace.AllOrNothing.exec_eq`).
-/

namespace Atomistic

namespace InPlace

open Session

variable {σ Fault Error α β : Type}

private theorem eq_of_exec {session other : Session Fault α}
    (same : ∀ workspace, session.exec workspace = other.exec workspace) : session = other :=
  funext same

/-- How an operation ends, the value that it leaves, and the workspace that it leaves. -/
def exec (operation : InPlace σ Fault (StateM Workspace) α) (value : σ) (workspace : Workspace) :
    (Except Fault α × σ) × Workspace :=
  (operation.run.run value).run workspace

private theorem eq_of_inPlace {operation other : InPlace σ Fault (StateM Workspace) α}
    (same : ∀ value workspace, operation.exec value workspace = other.exec value workspace) :
    operation = other :=
  funext fun value => funext (same value)

private theorem exec_bind (first : InPlace σ Fault (StateM Workspace) α)
    (next : α → InPlace σ Fault (StateM Workspace) β) (value : σ) (workspace : Workspace) :
    (first >>= next).exec value workspace =
      match first.exec value workspace with
      | ((.ok made, left), after) => (next made).exec left after
      | ((.error fault, left), after) => ((.error fault, left), after) := by
  unfold exec ExceptT.run StateT.run
  simp only [bind, ExceptT.bind, ExceptT.mk, StateT.bind, ExceptT.bindCont]
  rcases first value workspace with ⟨⟨_ | _, _⟩, _⟩ <;> rfl

private theorem exec_ofSession (session : Session Fault α) (value : σ) (workspace : Workspace) :
    (ofSession session).exec value workspace =
      (((session.exec workspace).1, value), (session.exec workspace).2) := rfl

/-- An operation that leaves the workspace alone does the same inside a session. -/
theorem exec_inSession (operation : InPlace σ Fault Id α) (value : σ) (workspace : Workspace) :
    (inSession operation).exec value workspace = (operation.run.run value, workspace) := rfl

/-- To rename the faults of an operation changes nothing else about it. -/
theorem exec_adapt (inject : Fault → Error) (operation : InPlace σ Fault Id α) (value : σ)
    (workspace : Workspace) :
    (inSession (ExceptT.adapt inject operation)).exec value workspace =
      (((operation.run.run value).1.mapError inject, (operation.run.run value).2), workspace) := rfl

/-- The copy of an operation is what it leaves behind if it succeeds. -/
theorem exec_copiedIn (operation : InPlace σ Fault (StateM Workspace) Unit) (value : σ)
    (workspace : Workspace) :
    (operation.copiedIn value).exec workspace =
      match operation.exec value workspace with
      | ((.ok (), left), after) => (.ok left, after)
      | ((.error fault, _), after) => (.error fault, after) := rfl

/-! ### Copies -/

section Copies

variable (next : α → InPlace σ Fault (StateM Workspace) Unit) (value : σ)

/-- A copy is at hand before anything is done to it. -/
theorem copiedIn_held_bind (next : σ → InPlace σ Fault (StateM Workspace) Unit) :
    copiedIn (held >>= next) value = copiedIn (next value) value := rfl

/-- A session comes before the copy that needs what it makes. -/
theorem copiedIn_ofSession_bind (session : Session Fault α) :
    copiedIn (ofSession session >>= next) value =
      session >>= fun made => copiedIn (next made) value := by
  refine eq_of_exec fun workspace => ?_
  rw [exec_copiedIn, exec_bind, exec_ofSession, Session.exec_bind]
  rcases session.exec workspace with ⟨_ | made, after⟩ <;> rfl

/-- A copy is not made if a check fails that comes first. -/
theorem copiedIn_ofExcept_bind (result : Except Fault α) :
    copiedIn (ofExcept result >>= next) value =
      Session.ofExcept result >>= fun made => copiedIn (next made) value := by
  cases result <;> rfl

/-- No copy is made after a failure. -/
theorem copiedIn_throw_bind (fault : Fault) :
    copiedIn (throw fault >>= next) value = throw fault := rfl

/-- A change that is made without a check is made to the copy. -/
theorem copiedIn_modify (change : σ → σ) :
    copiedIn (modify change : InPlace σ Fault (StateM Workspace) Unit) value =
      pure (change value) := rfl

/-- A copy is made along the branch that is taken. -/
theorem copiedIn_ite (condition : Prop) [Decidable condition]
    (yes no : InPlace σ Fault (StateM Workspace) Unit) :
    copiedIn (if condition then yes else no) value =
      if condition then copiedIn yes value else copiedIn no value := by
  split <;> rfl

/-- An operation that leaves the workspace alone is copied without it. -/
theorem copiedIn_inSession (operation : InPlace σ Fault Id Unit) :
    copiedIn (inSession operation) value = Session.ofExcept (copied operation value) := by
  refine eq_of_exec fun workspace => ?_
  rw [exec_copiedIn, exec_inSession, copied, Session.exec_ofExcept]
  rcases operation.run.run value with ⟨_ | made, after⟩ <;> rfl

end Copies

/-! ### Operations without a workspace -/

/-- Operations one after the other are so inside a session. -/
theorem inSession_bind (first : InPlace σ Fault Id α) (next : α → InPlace σ Fault Id β) :
    inSession (first >>= next) = inSession first >>= fun made => inSession (next made) := by
  refine eq_of_inPlace fun value workspace => ?_
  rw [exec_bind, exec_inSession, exec_inSession]
  have ran : (first >>= next).run.run value =
      match first.run.run value with
      | (.ok made, left) => (next made).run.run left
      | (.error fault, left) => (.error fault, left) := by
    unfold ExceptT.run StateT.run
    simp only [bind, ExceptT.bind, ExceptT.mk, StateT.bind, ExceptT.bindCont]
    rcases first value with ⟨_ | _, _⟩ <;> rfl
  rw [ran]
  rcases first.run.run value with ⟨_ | _, _⟩ <;> rfl

/-- The value at hand is the same inside a session. -/
theorem inSession_held : inSession (held : InPlace σ Fault Id σ) = held := rfl

/-- A check is the same inside a session. -/
theorem inSession_ofExcept (result : Except Fault α) :
    inSession (ofExcept result : InPlace σ Fault Id α) = ofExcept result := rfl

/-- A failure is the same inside a session. -/
theorem inSession_throw (fault : Fault) :
    inSession (throw fault : InPlace σ Fault Id α) = throw fault := rfl

/-- A change is the same inside a session. -/
theorem inSession_modify (change : σ → σ) :
    inSession (modify change : InPlace σ Fault Id PUnit) = modify change := rfl

/-- A branch is taken inside a session as it is outside of it. -/
theorem inSession_ite (condition : Prop) [Decidable condition] (yes no : InPlace σ Fault Id α) :
    inSession (if condition then yes else no) =
      if condition then inSession yes else inSession no := by
  split <;> rfl

/-! ### All or nothing -/

/-- The held value is left as it was. -/
def Looks (operation : InPlace σ Fault (StateM Workspace) α) : Prop :=
  ∀ value workspace, (operation.exec value workspace).1.2 = value

/-- The held value is left as it was by a failure. -/
def AllOrNothing (operation : InPlace σ Fault (StateM Workspace) α) : Prop :=
  ∀ value workspace fault left after,
    operation.exec value workspace = ((.error fault, left), after) → left = value

/-- To look at the value leaves it alone. -/
theorem looks_held : (held : InPlace σ Fault (StateM Workspace) σ).Looks := fun _ _ => rfl

/-- A check leaves the value alone. -/
theorem looks_ofExcept (result : Except Fault α) :
    (ofExcept result : InPlace σ Fault (StateM Workspace) α).Looks := fun _ _ => rfl

/-- A session leaves the value alone. -/
theorem looks_ofSession (session : Session Fault α) :
    (ofSession session : InPlace σ Fault (StateM Workspace) α).Looks := fun _ _ => rfl

/-- A change that is made without a check does not fail. -/
theorem allOrNothing_modify (change : σ → σ) :
    (modify change : InPlace σ Fault (StateM Workspace) PUnit).AllOrNothing :=
  fun _ _ _ _ _ => nofun

variable {first : InPlace σ Fault (StateM Workspace) α}
  {next : α → InPlace σ Fault (StateM Workspace) β}

/-- What only looks at the value can come first. -/
theorem Looks.bind (looks : first.Looks) (rest : ∀ made, (next made).AllOrNothing) :
    (first >>= next).AllOrNothing := by
  intro value workspace fault left after failed
  have same := looks value workspace
  rw [exec_bind] at failed
  rcases ran : first.exec value workspace with ⟨⟨_ | made, middle⟩, between⟩
  all_goals
    rw [ran] at same failed
    dsimp only at same failed
    subst same
  · exact (Prod.mk.inj (Prod.mk.inj failed).1).2.symm
  · exact rest made _ between fault left after failed

/-- A check can come first. -/
theorem AllOrNothing.check {condition : Prop} [Decidable condition] {fault : Fault}
    {next : PUnit → InPlace σ Fault (StateM Workspace) β} (rest : (next ⟨⟩).AllOrNothing) :
    AllOrNothing (if condition then throw fault >>= next else next ⟨⟩) := by
  split
  · intro value workspace _ left after failed
    rw [exec_bind] at failed
    exact (Prod.mk.inj (Prod.mk.inj failed).1).2.symm
  · exact rest

/-- What only looks at the value can come first on a condition. -/
theorem Looks.when {condition : Prop} [Decidable condition]
    {first : InPlace σ Fault (StateM Workspace) PUnit}
    {next : PUnit → InPlace σ Fault (StateM Workspace) β} (looks : first.Looks)
    (rest : (next ⟨⟩).AllOrNothing) :
    AllOrNothing (if condition then first >>= next else next ⟨⟩) := by
  split
  · exact looks.bind fun _ => rest
  · exact rest

variable {operation : InPlace σ Fault (StateM Workspace) Unit}

/-- **An operation that is all or nothing** leaves what it makes of a copy, if it succeeds, and
what there was, if it fails. -/
theorem AllOrNothing.exec_eq (whole : operation.AllOrNothing) (value : σ) (workspace : Workspace) :
    operation.exec value workspace =
      match (operation.copiedIn value).exec workspace with
      | (.ok changed, after) => ((.ok (), changed), after)
      | (.error fault, after) => ((.error fault, value), after) := by
  rw [exec_copiedIn]
  rcases ran : operation.exec value workspace with ⟨⟨fault | _, left⟩, after⟩
  · rw [whole value workspace fault left after ran]
  · rfl

/-- An operation that needs no workspace and fails leaves the held value as it was. -/
theorem AllOrNothing.run_fails {operation : InPlace σ Fault Id Unit} {value left : σ}
    {fault : Fault} (whole : operation.inSession.AllOrNothing)
    (failed : operation.run.run value = (.error fault, left)) : left = value := by
  refine whole value {} fault left {} ?_
  rw [exec_inSession, failed]

end InPlace

end Atomistic
