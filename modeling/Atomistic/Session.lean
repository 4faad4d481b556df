import Atomistic.Autograd.Tape
import Atomistic.InPlace
import Atomistic.Journal

/-!
# Sessions

A session is a run of operations that share a tape and a journal.  An operation
that fails keeps what it did to both before it failed.
-/

namespace Atomistic

/-- What the operations of a session share. -/
structure Workspace where
  tape : Tape := {}
  /-- The records so far, the oldest first. -/
  journal : List Record := []

/-- Operations on a workspace that can fail. -/
abbrev Session (Fault : Type) := ExceptT Fault (StateM Workspace)

namespace Session

variable {Fault : Type}

/-- The tape. -/
def tape : Session Fault Tape := return (← get).tape

/-- Replace the tape. -/
def setTape (tape : Tape) : Session Fault Unit := modify fun workspace => { workspace with tape }

/-- Write a record. -/
def note (level : Level) (target text : String) : Session Fault Unit :=
  modify fun workspace =>
    { workspace with journal := workspace.journal ++ [⟨level, target, text⟩] }

/-- The result of a computation without state. -/
def ofExcept {α : Type} (result : Except Fault α) : Session Fault α := ExceptT.mk (pure result)

/-- A new tensor. -/
def place (outcome : Outcome) : Session Fault Tensor := do
  let (tensor, tape) := (← tape).place outcome
  setTape tape
  return tensor

/-- A new tensor in a buffer of its own. -/
def create (data : Dense) : Session Fault Tensor := place { data }

/-- What the tape knows about a tensor. -/
def gradState (tensor : Tensor) : Session Fault GradState :=
  return (← tape).state tensor.number

/-- Whether a tensor requires a gradient. -/
def requiresGrad (tensor : Tensor) : Session Fault Bool :=
  return (← gradState tensor).requiresGrad

end Session

namespace InPlace

variable {σ Fault α : Type}

/-- A session that does not see the held value. -/
def ofSession (session : Session Fault α) : InPlace σ Fault (StateM Workspace) α :=
  ExceptT.mk (StateT.lift session.run)

/-- An operation that needs no workspace, in one. -/
def inSession (operation : InPlace σ Fault Id α) : InPlace σ Fault (StateM Workspace) α :=
  ExceptT.mk fun held => pure (operation.run.run held)

/-- What an operation in a workspace makes of a copy. -/
def copiedIn (operation : InPlace σ Fault (StateM Workspace) Unit) (value : σ) :
    Session Fault σ :=
  ExceptT.mk fun workspace =>
    match (operation.run.run value).run workspace with
    | ((.ok (), left), after) => (.ok left, after)
    | ((.error fault, _), after) => (.error fault, after)

end InPlace

end Atomistic
