/-!
# Operations in place

An operation in place changes a value that a program holds.  It can fail, and then the
value is as the operation left it.  Nothing is undone, so a failure leaves the value as it
was only if everything is checked before anything is changed.

A changed copy of a value is what an operation in place makes of the copy, if it succeeds.
-/

namespace Atomistic

/-- Operations on a held value that can fail.  A failure keeps what was done to the value. -/
abbrev InPlace (σ Fault : Type) (m : Type → Type) := ExceptT Fault (StateT σ m)

namespace InPlace

variable {σ Fault α : Type} {m : Type → Type} [Monad m]

/-- The held value. -/
def held : InPlace σ Fault m σ := get

/-- The result of a computation without state. -/
def ofExcept (result : Except Fault α) : InPlace σ Fault m α := ExceptT.mk (pure result)

/-- What an operation makes of a copy. -/
def copied (operation : InPlace σ Fault Id Unit) (value : σ) : Except Fault σ :=
  match operation.run.run value with
  | (.ok (), after) => .ok after
  | (.error fault, _) => .error fault

variable (next : α → InPlace σ Fault Id Unit) (value : σ)

/-- A copy is at hand before anything is done to it. -/
theorem copied_held_bind (next : σ → InPlace σ Fault Id Unit) :
    copied (held >>= next) value = copied (next value) value := rfl

/-- A copy is not made if a check fails that comes first. -/
theorem copied_ofExcept_bind (result : Except Fault α) :
    copied (ofExcept result >>= next) value = result >>= fun made => copied (next made) value := by
  cases result <;> rfl

/-- No copy is made after a failure. -/
theorem copied_throw_bind (fault : Fault) :
    copied (throw fault >>= next) value = throw fault := rfl

/-- A change that is made without a check is made to the copy. -/
theorem copied_modify (change : σ → σ) :
    copied (modify change : InPlace σ Fault Id Unit) value = .ok (change value) := rfl

/-- A copy is made along the branch that is taken. -/
theorem copied_ite (condition : Prop) [Decidable condition]
    (yes no : InPlace σ Fault Id Unit) :
    copied (if condition then yes else no) value =
      if condition then copied yes value else copied no value := by
  split <;> rfl

end InPlace

end Atomistic
