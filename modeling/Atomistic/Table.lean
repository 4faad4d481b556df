/-!
# Tables

A table holds values under numbers, at most one under each.
-/

namespace Atomistic

/-- Values under numbers. -/
structure Table (α : Type) where
  entries : List (Nat × α) := []

namespace Table

variable {α : Type}

/-- The value under a number. -/
def get? (table : Table α) (number : Nat) : Option α := table.entries.lookup number

/-- The table without the value under a number. -/
def erase (table : Table α) (number : Nat) : Table α :=
  ⟨table.entries.filter fun entry => entry.1 != number⟩

/-- The table with a value under a number, in place of the one that was there. -/
def set (table : Table α) (number : Nat) (value : α) : Table α :=
  ⟨(number, value) :: (table.erase number).entries⟩

/-- An empty table has no values. -/
@[simp] theorem get?_empty (number : Nat) : get? ({} : Table α) number = none := rfl

/-- A table with one value has no others. -/
@[simp] theorem get?_singleton (number : Nat) (value : α) (other : Nat) :
    get? ⟨[(number, value)]⟩ other = if other = number then some value else none := by
  by_cases same : other = number
  · subst same
    simp [get?]
  · have skipped : (other == number) = false := beq_eq_false_iff_ne.mpr same
    rw [get?, List.lookup_cons, skipped, if_neg same]
    rfl

private theorem lookup_filter (entries : List (Nat × α)) (number other : Nat) :
    (entries.filter fun entry => entry.1 != number).lookup other =
      if other = number then none else entries.lookup other := by
  induction entries with
  | nil => simp
  | cons entry entries ih =>
    by_cases dropped : entry.1 = number
    · rw [List.filter_cons_of_neg (by simp [dropped]), ih]
      by_cases same : other = number
      · rw [if_pos same, if_pos same]
      · have skipped : (other == entry.1) = false := by
          rw [dropped]
          exact beq_eq_false_iff_ne.mpr same
        rw [List.lookup_cons, skipped, if_neg same]
    · rw [List.filter_cons_of_pos (by simp [dropped])]
      by_cases same : other = number
      · have apart : (other == entry.1) = false := by
          rw [beq_eq_false_iff_ne]
          exact fun equal => dropped (equal.symm.trans same)
        rw [List.lookup_cons, apart, ih, if_pos same, if_pos same]
      · rw [List.lookup_cons, List.lookup_cons, ih, if_neg same, if_neg same]

/-- What was erased is gone, and the rest stays. -/
@[simp] theorem get?_erase (table : Table α) (number other : Nat) :
    (table.erase number).get? other = if other = number then none else table.get? other :=
  lookup_filter table.entries number other

/-- What was set is there, and the rest stays. -/
@[simp] theorem get?_set (table : Table α) (number : Nat) (value : α) (other : Nat) :
    (table.set number value).get? other = if other = number then some value
      else table.get? other := by
  by_cases same : other = number
  · subst same
    simp [get?, set]
  · have skipped : (other == number) = false := beq_eq_false_iff_ne.mpr same
    rw [if_neg same, get?, set, List.lookup_cons, skipped]
    exact (table.get?_erase number other).trans (if_neg same)

end Table

end Atomistic
