import Atomistic.Proofs.NeighborList.Layout

/-!
# Labels that count

Labels can be made of a name and a count, and have the entries `0, 1, …` then.  They are made for
every count and every valid name (`Atomistic.Labels.range_counted`).  But the count is brought
into the range of `int32` first, where larger counts become other numbers or negative ones, so
there are as many entries as asked for exactly if the count is less than `2 ^ 31`; of larger
counts nothing is said (`Atomistic.Labels.large_count_lost`).
-/

namespace Atomistic

namespace Labels

variable {workspace : Workspace} {name : String} {entries : List Int}

/-- How many entries there are for a count: as many as its lower 32 bits say, read as a signed
number. -/
def entryCount (count : Nat) : Nat :=
  if count % 0x100000000 < 0x80000000 then count % 0x100000000 else 0

private theorem toNat_wrap (count : Nat) : (DType.int32.wrap count).toNat = entryCount count := by
  simp only [DType.wrap, Int.bmod, entryCount]
  split <;> split <;> omega

/-- The count is kept exactly if it is in the range of `int32`. -/
theorem entryCount_eq_self_iff (count : Nat) : entryCount count = count ↔ count < 0x80000000 := by
  rw [entryCount]
  split <;> omega

private theorem counting_wrap (count : Nat) : counting (DType.int32.wrap count) =
    (List.range (entryCount count)).map Int.ofNat := by
  rw [counting, toNat_wrap]

private theorem entryCount_lt (count : Nat) : entryCount count < 0x80000000 := by
  rw [entryCount]
  split <;> omega

/-- Every entry is in the range of `int32`. -/
theorem counting_wrapped {count : Nat} {i : Int} (member : i ∈ counting (DType.int32.wrap count)) :
    DType.int32.wrap i = i := by
  rw [counting_wrap] at member
  obtain ⟨n, below, rfl⟩ := List.mem_map.mp member
  have small := (List.mem_range.mp below).trans (entryCount_lt count)
  simp only [DType.wrap, Int.bmod, Int.ofNat_eq_natCast]
  split <;> omega

private theorem length_counting (count : Nat) :
    (counting (DType.int32.wrap count)).length = entryCount count := by
  rw [counting_wrap, List.length_map, List.length_range]

/-- Entries for one name are placed, and then the name is checked. -/
theorem exec_ofFlat (wrapped : ∀ i ∈ entries, DType.int32.wrap i = i)
    (small : entries.length < 0x10000000000000000) (name : String) (workspace : Workspace) :
    (ofFlat [name] entries).exec workspace =
      (ofTensor [name] (workspace.tape.place { data := column .cpu entries }).1,
        { workspace with tape := (workspace.tape.place { data := column .cpu entries }).2 }) := by
  have data : (Dense.ofIntegers entries [entries.length / [name].length, [name].length]
      .int32).mapError Error.tensor = .ok (column .cpu entries) := by
    rw [List.length_singleton, ofIntegers_column wrapped small]
    rfl
  rw [ofFlat, if_neg (List.cons_ne_nil _ _)]
  dsimp only
  rw [if_neg (by simp [Nat.mod_one]), data, Session.exec_bind, Session.exec_ofExcept]
  dsimp only
  rw [Session.exec_bind, Session.create, Session.exec_place]
  exact Session.exec_ofExcept _ _

private theorem ofTensor_refuses (invalid : ¬ validName name) (values : Tensor) :
    ofTensor [name] values = .error (.labelName name) := by
  have found : ([name].find? fun name => !validName name) = some name := by
    simp [invalid]
  rw [ofTensor, found]
  rfl

/-- What labels of a count are made of: as many entries as the count comes to, in order. -/
theorem exec_range (name : String) (count : Nat) (workspace : Workspace) :
    ∃ values after, values.data = column .cpu ((List.range (entryCount count)).map Int.ofNat) ∧
      (range name count).exec workspace =
        (if validName name then .ok ⟨[name], values⟩ else .error (.labelName name), after) := by
  have small : (counting (DType.int32.wrap count)).length < 0x10000000000000000 := by
    rw [length_counting]
    exact (entryCount_lt count).trans (by decide)
  have ran := exec_ofFlat (fun _ => counting_wrapped) small name workspace
  rw [counting_wrap] at ran
  let placed := workspace.tape.place
    { data := column .cpu ((List.range (entryCount count)).map Int.ofNat) }
  refine ⟨placed.1, { workspace with tape := placed.2 }, rfl, ?_⟩
  rw [range, counting_wrap, ran]
  by_cases valid : validName name
  · rw [if_pos valid, ofTensor_eq (by simpa using valid) rfl rfl rfl]
  · rw [if_neg valid, ofTensor_refuses valid]

/-- **Labels count up from zero**, as far as they do.  They are made for every count, unless their
name is not valid.  The entries are the numbers from zero in order, but there are as many as asked
for only if the count is less than `2 ^ 31`: otherwise the upper bits of the count are lost, or
there are no entries at all. -/
theorem range_counted (name : String) (count : Nat) (workspace : Workspace) :
    ((∃ labels after, (range name count).exec workspace = (.ok labels, after)) ↔ validName name) ∧
    (∀ fault after, (range name count).exec workspace = (.error fault, after) →
      fault = .labelName name) ∧
    ∀ labels after, (range name count).exec workspace = (.ok labels, after) →
      labels.names = [name] ∧ labels.device = .cpu ∧
      labels.values.data.values = .integers ((List.range labels.count).map Int.ofNat) ∧
      labels.count = entryCount count ∧ (labels.count = count ↔ count < 0x80000000) := by
  obtain ⟨values, later, held, ran⟩ := exec_range name count workspace
  rw [ran]
  by_cases valid : validName name
  · rw [if_pos valid]
    refine ⟨iff_of_true ⟨_, _, rfl⟩ valid, fun fault after failed => ?_,
      fun labels after made => ?_⟩
    · cases failed
    · cases made
      have entries : Labels.count ⟨[name], values⟩ = entryCount count := by
        rw [Labels.count, Tensor.size, held]
        simp [Dense.size, column]
      rw [entries, Labels.device, Tensor.device, held]
      exact ⟨rfl, rfl, rfl, rfl, entryCount_eq_self_iff count⟩
  · rw [if_neg valid]
    refine ⟨iff_of_false ?_ valid, fun fault after failed => ?_, fun labels after made => ?_⟩
    · rintro ⟨labels, after, made⟩
      cases made
    · cases failed
      rfl
    · cases made

/-- A count that does not fit is not refused: there are no entries. -/
theorem large_count_lost : ¬ ∀ (name : String) (count : Nat) (workspace : Workspace),
    count < 0x10000000000000000 → ∀ labels after,
      (range name count).exec workspace = (.ok labels, after) →
        labels.count = count ∧
          labels.values.data.values = .integers ((List.range count).map Int.ofNat) := by
  intro counted
  have lost := (counted "atom" 0x80000000 {} (by decide) _ _ rfl).1
  exact absurd lost (by decide)

end Labels

end Atomistic
