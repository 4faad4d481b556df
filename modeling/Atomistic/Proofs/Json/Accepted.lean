import Atomistic.Proofs.Binary64.Values
import Atomistic.Proofs.Json.RoundTrip

/-!
# Accepted texts

Every value that is read from a text can be written: its doubles are finite, its integers
are in the range of 64-bit words, the fields of its objects are in order and it is nested
no deeper than it may be.  So what was read from any text is read again from the text that
is written for it (`Atomistic.Json.parse_stable`).
-/

namespace Atomistic

namespace Json

private theorem finite?_writable {negative : Bool} {coefficient : Nat} {exponent : Int}
    {value : Json}
    (read : finite? negative coefficient exponent = some value) (depth : Nat) :
    value.Writable depth := by
  rw [finite?] at read
  split at read
  next finite => exact Option.some.inj read ▸ .real finite
  next => cases read

private theorem number_writable {negative : Bool} {whole fraction : List Char}
    {exponent : Option Int}
    {value : Json} (read : number negative whole fraction exponent = some value) (depth : Nat) :
    value.Writable depth := by
  rw [number] at read
  split at read
  · split at read
    · split at read
      · rw [← Option.some.inj read]
        exact .integer (by omega) (by omega)
      · exact finite?_writable read depth
    · split at read
      · rw [← Option.some.inj read]
        exact .integer (by omega) (by omega)
      · exact finite?_writable read depth
  · exact finite?_writable read depth

private theorem readNumber_writable {text rest : List Char} {value : Json}
    (read : readNumber text = some (value, rest)) (depth : Nat) : value.Writable depth := by
  unfold readNumber at read
  dsimp only at read
  obtain ⟨⟨whole, _⟩, _, read⟩ := Option.bind_eq_some_iff.mp read
  obtain ⟨⟨fraction, _⟩, _, read⟩ := Option.bind_eq_some_iff.mp read
  obtain ⟨⟨exponent, _⟩, _, read⟩ := Option.bind_eq_some_iff.mp read
  obtain ⟨made, numbered, same⟩ := Option.bind_eq_some_iff.mp read
  cases same
  exact number_writable numbered depth

/-- All values that a reader reads are of some kind. -/
def Reader.Gives (reader : Reader) (kind : Json → Prop) : Prop :=
  ∀ text value rest, reader text = some (value, rest) → kind value

private theorem Reader.Gives.items {reader : Reader} {kind : Json → Prop}
    (gives : reader.Gives kind)
    (fuel : Nat) : ∀ {text rest : List Char} {items : List Json},
      readItems reader fuel text = some (items, rest) → ∀ item ∈ items, kind item := by
  induction fuel with
  | zero =>
      intro text rest items read
      cases read
  | succ fuel ih =>
      intro text rest items read
      rw [readItems] at read
      obtain ⟨⟨item, after⟩, first, read⟩ := Option.bind_eq_some_iff.mp read
      have item_fine := gives _ _ _ first
      dsimp only at read
      split at read
      · obtain ⟨⟨others, last⟩, later, same⟩ := Option.bind_eq_some_iff.mp read
        cases same
        exact List.forall_mem_cons.mpr ⟨item_fine, ih later⟩
      · cases read
        exact List.forall_mem_singleton.mpr item_fine
      · cases read

private theorem Reader.Gives.fields {reader : Reader} {kind : Json → Prop}
    (gives : reader.Gives kind)
    (fuel : Nat) : ∀ {text rest : List Char} {fields : List (String × Json)},
      readFields reader fuel text = some (fields, rest) → ∀ field ∈ fields, kind field.2 := by
  induction fuel with
  | zero =>
      intro text rest fields read
      cases read
  | succ fuel ih =>
      intro text rest fields read
      rw [readFields] at read
      split at read
      · obtain ⟨⟨key, after⟩, _, read⟩ := Option.bind_eq_some_iff.mp read
        dsimp only at read
        split at read
        · obtain ⟨⟨item, after⟩, first, read⟩ := Option.bind_eq_some_iff.mp read
          have item_fine := gives _ _ _ first
          dsimp only at read
          split at read
          · obtain ⟨⟨others, last⟩, later, same⟩ := Option.bind_eq_some_iff.mp read
            cases same
            exact List.forall_mem_cons.mpr ⟨item_fine, ih later⟩
          · cases read
            exact List.forall_mem_singleton.mpr item_fine
          · cases read
        · cases read
      · cases read

/-- What is read at a depth of nesting can be written at that depth. -/
theorem readValue_writable (depth : Nat) : Reader.Gives (readValue depth) (Writable depth) := by
  induction depth using Nat.strongRecOn with
  | _ depth ih =>
    intro text value rest read
    unfold readValue at read
    split at read
    · cases read
      exact .null
    · cases read
      exact .bool true
    · cases read
      exact .bool false
    · obtain ⟨⟨chars, after⟩, _, same⟩ := Option.map_eq_some_iff.mp read
      cases same
      exact .string _
    -- an array or an object uses up one level
    · split at read
      · cases read
      next depth =>
        split at read
        · cases read
          exact .array (List.forall_mem_nil _)
        · obtain ⟨⟨items, after⟩, listed, same⟩ := Option.map_eq_some_iff.mp read
          cases same
          exact .array ((ih depth depth.lt_succ_self).items _ listed)
    · split at read
      · cases read
      next depth =>
        split at read
        · cases read
          exact .object .nil (List.forall_mem_nil _)
        · obtain ⟨⟨fields, after⟩, listed, same⟩ := Option.map_eq_some_iff.mp read
          cases same
          exact .object (Registry.sorted_ofList fields)
            (Registry.forall_ofList ((ih depth depth.lt_succ_self).fields _ listed))
    · exact readNumber_writable read depth

/-- What is read from a text can be written. -/
theorem parse_writable {text : String} {value : Json} (read : parse text = some value) :
    value.Writable maxDepth := by
  obtain ⟨⟨found, rest⟩, first, read⟩ := Option.bind_eq_some_iff.mp read
  dsimp only at read
  split at read
  · cases read
    exact readValue_writable maxDepth _ _ _ first
  · cases read

/-- All numbers in a value are integers of 64 bits or finite doubles. -/
def InRange (value : Json) : Prop := ∃ depth, value.Writable depth

/-- The items of an array in range are in range. -/
theorem InRange.items {items : List Json} (inRange : (array items).InRange) :
    ∀ item ∈ items, item.InRange := by
  obtain ⟨_, writable⟩ := inRange
  cases writable with
  | array members => exact fun item member => ⟨_, members item member⟩

/-- The fields of an object in range are in range. -/
theorem InRange.get? {value part : Json} (inRange : value.InRange) {key : String}
    (found : value.get? key = some part) : part.InRange := by
  obtain ⟨_, writable⟩ := inRange
  cases writable with
  | object _ members =>
      obtain ⟨entry, member, rfl⟩ := Registry.mem_of_find? found
      exact ⟨_, members entry member⟩
  | _ => cases found

private theorem InRange.number {value : Json} (inRange : value.InRange) {x : Binary64}
    (numbered : value.number? = some x) : x.isFinite := by
  obtain ⟨_, writable⟩ := inRange
  cases writable with
  | integer least greatest =>
      cases numbered
      exact Binary64.ofInt_finite (by omega)
  | real finite =>
      cases numbered
      exact finite
  | _ => cases numbered

/-- The numbers of values in range are finite. -/
theorem InRange.numbers {values : List Json} (inRange : ∀ value ∈ values, value.InRange) :
    ∀ {found : List Binary64}, values.mapM Json.number? = some found → ∀ x ∈ found, x.isFinite := by
  induction values with
  | nil =>
      intro found read
      cases read
      exact List.forall_mem_nil _
  | cons value rest ih =>
      intro found read
      obtain ⟨first, later⟩ := List.forall_mem_cons.mp inRange
      rw [List.mapM_cons] at read
      obtain ⟨number, numbered, read⟩ := Option.bind_eq_some_iff.mp read
      obtain ⟨numbers, all, same⟩ := Option.bind_eq_some_iff.mp read
      cases same
      exact List.forall_mem_cons.mpr ⟨first.number numbered, ih later all⟩

/-- **Accepted texts are stable.** What was read from a text is read again from the text
that is written for it. -/
theorem parse_stable {text : String} {value : Json} (read : parse text = some value) :
    parse value.dump = some value :=
  parse_dump (parse_writable read)

end Json

end Atomistic
