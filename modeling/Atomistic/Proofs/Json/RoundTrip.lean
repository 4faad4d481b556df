import Atomistic.Proofs.Json.Numbers
import Atomistic.Proofs.Json.Strings
import Atomistic.Proofs.Registries

/-!
# Documents read back

Every value that can be written is read from its text: integers within 64 bits,
finite doubles, any strings, and arrays and objects of such values, nested no deeper
than the reader goes (`Atomistic.Json.parse_dump`).
-/

namespace Atomistic

namespace Json

/-- Values that can be written and read: integers are in the range of 64-bit words,
doubles are finite, and arrays and objects are nested at most to a depth. -/
inductive Writable : Nat → Json → Prop
  | null {depth : Nat} : Writable depth null
  | bool {depth : Nat} (value : Bool) : Writable depth (bool value)
  | integer {depth : Nat} {value : Int} (least : -0x8000000000000000 ≤ value)
      (greatest : value < 0x10000000000000000) : Writable depth (integer value)
  | real {depth : Nat} {value : Binary64} (finite : value.isFinite) : Writable depth (real value)
  | string {depth : Nat} (value : String) : Writable depth (string value)
  | array {depth : Nat} {items : List Json} (members : ∀ item ∈ items, Writable depth item) :
      Writable (depth + 1) (array items)
  | object {depth : Nat} {fields : List (String × Json)} (sorted : Registry.Sorted fields)
      (members : ∀ field ∈ fields, Writable depth field.2) : Writable (depth + 1) (object fields)

/-- A text that starts with a value: its first character is neither a space nor the
end of an array. -/
def Starts (text : List Char) : Prop :=
  ∃ c rest, text = c :: rest ∧ isSpace c = false ∧ c ≠ ']'

/-- The first character of a number. -/
def NumberHead (c : Char) : Prop := c = '-' ∨ c.isDigit

private theorem NumberHead.spec {c : Char} (head : NumberHead c) :
    isSpace c = false ∧ c ≠ ']' ∧ c ≠ 'n' ∧ c ≠ 't' ∧ c ≠ 'f' ∧ c ≠ '"' ∧ c ≠ '[' ∧ c ≠ '\x7b' := by
  rcases head with rfl | digit
  · decide
  · refine ⟨?_, ?_, ?_, ?_, ?_, ?_, ?_, ?_⟩
    · simp only [isSpace, Bool.or_eq_false_iff, beq_eq_false_iff_ne]
      refine ⟨⟨⟨?_, ?_⟩, ?_⟩, ?_⟩ <;> (rintro rfl; exact absurd digit (by decide))
    all_goals (rintro rfl; exact absurd digit (by decide))

private theorem readDigits_head {text : List Char} {found : List Char × List Char}
    (read : readDigits text = some found) : ∃ c more, text = c :: more ∧ c.isDigit := by
  cases text with
  | nil => cases read
  | cons c more =>
      refine ⟨c, more, rfl, ?_⟩
      by_contra other
      rw [readDigits, List.takeWhile_cons_of_neg other] at read
      cases read

/-- What is read as a number starts like one. -/
theorem readNumber_head {text : List Char} {found : Json × List Char}
    (read : readNumber text = some found) : ∃ c more, text = c :: more ∧ NumberHead c := by
  by_cases minus : text.head? = some '-'
  · obtain ⟨more, shape⟩ := List.head?_eq_some_iff.mp minus
    exact ⟨'-', more, shape, .inl rfl⟩
  · rw [readNumber_unsigned minus, readUnsigned] at read
    cases whole : readWhole text with
    | none => simp [whole] at read
    | some digits =>
        by_cases zero : text.head? = some '0'
        · obtain ⟨more, shape⟩ := List.head?_eq_some_iff.mp zero
          exact ⟨'0', more, shape, .inr (by decide)⟩
        · rw [readWhole] at whole
          · obtain ⟨c, more, shape, digit⟩ := readDigits_head whole
            exact ⟨c, more, shape, .inr digit⟩
          · exact fun rest shape => zero (by rw [shape]; rfl)

private theorem Starts.of_number {text : List Char} {found : Json × List Char}
    (read : readNumber text = some found) : Starts text := by
  obtain ⟨c, more, shape, head⟩ := readNumber_head read
  exact ⟨c, more, shape, head.spec.1, head.spec.2.1⟩

private theorem Writable.starts {depth : Nat} {value : Json} (writable : Writable depth value)
    (indent : Nat) {rest : List Char} (ends : Ends rest) :
    Starts (write indent value ++ rest) := by
  cases writable with
  | null => exact ⟨'n', _, by rw [write]; rfl, rfl, by decide⟩
  | bool value =>
      cases value with
      | true => exact ⟨'t', _, by rw [write]; rfl, rfl, by decide⟩
      | false => exact ⟨'f', _, by rw [write]; rfl, rfl, by decide⟩
  | integer least greatest =>
      rw [write]
      exact .of_number (readNumber_writeInt least greatest ends)
  | real finite =>
      rw [write]
      exact .of_number (readNumber_text finite ends)
  | string value => exact ⟨'"', _, by rw [write, writeString]; rfl, rfl, by decide⟩
  | @array _ items members =>
      cases items with
      | nil => exact ⟨'[', _, by rw [write]; rfl, rfl, by decide⟩
      | cons item items => exact ⟨'[', _, by rw [write]; rfl, rfl, by decide⟩
  | @object _ fields sorted members =>
      cases fields with
      | nil => exact ⟨'\x7b', _, by rw [write]; rfl, rfl, by decide⟩
      | cons field fields => exact ⟨'\x7b', _, by rw [write]; rfl, rfl, by decide⟩

private theorem skipSpace_starts {text : List Char} (starts : Starts text) :
    skipSpace text = text := by
  obtain ⟨c, rest, rfl, visible, _⟩ := starts
  rw [skipSpace, List.dropWhile_cons_of_neg (by simp [visible])]

private theorem skipSpace_newline (indent : Nat) (text : List Char) :
    skipSpace (newline indent ++ text) = skipSpace text := by
  have spaces : ∀ c ∈ newline indent, isSpace c := by
    intro c member
    rcases List.mem_cons.mp member with rfl | space
    · decide
    · rw [List.eq_of_mem_replicate space]
      decide
  rw [skipSpace, List.dropWhile_append_of_pos spaces, skipSpace]

private theorem readValue_number {depth : Nat} {c : Char} {text : List Char} (head : NumberHead c) :
    readValue depth (c :: text) = readNumber (c :: text) := by
  obtain ⟨_, _, n, t, f, quote, bracket, brace⟩ := head.spec
  have other {d : Char} {rest : List Char} (different : c ≠ d) (same : c :: text = d :: rest) :
      False :=
    different (List.cons.inj same).1
  cases depth <;> rw [readValue] <;> intro rest
  all_goals first
    | exact other n
    | exact other t
    | exact other f
    | exact other quote
    | exact other bracket
    | exact other brace

private theorem readValue_of_number {depth : Nat} {text : List Char} {found : Json × List Char}
    (read : readNumber text = some found) : readValue depth text = some found := by
  obtain ⟨c, more, rfl, head⟩ := readNumber_head read
  rw [readValue_number head, read]

private theorem readValue_string (depth : Nat) (text : List Char) :
    readValue depth ('"' :: text) =
      (readString text).map fun found => (string (String.ofList found.1), found.2) := by
  cases depth <;> rfl

private theorem readValue_array (depth : Nat) {text : List Char}
    (starts : Starts (skipSpace text)) :
    readValue (depth + 1) ('[' :: text) =
      (readItems (readValue depth) (text.length + 1) text).map fun found =>
        (array found.1, found.2) := by
  obtain ⟨c, rest, shape, _, other⟩ := starts
  rw [readValue, shape]
  split
  next same => exact absurd (List.cons.inj same).1 other
  next => rfl

private theorem readValue_object (depth : Nat) {text key : List Char}
    (starts : skipSpace text = '"' :: key) :
    readValue (depth + 1) ('\x7b' :: text) =
      (readFields (readValue depth) (text.length + 1) text).map fun found =>
        (object (Registry.ofList found.1), found.2) := by
  rw [readValue, starts]
  rfl

/-- A reader finds a value in what is written for it, before anything that ends a
number. -/
def Reads (reader : Reader) (indent : Nat) (value : Json) : Prop :=
  ∀ rest, Ends rest → Starts (write indent value ++ rest) ∧
    reader (write indent value ++ rest) = some (value, rest)

private theorem ends_comma (text : List Char) : Ends (',' :: text) := by
  intro c member
  cases member
  decide

private theorem ends_newline (indent : Nat) (text : List Char) : Ends (newline indent ++ text) := by
  intro c member
  cases member
  decide

private theorem ends_writeItems (indent close : Nat) (items : List Json) (text : List Char) :
    Ends (writeItems indent items ++ (newline close ++ text)) := by
  cases items with
  | nil =>
      rw [writeItems, List.nil_append]
      exact ends_newline close text
  | cons item items =>
      rw [writeItems]
      exact ends_comma _

/-- Items are read one after the other up to the closing bracket. -/
theorem readItems_write {reader : Reader} {indent close : Nat} {items : List Json} {item : Json}
    {fuel : Nat} (reads : ∀ each ∈ item :: items, Reads reader indent each)
    (enough : items.length < fuel) (rest : List Char) :
    readItems reader fuel (newline indent ++ (write indent item ++
      (writeItems indent items ++ (newline close ++ ']' :: rest)))) =
        some (item :: items, rest) := by
  induction items generalizing item fuel with
  | nil =>
      obtain ⟨fuel, rfl⟩ := Nat.exists_eq_succ_of_ne_zero enough.ne'
      obtain ⟨starts, read⟩ := reads item List.mem_cons_self _ (ends_newline close (']' :: rest))
      rw [readItems, writeItems, List.nil_append, skipSpace_newline, skipSpace_starts starts, read]
      simp only [Option.bind_eq_bind, Option.bind_some]
      rw [skipSpace_newline]
      rfl
  | cons next items ih =>
      obtain ⟨fuel, rfl⟩ := Nat.exists_eq_succ_of_ne_zero (Nat.ne_zero_of_lt enough)
      obtain ⟨starts, read⟩ := reads item List.mem_cons_self _
        (ends_writeItems indent close (next :: items) (']' :: rest))
      have later := ih (fun each member => reads each (List.mem_cons_of_mem _ member))
        (Nat.lt_of_succ_lt_succ enough)
      rw [readItems, skipSpace_newline, skipSpace_starts starts, read, writeItems]
      simp only [Option.bind_eq_bind, Option.bind_some, List.cons_append, List.append_assoc]
      change (readItems reader fuel _ >>= _) = _
      rw [later]
      rfl

private theorem length_writeItems (indent : Nat) (items : List Json) :
    items.length ≤ (writeItems indent items).length := by
  induction items with
  | nil => exact Nat.zero_le _
  | cons item items ih =>
      rw [writeItems, List.length_cons, List.length_cons, List.length_append, List.length_append]
      omega

private theorem ends_writeFields (indent close : Nat) (fields : List (String × Json))
    (text : List Char) :
    Ends (writeFields indent fields ++ (newline close ++ text)) := by
  cases fields with
  | nil =>
      rw [writeFields, List.nil_append]
      exact ends_newline close text
  | cons field fields =>
      rw [writeFields]
      exact ends_comma _

private theorem writeString_append (key : String) (text : List Char) :
    writeString key.toList ++ text = '"' :: (key.toList.flatMap writeChar ++ '"' :: text) := by
  rw [writeString, List.cons_append, List.append_assoc]
  rfl

private theorem skipSpace_quote (text : List Char) : skipSpace ('"' :: text) = '"' :: text := rfl

/-- Fields are read one after the other up to the closing brace. -/
theorem readFields_write {reader : Reader} {indent close : Nat} {fields : List (String × Json)}
    {field : String × Json} {fuel : Nat}
    (reads : ∀ each ∈ field :: fields, Reads reader indent each.2)
    (enough : fields.length < fuel) (rest : List Char) :
    readFields reader fuel (newline indent ++ (writeString field.1.toList ++ (':' :: ' ' ::
      (write indent field.2 ++ (writeFields indent fields ++ (newline close ++ '\x7d' :: rest))))))
        =
      some (field :: fields, rest) := by
  induction fields generalizing field fuel with
  | nil =>
      obtain ⟨fuel, rfl⟩ := Nat.exists_eq_succ_of_ne_zero enough.ne'
      obtain ⟨starts, read⟩ :=
        reads field List.mem_cons_self _ (ends_newline close ('\x7d' :: rest))
      rw [readFields, writeFields, List.nil_append, skipSpace_newline, writeString_append,
        skipSpace_quote]
      simp only [readString_writeString, Option.bind_eq_bind, Option.bind_some]
      have value : skipSpace (' ' :: (write indent field.2 ++ (newline close ++ '\x7d' :: rest))) =
          write indent field.2 ++ (newline close ++ '\x7d' :: rest) := skipSpace_starts starts
      have colon (text : List Char) : skipSpace (':' :: text) = ':' :: text := rfl
      simp only [colon, value, read, Option.bind_some, skipSpace_newline, String.ofList_toList]
      rfl
  | cons next fields ih =>
      obtain ⟨fuel, rfl⟩ := Nat.exists_eq_succ_of_ne_zero (Nat.ne_zero_of_lt enough)
      obtain ⟨starts, read⟩ := reads field List.mem_cons_self _
        (ends_writeFields indent close (next :: fields) ('\x7d' :: rest))
      have later := ih (fun each member => reads each (List.mem_cons_of_mem _ member))
        (Nat.lt_of_succ_lt_succ enough)
      have value : skipSpace (' ' :: (write indent field.2 ++
          (writeFields indent (next :: fields) ++ (newline close ++ '\x7d' :: rest)))) =
          write indent field.2 ++
            (writeFields indent (next :: fields) ++ (newline close ++ '\x7d' :: rest)) :=
        skipSpace_starts starts
      have colon (text : List Char) : skipSpace (':' :: text) = ':' :: text := rfl
      have comma (text : List Char) : skipSpace (',' :: text) = ',' :: text := rfl
      rw [readFields, skipSpace_newline, writeString_append, skipSpace_quote]
      simp only [readString_writeString, Option.bind_eq_bind, Option.bind_some, colon, value, read,
        String.ofList_toList]
      rw [writeFields, List.cons_append, comma]
      simp only [List.append_assoc, List.cons_append, List.nil_append, later, Option.bind_some]
      rfl

private theorem length_writeFields (indent : Nat) (fields : List (String × Json)) :
    fields.length ≤ (writeFields indent fields).length := by
  induction fields with
  | nil => exact Nat.zero_le _
  | cons field fields ih =>
      rw [writeFields, List.length_cons, List.length_cons, List.length_append, List.length_append]
      omega

/-- **Values read back.** A value that can be written is read from its text. -/
theorem Writable.read {depth : Nat} {value : Json} (writable : Writable depth value) :
    ∀ (indent : Nat) (rest : List Char), Ends rest →
      readValue depth (write indent value ++ rest) = some (value, rest) := by
  induction writable with
  | @null depth =>
      intro indent rest ends
      rw [write]
      cases depth <;> rfl
  | @bool depth value =>
      intro indent rest ends
      cases value <;> rw [write] <;> cases depth <;> rfl
  | integer least greatest =>
      intro indent rest ends
      rw [write]
      exact readValue_of_number (readNumber_writeInt least greatest ends)
  | real finite =>
      intro indent rest ends
      rw [write]
      exact readValue_of_number (readNumber_text finite ends)
  | string value =>
      intro indent rest ends
      rw [write, writeString_append, readValue_string, readString_writeString]
      simp
  | @array depth items members ih =>
      intro indent rest ends
      cases items with
      | nil =>
          rw [write]
          rfl
      | cons item items =>
          have reads : ∀ each ∈ item :: items, Reads (readValue depth) (indent + 1) each :=
            fun each member rest ends =>
              ⟨(members each member).starts _ ends, ih each member _ rest ends⟩
          have starts := (reads item List.mem_cons_self _
            (ends_writeItems (indent + 1) indent items (']' :: rest))).1
          have enough : items.length < (newline (indent + 1) ++ (write (indent + 1) item ++
              (writeItems (indent + 1) items ++ (newline indent ++ ']' :: rest)))).length + 1 := by
            have length := length_writeItems (indent + 1) items
            simp only [List.length_append]
            omega
          rw [write]
          simp only [List.cons_append, List.append_assoc, List.nil_append]
          rw [readValue_array depth (by rwa [skipSpace_newline, skipSpace_starts starts]),
            readItems_write reads enough]
          rfl
  | @object depth fields sorted members ih =>
      intro indent rest ends
      cases fields with
      | nil =>
          rw [write]
          rfl
      | cons field fields =>
          have reads : ∀ each ∈ field :: fields, Reads (readValue depth) (indent + 1) each.2 :=
            fun each member rest ends =>
              ⟨(members each member).starts _ ends, ih each member _ rest ends⟩
          have enough : fields.length < (newline (indent + 1) ++ (writeString field.1.toList ++
              (':' :: ' ' :: (write (indent + 1) field.2 ++ (writeFields (indent + 1) fields ++
                (newline indent ++ '\x7d' :: rest)))))).length + 1 := by
            have length := length_writeFields (indent + 1) fields
            simp only [List.length_append, List.length_cons]
            omega
          rw [write]
          simp only [List.cons_append, List.append_assoc, List.nil_append]
          rw [readValue_object depth (by rw [skipSpace_newline, writeString_append]; rfl),
            readFields_write reads enough, Option.map_some, sorted.ofList_eq]

/-- **Documents read back.** A value that can be written is the value of its text. -/
theorem parse_dump {value : Json} (writable : Writable maxDepth value) :
    parse value.dump = some value := by
  have ends : Ends [] := fun _ member => nomatch member
  have starts := writable.starts 0 ends
  have read := writable.read 0 [] ends
  rw [List.append_nil] at starts read
  rw [parse, dump, String.toList_ofList, skipSpace_starts starts, read]
  rfl

end Json

end Atomistic
