import Atomistic.Proofs.Json.Accepted

/-!
# Writing and reading back

Whatever value is written, its text has only characters of ASCII
(`Atomistic.Json.dump_ascii`).  A value with numbers in range is read back from its text
exactly if it is nested no deeper than the reader goes (`Atomistic.Json.parse_dump_iff`).
-/

namespace Atomistic

namespace Json

/-- A text with characters of ASCII only. -/
def Ascii (text : List Char) : Prop := ∀ c ∈ text, c.toNat < 0x80

section Ascii

variable {text more : List Char} {c : Char}

private theorem Ascii.nil : Ascii [] := List.forall_mem_nil _

private theorem Ascii.cons (first : c.toNat < 0x80) (rest : Ascii text) : Ascii (c :: text) :=
  List.forall_mem_cons.mpr ⟨first, rest⟩

private theorem Ascii.append (first : Ascii text) (rest : Ascii more) : Ascii (text ++ more) :=
  List.forall_mem_append.mpr ⟨first, rest⟩

private theorem Ascii.replicate (first : c.toNat < 0x80) (count : Nat) :
    Ascii (List.replicate count c) := by
  intro other member
  rw [List.eq_of_mem_replicate member]
  exact first

private theorem Ascii.of_all (all : text.all fun c => c.toNat < 0x80) : Ascii text := by
  simpa [Ascii] using all

private theorem ascii_toDigits {base : Nat} (large : 1 < base) (small : base ≤ 16) (n : Nat) :
    Ascii (Nat.toDigits base n) := by
  have digit : ∀ digit < 16, digit.digitChar.toNat < 0x80 := by decide
  induction n using Nat.strongRecOn with
  | ind n ih =>
      rw [Nat.toDigits_eq_if large]
      split
      next less => exact .cons (digit n (less.trans_le small)) .nil
      next more =>
        have fewer : n / base < n := Nat.div_lt_self (by omega) large
        have last : n % base < base := Nat.mod_lt n (by omega)
        exact (ih _ fewer).append (.cons (digit _ (last.trans_le small)) .nil)

end Ascii

private theorem ascii_escapeUnit (unit : Nat) : Ascii (escapeUnit unit) :=
  .cons (by decide) (.cons (by decide)
    ((Ascii.replicate (by decide) _).append (ascii_toDigits (by decide) (by decide) unit)))

/-- A character that is not of ASCII is escaped. -/
theorem ascii_writeChar (c : Char) : Ascii (writeChar c) := by
  have written := writeChar_written c
  generalize writeChar c = shown at written ⊢
  cases written with
  | letter ascii _ _ => exact .cons (by decide) (.cons ascii .nil)
  | unit _ _ => exact ascii_escapeUnit _
  | plain _ _ _ ascii => exact .cons ascii .nil
  | pair _ => exact (ascii_escapeUnit _).append (ascii_escapeUnit _)

private theorem ascii_writeString (chars : List Char) : Ascii (writeString chars) := by
  have inside : Ascii (chars.flatMap writeChar) := by
    intro c member
    obtain ⟨source, _, written⟩ := List.mem_flatMap.mp member
    exact ascii_writeChar source c written
  exact .cons (by decide) (inside.append (.cons (by decide) .nil))

private theorem ascii_writeInt (i : Int) : Ascii (writeInt i) := by
  have digits := ascii_toDigits (by decide : 1 < 10) (by decide) i.natAbs
  rw [writeInt]
  split
  · exact .cons (by decide) digits
  · exact digits

private theorem ascii_newline (depth : Nat) : Ascii (newline depth) :=
  .cons (by decide) (.replicate (by decide) _)

private theorem Ascii.positionalText {digits : List Char} (ascii : Ascii digits) (point : Int)
    (wholePart : Bool) : Ascii (Layout.positionalText digits point wholePart) := by
  rw [Layout.positionalText]
  split
  · exact .cons (by decide) (.cons (by decide) ((Ascii.replicate (by decide) _).append ascii))
  split
  · refine (ascii.append (.replicate (by decide) _)).append ?_
    split
    · exact .cons (by decide) (.cons (by decide) .nil)
    · exact .nil
  · have front : Ascii (digits.take point.toNat) := fun c member =>
      ascii c (List.mem_of_mem_take member)
    have back : Ascii (digits.drop point.toNat) := fun c member =>
      ascii c (List.mem_of_mem_drop member)
    exact front.append (.cons (by decide) back)

private theorem Ascii.exponentText {digits : List Char} (ascii : Ascii digits) (point : Int)
    (plusSign : Bool) : Ascii (Layout.exponentText digits point plusSign) := by
  have sign : Ascii (if point - 1 < 0 then ['-'] else if plusSign then ['+'] else []) := by
    split
    · exact .cons (by decide) .nil
    split
    · exact .cons (by decide) .nil
    · exact .nil
  have exponent := sign.append (ascii_toDigits (by decide : 1 < 10) (by decide) (point - 1).natAbs)
  unfold Layout.exponentText
  refine Ascii.append ?_ (.cons (by decide) exponent)
  split
  next first second rest =>
    obtain ⟨head, tail⟩ := List.forall_mem_cons.mp ascii
    exact .cons head (.cons (by decide) tail)
  · exact ascii

private theorem ascii_layout (layout : Layout) (x : Binary64) : Ascii (layout.text x).toList := by
  have digits := ascii_toDigits (by decide : 1 < 10) (by decide)
    (Decimal.shortest layout.tie x).coefficient
  have magnitude : Ascii (layout.magnitudeText x) := by
    rw [Layout.magnitudeText]
    split
    · exact digits.positionalText _ _
    · exact digits.exponentText _ _
  rw [Layout.text]
  split
  · rw [String.toList_ofList]
    split
    · exact .cons (by decide) magnitude
    · exact magnitude
  · rw [Layout.specialText]
    split
    · exact .of_all rfl
    split
    · exact .of_all rfl
    · exact .of_all rfl

mutual

/-- **Texts are of ASCII**, whatever is written. -/
theorem ascii_write (depth : Nat) : ∀ value : Json, Ascii (write depth value)
  | null => by
      rw [write]
      exact .of_all rfl
  | bool true => by
      rw [write]
      exact .of_all rfl
  | bool false => by
      rw [write]
      exact .of_all rfl
  | integer value => by
      rw [write]
      exact ascii_writeInt value
  | real value => by
      rw [write]
      exact ascii_layout _ value
  | string value => by
      rw [write]
      exact ascii_writeString _
  | array [] => by
      rw [write]
      exact .of_all rfl
  | array (item :: items) => by
      have first := (ascii_newline (depth + 1)).append (ascii_write (depth + 1) item)
      have close := (ascii_newline depth).append (.cons (by decide : ']'.toNat < 0x80) .nil)
      rw [write, List.append_assoc]
      exact .cons (by decide) ((first.append (ascii_writeItems (depth + 1) items)).append close)
  | object [] => by
      rw [write]
      exact .of_all rfl
  | object ((key, value) :: fields) => by
      have close := (ascii_newline depth).append (.cons (by decide : '\x7d'.toNat < 0x80) .nil)
      have start := ((ascii_newline (depth + 1)).append (ascii_writeString key.toList)).append
        (.cons (by decide : ':'.toNat < 0x80) (.cons (by decide : ' '.toNat < 0x80) .nil))
      rw [write, List.append_assoc]
      exact .cons (by decide) (((start.append (ascii_write (depth + 1) value)).append
        (ascii_writeFields (depth + 1) fields)).append close)

/-- The items of an array are written in ASCII. -/
theorem ascii_writeItems (depth : Nat) : ∀ items : List Json, Ascii (writeItems depth items)
  | [] => by
      rw [writeItems]
      exact .nil
  | item :: items => by
      rw [writeItems]
      exact .cons (by decide) (((ascii_newline depth).append (ascii_write depth item)).append
        (ascii_writeItems depth items))

/-- The fields of an object are written in ASCII. -/
theorem ascii_writeFields (depth : Nat) :
    ∀ fields : List (String × Json), Ascii (writeFields depth fields)
  | [] => by
      rw [writeFields]
      exact .nil
  | (key, value) :: fields => by
      have start := ((ascii_newline depth).append (ascii_writeString key.toList)).append
        (.cons (by decide : ':'.toNat < 0x80) (.cons (by decide : ' '.toNat < 0x80) .nil))
      rw [writeFields]
      exact .cons (by decide) ((start.append (ascii_write depth value)).append
        (ascii_writeFields depth fields))

end

/-- Every value is written in ASCII. -/
theorem dump_ascii (value : Json) : Ascii value.dump.toList := by
  rw [dump, String.toList_ofList]
  exact ascii_write 0 value

mutual

/-- How deep arrays and objects are nested in a value. -/
def depth : Json → Nat
  | array items => depthItems items + 1
  | object fields => depthFields fields + 1
  | _ => 0

/-- The depth of the deepest item. -/
def depthItems : List Json → Nat
  | [] => 0
  | item :: items => max item.depth (depthItems items)

/-- The depth of the deepest field. -/
def depthFields : List (String × Json) → Nat
  | [] => 0
  | (_, value) :: fields => max value.depth (depthFields fields)

end

private theorem depthItems_le {items : List Json} {most : Nat} :
    depthItems items ≤ most ↔ ∀ item ∈ items, item.depth ≤ most := by
  induction items with
  | nil => simp [depthItems]
  | cons item items ih => rw [depthItems, Nat.max_le, ih, List.forall_mem_cons]

private theorem depthFields_le {fields : List (String × Json)} {most : Nat} :
    depthFields fields ≤ most ↔ ∀ field ∈ fields, field.2.depth ≤ most := by
  induction fields with
  | nil => simp [depthFields]
  | cons field fields ih => rw [depthFields, Nat.max_le, ih, List.forall_mem_cons]

/-- The values of documents: integers are in the range of 64-bit words, signed or unsigned,
doubles are finite, strings are arbitrary, and objects have distinct keys, whose order does
not count. -/
inductive Plain : Json → Prop
  | null : Plain null
  | bool (value : Bool) : Plain (bool value)
  | integer {value : Int} (least : -0x8000000000000000 ≤ value)
      (greatest : value < 0x10000000000000000) : Plain (integer value)
  | real {value : Binary64} (finite : value.isFinite) : Plain (real value)
  | string (value : String) : Plain (string value)
  | array {items : List Json} (members : ∀ item ∈ items, Plain item) : Plain (array items)
  | object {fields : List (String × Json)} (distinct : (fields.map Prod.fst).Nodup)
      (members : ∀ field ∈ fields, Plain field.2) : Plain (object (Registry.ofList fields))

/-- What can be written at a depth is nested no deeper. -/
theorem Writable.depth_le {most : Nat} {value : Json} (writable : Writable most value) :
    value.depth ≤ most := by
  induction writable with
  | null | bool | integer | real | string => exact Nat.zero_le _
  | array _ ih => exact Nat.succ_le_succ (depthItems_le.mpr ih)
  | object _ _ ih => exact Nat.succ_le_succ (depthFields_le.mpr ih)

/-- Values with numbers in range can be written at any depth that is enough. -/
theorem Plain.writable {value : Json} (plain : value.Plain) :
    ∀ {most : Nat}, value.depth ≤ most → Writable most value := by
  induction plain with
  | null => exact fun _ => .null
  | bool value => exact fun _ => .bool value
  | integer least greatest => exact fun _ => .integer least greatest
  | real finite => exact fun _ => .real finite
  | string value => exact fun _ => .string value
  | @array items _ ih =>
      intro most nested
      obtain ⟨most, rfl⟩ :=
        Nat.exists_eq_add_one_of_ne_zero (Nat.ne_of_gt (Nat.zero_lt_of_lt nested))
      have inside := depthItems_le.mp (Nat.le_of_succ_le_succ nested)
      exact .array fun item member => ih item member (inside item member)
  | @object fields _ _ ih =>
      intro most nested
      obtain ⟨most, rfl⟩ :=
        Nat.exists_eq_add_one_of_ne_zero (Nat.ne_of_gt (Nat.zero_lt_of_lt nested))
      have inside := depthFields_le.mp (Nat.le_of_succ_le_succ nested)
      have all := @Registry.forall_ofList _ _ _
        (fun value => value.depth ≤ most → Writable most value) fields
        fun field member nested => ih field member nested
      exact .object (Registry.sorted_ofList fields) fun field member =>
        all field member (inside field member)

/-- **Writing and reading back is the identity.**  The text of a value has only characters of
ASCII, and it is read as the value exactly if that is nested at most 127 deep. -/
theorem parse_dump_iff {value : Json} (plain : value.Plain) :
    (∀ c ∈ value.dump.toList, c.toNat < 0x80) ∧
      (parse value.dump = some value ↔ value.depth ≤ 127) := by
  refine ⟨dump_ascii value, fun read => ?_, fun nested => ?_⟩
  · exact (parse_writable read).depth_le
  · exact parse_dump (plain.writable nested)

/-- An object whose keys are not in order, with a quote and a control character in a key, a
character outside of the basic plane, and the integers at both ends of the range. -/
def mixed : Json :=
  object (Registry.ofList [
    ("\"\x01", array [string (String.singleton (Char.ofNat 0x1f600)), null,
      integer (-0x8000000000000000)]),
    ("", array [array [], real .one, integer 0xffffffffffffffff])])

/-- A value with every kind of part is three levels deep and is read back. -/
theorem parse_dump_mixed : mixed.Plain ∧ mixed.depth = 3 ∧ parse mixed.dump = some mixed := by
  have plain : mixed.Plain := by
    refine .object (by decide) ?_
    simp only [List.forall_mem_cons]
    refine ⟨.array ?_, .array ?_, List.forall_mem_nil _⟩
    all_goals simp only [List.forall_mem_cons]
    · exact ⟨.string _, .null, .integer (by decide) (by decide), List.forall_mem_nil _⟩
    · exact ⟨.array (List.forall_mem_nil _), .real rfl, .integer (by decide) (by decide),
        List.forall_mem_nil _⟩
  exact ⟨plain, by decide, (parse_dump_iff plain).2.mpr (by decide)⟩

end Json

end Atomistic
