import Atomistic.Proofs.Json.Numbers
import Atomistic.Tensor.Error
import Mathlib.Data.List.Induction

/-!
# Names of element types and devices

An element type is named by one of its short names, with the family in front of it any number of
times (`Atomistic.DType.ofName_ok_iff`).  That is more than the documentation promises, which
writes the family once or not at all; the texts that start with the family twice are the
difference (`Atomistic.DType.documented_iff`).

A device is named by its displayed name, the first graphics device by a shorthand, and every
graphics device by its index with a plus sign and zeros in front
(`Atomistic.Device.ofName_ok_iff`).  So the displayed name is read as the device,
and it is the only name whose index is written plainly (`Atomistic.Device.displayed_canonical`),
but not the only name of a graphics device (`Atomistic.Device.padded_index_accepted`).
-/

namespace Atomistic

namespace DType

/-- The names of a type without the family: its own, and a synonym of some. -/
def shortNames : DType → List String
  | bool => ["bool"]
  | uint8 => ["uint8"]
  | int8 => ["int8"]
  | int16 => ["int16"]
  | int32 => ["int32", "int"]
  | int64 => ["int64", "long"]
  | float32 => ["float32", "float"]
  | float64 => ["float64", "double"]

/-- A name of a type: a short name, with the family in front of it a number of times. -/
def Named (dtype : DType) (count : Nat) (text : String) : Prop :=
  ∃ short ∈ dtype.shortNames,
    text.toList = (List.replicate count family.toList).flatten ++ short.toList

/-- A name of a type as the documentation has it: a short name, with the family in front of it or
not. -/
def Documented (dtype : DType) (text : String) : Prop :=
  ∃ short ∈ dtype.shortNames, text = short ∨ text = family ++ short

instance (dtype : DType) (text : String) : Decidable (dtype.Documented text) :=
  inferInstanceAs (Decidable (∃ short ∈ dtype.shortNames, text = short ∨ text = family ++ short))

section Repeated

variable {front rest : List Char}

/-- What is left when every occurrence at the start is dropped. -/
theorem dropRepeated_replicate (apart : ¬ front <+: rest) {count fuel : Nat}
    (enough : count ≤ fuel) :
    dropRepeated front fuel ((List.replicate count front).flatten ++ rest) = rest := by
  induction count generalizing fuel with
  | zero =>
      cases fuel with
      | zero => rfl
      | succ fuel => exact if_neg (mt List.isPrefixOf_iff_prefix.mp apart)
  | succ count ih =>
      obtain ⟨fuel, rfl⟩ := Nat.exists_eq_add_one.mpr (Nat.zero_lt_of_lt enough)
      rw [List.replicate_succ, List.flatten_cons, List.append_assoc, dropRepeated,
        if_pos (List.isPrefixOf_iff_prefix.mpr (List.prefix_append _ _)), List.drop_left]
      exact ih (Nat.le_of_succ_le_succ enough)

/-- What was dropped are occurrences, and there is none left. -/
theorem exists_replicate (nonempty : front ≠ []) {fuel : Nat} {text : List Char}
    (enough : text.length ≤ fuel) : ∃ count,
      text = (List.replicate count front).flatten ++ dropRepeated front fuel text ∧
        ¬ front <+: dropRepeated front fuel text := by
  induction fuel generalizing text with
  | zero =>
      obtain rfl := List.length_eq_zero_iff.mp (Nat.le_zero.mp enough)
      exact ⟨0, rfl, fun first => nonempty (List.prefix_nil.mp first)⟩
  | succ fuel ih =>
      rw [dropRepeated]
      split
      next first =>
        obtain ⟨rest, rfl⟩ := List.isPrefixOf_iff_prefix.mp first
        have shorter : rest.length ≤ fuel := by
          have := List.length_pos_of_ne_nil nonempty
          rw [List.length_append] at enough
          omega
        rw [List.drop_left]
        obtain ⟨count, whole, apart⟩ := ih shorter
        refine ⟨count + 1, ?_, apart⟩
        rw [List.replicate_succ, List.flatten_cons, List.append_assoc, ← whole]
      next other => exact ⟨0, rfl, mt List.isPrefixOf_iff_prefix.mpr other⟩

end Repeated

variable {dtype : DType} {count : Nat} {text : String}

private theorem length_behind_families (count : Nat) (rest : List Char) :
    ((List.replicate count family.toList).flatten ++ rest).length = 6 * count + rest.length := by
  have six : family.toList.length = 6 := rfl
  rw [List.length_append, List.length_flatten, List.map_replicate, List.sum_replicate_nat, six,
    Nat.mul_comm]

/-- No short name starts with the family. -/
theorem shortNames_apart {short : String} (member : short ∈ dtype.shortNames) :
    ¬ family.toList <+: short.toList := by
  revert short
  cases dtype <;> decide

/-- A name is looked up without the family. -/
theorem ofName?_eq_some_iff : ofName? text = some dtype ↔
    String.ofList (dropRepeated family.toList text.length text.toList) ∈ dtype.shortNames := by
  rw [ofName?]
  generalize String.ofList (dropRepeated family.toList text.length text.toList) = short
  constructor
  · intro found
    split at found
    case h_5 =>
      have own : dtype.shortName = short := by simpa using List.find?_some found
      rw [← own]
      cases dtype <;> decide
    all_goals
      cases found
      decide
  · intro member
    revert short
    cases dtype <;> decide

/-- **The names that are read.** -/
theorem ofName?_eq_some : ofName? text = some dtype ↔ ∃ count, dtype.Named count text := by
  rw [ofName?_eq_some_iff]
  constructor
  · intro member
    obtain ⟨count, whole, _⟩ := @exists_replicate family.toList (by decide) text.length text.toList
      (Nat.le_of_eq String.length_toList)
    exact ⟨count, _, member, by rw [String.toList_ofList]; exact whole⟩
  · rintro ⟨count, short, member, whole⟩
    have long : count ≤ text.length := by
      have length := congrArg List.length whole
      rw [length_behind_families, String.length_toList] at length
      omega
    rw [whole, dropRepeated_replicate (shortNames_apart member) long, String.ofList_toList]
    exact member

/-- A text is read as the element type that it names, and as no other. -/
theorem ofName_ok_iff : ofName text = .ok dtype ↔ ∃ count, dtype.Named count text := by
  rw [← ofName?_eq_some, ofName]
  cases ofName? text with
  | none => exact iff_of_false nofun nofun
  | some found => simp

/-- A text is refused exactly if it names no element type. -/
theorem ofName_error_iff :
    ofName text = .error (.unknownDType text) ↔ ∀ dtype count, ¬ Named dtype count text := by
  have named : (∃ dtype, ofName? text = some dtype) ↔ ∃ dtype count, Named dtype count text :=
    exists_congr fun _ => ofName?_eq_some
  rw [← not_iff_not]
  push Not
  rw [← named, ofName]
  cases ofName? text with
  | none => simp
  | some found => simp

/-- A text is behind the family a number of times in one way only. -/
theorem replicate_unique {first second : List Char} {more : Nat}
    (first_apart : ¬ family.toList <+: first) (second_apart : ¬ family.toList <+: second)
    (same : (List.replicate count family.toList).flatten ++ first =
      (List.replicate more family.toList).flatten ++ second) : count = more ∧ first = second := by
  have rest : first = second := by
    rw [← dropRepeated_replicate first_apart (Nat.le_max_left count more), same,
      dropRepeated_replicate second_apart (Nat.le_max_right count more)]
  refine ⟨?_, rest⟩
  have length := congrArg List.length same
  rw [length_behind_families, length_behind_families, rest] at length
  omega

/-- A name starts with the family twice exactly if it has at least two. -/
theorem Named.doubled_iff (named : dtype.Named count text) :
    (family ++ family).toList <+: text.toList ↔ 2 ≤ count := by
  obtain ⟨short, member, whole⟩ := named
  have twice : (family ++ family).toList = (List.replicate 2 family.toList).flatten := rfl
  rw [twice, whole]
  constructor
  · rintro ⟨rest, split⟩
    obtain ⟨more, rest_whole, apart⟩ := @exists_replicate family.toList (by decide) _ rest le_rfl
    rw [rest_whole, ← List.append_assoc, ← List.flatten_append, ← List.replicate_add] at split
    have := (replicate_unique apart (shortNames_apart member) split).1
    omega
  · intro least
    obtain ⟨more, rfl⟩ := Nat.exists_eq_add_of_le least
    rw [List.replicate_add, List.flatten_append, List.append_assoc]
    exact List.prefix_append _ _

/-- The documented names have the family in front at most once. -/
theorem documented_iff_named : dtype.Documented text ↔ ∃ count ≤ 1, dtype.Named count text := by
  have once (short : String) : (List.replicate 1 family.toList).flatten ++ short.toList =
      (family ++ short).toList := by
    rw [String.toList_append]
    rfl
  constructor
  · rintro ⟨short, member, rfl | rfl⟩
    · exact ⟨0, Nat.zero_le 1, text, member, rfl⟩
    · exact ⟨1, le_rfl, short, member, (once short).symm⟩
  · rintro ⟨count, least, short, member, whole⟩
    refine ⟨short, member, ?_⟩
    rcases Nat.le_one_iff_eq_zero_or_eq_one.mp least with rfl | rfl
    · exact .inl (String.toList_injective whole)
    · exact .inr (String.toList_injective (whole.trans (once short)))

/-- **The documented names are those that are read and do not start with the family twice.** -/
theorem documented_iff : dtype.Documented text ↔
    ofName text = .ok dtype ∧ ¬ (family ++ family).toList <+: text.toList := by
  rw [documented_iff_named, ofName_ok_iff]
  constructor
  · rintro ⟨count, least, named⟩
    exact ⟨⟨count, named⟩, fun doubled => by have := named.doubled_iff.mp doubled; omega⟩
  · rintro ⟨⟨count, named⟩, single⟩
    exact ⟨count, by have := mt named.doubled_iff.mpr single; omega, named⟩

end DType

namespace Json

private theorem digitsValue_concat (digits : List Char) (last : Char) :
    digitsValue (digits ++ [last]) = 10 * digitsValue digits + (last.toNat - '0'.toNat) := by
  rw [digitsValue, List.foldl_append, Nat.mul_comm]
  rfl

private theorem digit_lt {c : Char} (digit : c.isDigit) : c.toNat - '0'.toNat < 10 := by
  have greatest : c.toNat ≤ '9'.toNat := (Char.isDigit_iff_toNat.mp digit).2
  exact (Nat.sub_le_sub_right greatest _).trans_lt (by decide)

private theorem toDigits_digit {c : Char} (digit : c.isDigit) :
    Nat.toDigits 10 (c.toNat - '0'.toNat) = [c] := by
  have least : '0'.toNat ≤ c.toNat := (Char.isDigit_iff_toNat.mp digit).1
  rw [Nat.toDigits_of_lt_base (digit_lt digit)]
  refine congrArg (fun c => [c]) (Char.toNat_inj.mp ?_)
  rw [Nat.toNat_digitChar_of_lt_ten (digit_lt digit)]
  exact Nat.add_sub_cancel' least

/-- **Digits are zeros in front of the digits of their value.** -/
theorem Digits.eq_zeros_append {digits : List Char} (made : Digits digits) :
    ∃ zeros, digits = List.replicate zeros '0' ++ Nat.toDigits 10 (digitsValue digits) := by
  obtain ⟨nonempty, all⟩ := made
  induction digits using List.reverseRecOn with
  | nil => exact absurd rfl nonempty
  | append_singleton front last ih =>
      have digit : last.isDigit := all last (by simp)
      rw [digitsValue_concat]
      by_cases alone : front = []
      · subst alone
        exact ⟨0, by simpa [digitsValue] using (toDigits_digit digit).symm⟩
      · obtain ⟨zeros, whole⟩ := ih alone fun c member => all c (by simp [member])
        rcases Nat.eq_zero_or_pos (digitsValue front) with zero | positive
        · -- There are only zeros in front of the last digit, one more than the hypothesis counts.
          have front_zeros : front = List.replicate (zeros + 1) '0' := by
            rw [zero, Nat.toDigits_zero] at whole
            rw [whole, List.replicate_succ']
          refine ⟨zeros + 1, ?_⟩
          rw [zero, Nat.mul_zero, Nat.zero_add, toDigits_digit digit, ← front_zeros]
        · refine ⟨zeros, ?_⟩
          rw [← Nat.toDigits_append_toDigits (by decide) positive (digit_lt digit),
            toDigits_digit digit, ← List.append_assoc, ← whole]

private theorem zeros_append_digits (zeros n : Nat) :
    Digits (List.replicate zeros '0' ++ Nat.toDigits 10 n) where
  ne_nil := by simp [Nat.toDigits_ne_nil]
  all c member := by
    rcases List.mem_append.mp member with zero | digit
    · exact zeros_digits zeros c zero
    · exact (toDigits_digits n).all c digit

end Json

namespace Device

open Json

variable {device : Device} {text : String} {digits : List Char} {index : Nat}

/-- The devices that there are: indices are 64-bit words. -/
def Addressable : Device → Prop
  | cuda index => index < 0x10000000000000000
  | _ => True

/-- A sign in front of an index, or none. -/
def signText (plus : Bool) : List Char := if plus then ['+'] else []

/-- The name of a graphics device with its index as it can be written: after a sign or not, and
with zeros in front. -/
def spelling (plus : Bool) (zeros index : Nat) : String :=
  "cuda:" ++ String.ofList (signText plus ++ (List.replicate zeros '0' ++ Nat.toDigits 10 index))

/-- The names of a device. -/
inductive Named : Device → String → Prop
  | cpu : Named cpu "cpu"
  | metadata : Named metadata "meta"
  | shorthand : Named (cuda 0) "cuda"
  | indexed (plus : Bool) (zeros : Nat) {index : Nat} (small : index < 0x10000000000000000) :
      Named (cuda index) (spelling plus zeros index)

/-- An index without its sign. -/
def unsigned (text : List Char) : List Char :=
  match text with
  | '+' :: rest => rest
  | _ => text

private theorem index?_eq (text : List Char) : index? text =
    if (unsigned text).isEmpty || !(unsigned text).all Char.isDigit then none
    else if digitsValue (unsigned text) < 0x10000000000000000 then
      some (digitsValue (unsigned text)) else none := by
  rfl

private theorem exists_sign (text : List Char) : ∃ plus, text = signText plus ++ unsigned text := by
  unfold unsigned
  split
  next rest => exact ⟨true, rfl⟩
  next => exact ⟨false, rfl⟩

private theorem unsigned_digits (plus : Bool) (made : Digits digits) :
    unsigned (signText plus ++ digits) = digits := by
  cases plus with
  | true => rfl
  | false =>
      obtain ⟨first, more, rfl⟩ := List.exists_cons_of_ne_nil made.ne_nil
      have digit := made.all first List.mem_cons_self
      unfold unsigned
      split
      next rest same =>
        cases same
        exact absurd digit (by decide)
      next => rfl

/-- An index is made of digits. -/
theorem digits_of_index? {text : List Char} (found : index? text = some index) :
    Digits (unsigned text) ∧ index = digitsValue (unsigned text) ∧ index < 0x10000000000000000 := by
  rw [index?_eq] at found
  split at found
  next => cases found
  next made =>
    simp only [Bool.or_eq_true, Bool.not_eq_true', not_or, List.isEmpty_iff, Bool.not_eq_false,
      List.all_eq_true] at made
    obtain ⟨small, rfl⟩ := Option.ite_some_none_eq_some.mp found
    exact ⟨⟨made.1, made.2⟩, rfl, small⟩

/-- **The indices that are read.** -/
theorem index?_eq_some_iff {text : List Char} : index? text = some index ↔
    index < 0x10000000000000000 ∧ ∃ plus zeros,
      text = signText plus ++ (List.replicate zeros '0' ++ Nat.toDigits 10 index) := by
  constructor
  · intro found
    obtain ⟨made, rfl, small⟩ := digits_of_index? found
    obtain ⟨plus, signed⟩ := exists_sign text
    obtain ⟨zeros, whole⟩ := made.eq_zeros_append
    exact ⟨small, plus, zeros, by rw [← whole]; exact signed⟩
  · rintro ⟨small, plus, zeros, rfl⟩
    have made := zeros_append_digits zeros index
    have accepted : ¬ ((List.replicate zeros '0' ++ Nat.toDigits 10 index).isEmpty ||
        !(List.replicate zeros '0' ++ Nat.toDigits 10 index).all Char.isDigit) := by
      rw [List.all_eq_true.mpr made.all, List.isEmpty_eq_false_iff.mpr made.ne_nil]
      decide
    rw [index?_eq, unsigned_digits plus made, if_neg accepted, digitsValue_zeros_append,
      digitsValue_toDigits, if_pos small]

private theorem toList_spelling (plus : Bool) (zeros index : Nat) :
    (spelling plus zeros index).toList =
    'c' :: 'u' :: 'd' :: 'a' :: ':' ::
      (signText plus ++ (List.replicate zeros '0' ++ Nat.toDigits 10 index)) := by
  simp [spelling]

/-- A text that is shorter than a name with an index is none. -/
theorem spelling_ne {plus : Bool} {zeros : Nat} {short : String} (few : short.length < 5) :
    spelling plus zeros index ≠ short := by
  rintro rfl
  rw [← String.length_toList, toList_spelling] at few
  simp only [List.length_cons] at few
  omega

/-- **The names that are read.** -/
theorem ofName?_eq_some_iff : ofName? text = some device ↔ device.Named text := by
  constructor
  · intro found
    unfold ofName? at found
    split at found
    · cases found
      exact .cpu
    · cases found
      exact .metadata
    · cases found
      exact .shorthand
    · split at found
      next digits split =>
        obtain ⟨index, read, rfl⟩ := Option.map_eq_some_iff.mp found
        obtain ⟨small, plus, zeros, rfl⟩ := index?_eq_some_iff.mp read
        have spelled : text = spelling plus zeros index :=
          String.toList_injective (split.trans (toList_spelling plus zeros index).symm)
        exact spelled ▸ .indexed plus zeros small
      next => cases found
  · intro named
    cases named with
    | cpu | metadata | shorthand => rfl
    | @indexed plus zeros index small =>
        -- The words that are tried first are too short to hold an index.
        unfold ofName?
        split
        next same => exact absurd same (spelling_ne (by decide))
        next same => exact absurd same (spelling_ne (by decide))
        next same => exact absurd same (spelling_ne (by decide))
        next =>
          rw [toList_spelling]
          exact Option.map_eq_some_iff.mpr
            ⟨index, index?_eq_some_iff.mpr ⟨small, plus, zeros, rfl⟩, rfl⟩

/-- A text is read as the device that it names, and as no other. -/
theorem ofName_ok_iff : ofName text = .ok device ↔ device.Named text := by
  rw [← ofName?_eq_some_iff, ofName]
  cases ofName? text with
  | none => exact iff_of_false nofun nofun
  | some found => simp

/-- A text is refused exactly if it names no device. -/
theorem ofName_error_iff :
    ofName text = .error (.unknownDevice text) ↔ ∀ device : Device, ¬ device.Named text := by
  simp only [← ofName?_eq_some_iff, ofName]
  cases ofName? text with
  | none => simp
  | some found => simp

/-- Only devices that there are have names. -/
theorem Named.addressable (named : device.Named text) : device.Addressable := by
  cases named with
  | cpu | metadata => trivial
  | shorthand => exact show 0 < 0x10000000000000000 by decide
  | indexed _ _ small => exact small

private theorem name_cuda (index : Nat) : (cuda index).name = spelling false 0 index := by
  rw [name, Nat.toString_eq_ofList_toDigits]
  rfl

/-- The displayed name is a name. -/
theorem Addressable.named (addressable : device.Addressable) : device.Named device.name := by
  cases device with
  | cpu => exact .cpu
  | metadata => exact .metadata
  | cuda index => exact name_cuda index ▸ .indexed false 0 addressable

/-- A sign and zeros make a name longer than the displayed one. -/
theorem name_eq_spelling_iff {plus : Bool} {zeros : Nat} :
    (cuda index).name = spelling plus zeros index ↔ plus = false ∧ zeros = 0 := by
  rw [name_cuda]
  constructor
  · intro same
    have length := congrArg (fun text : String => text.toList.length) same
    simp only [toList_spelling, List.length_cons, List.length_append,
      List.length_replicate] at length
    cases plus with
    | false =>
        refine ⟨rfl, ?_⟩
        omega
    | true =>
        have longer : (signText true).length = 1 ∧ (signText false).length = 0 := ⟨rfl, rfl⟩
        omega
  · rintro ⟨rfl, rfl⟩
    rfl

/-- However an index is written, it is the same index. -/
theorem spelling_index {plus others : Bool} {zeros more different : Nat}
    (same : spelling plus zeros index = spelling others more different) : index = different := by
  have letters := congrArg String.toList same
  simp only [toList_spelling, List.cons.injEq, true_and] at letters
  have digits := congrArg (fun text => digitsValue (unsigned text)) letters
  simpa only [unsigned_digits _ (zeros_append_digits _ _), digitsValue_zeros_append,
    digitsValue_toDigits] using digits

/-- A text in which the index, if there is one, is written without a sign and without zeros in
front. -/
def Plain (text : String) : Prop :=
  ∀ plus zeros index, text = spelling plus zeros index → plus = false ∧ zeros = 0

/-- A name other than the shorthand is the displayed one exactly if it is plain. -/
theorem Named.displayed_iff (named : device.Named text) (other : text ≠ "cuda") :
    device.name = text ↔ Plain text := by
  have plain {short : String} (few : short.length < 5) : Plain short := fun _ _ _ same =>
    absurd same.symm (spelling_ne few)
  cases named with
  | cpu => exact iff_of_true rfl (plain (by decide))
  | metadata => exact iff_of_true rfl (plain (by decide))
  | shorthand => exact absurd rfl other
  | @indexed plus zeros index small =>
      rw [name_eq_spelling_iff]
      refine ⟨fun bare others more different same => ?_, fun plain => plain plus zeros index rfl⟩
      obtain ⟨rfl, rfl⟩ := bare
      obtain rfl := spelling_index same
      exact name_eq_spelling_iff.mp ((name_cuda index).trans same)

/-- **The names of devices.** The displayed name of every device is read as the device, up to the
largest index.  All names are the displayed one, the shorthand of the first graphics device, and
the index of a graphics device after a plus sign or with zeros in front; every other text is an
error that names it.  What is read from a text other than the shorthand is displayed as this text
exactly if its index is written plainly, so no two plain texts name the same device. -/
theorem displayed_canonical (text : String) (device : Device) :
    (ofName device.name = .ok device ↔ device.Addressable) ∧
    (ofName text = .ok device ↔ device.Named text) ∧
    (ofName text = .error (.unknownDevice text) ↔ ∀ other : Device, ofName text ≠ .ok other) ∧
    (ofName text = .ok device → text ≠ "cuda" →
      (device.name = text ↔ Plain text) ∧
      ∀ other, ofName other = .ok device → other ≠ "cuda" → Plain text → Plain other →
        text = other) := by
  refine ⟨?_, ofName_ok_iff, ?_, fun read long => ?_⟩
  · rw [ofName_ok_iff]
    exact ⟨Named.addressable, Addressable.named⟩
  · rw [ofName_error_iff]
    exact forall_congr' fun _ => not_congr ofName_ok_iff.symm
  · have displayed := (ofName_ok_iff.mp read).displayed_iff long
    refine ⟨displayed, fun other again other_long plain other_plain => ?_⟩
    exact (displayed.mpr plain).symm.trans
      (((ofName_ok_iff.mp again).displayed_iff other_long).mpr other_plain)

/-- The device with the largest index is read as it is displayed, and the index after it is not
read.  A padded index is read, and not displayed as it was. -/
theorem displayed_canonical_last :
    ofName "cuda:18446744073709551615" = .ok (cuda 18446744073709551615) ∧
    ofName "cuda:18446744073709551616" ≠ .ok (cuda 18446744073709551616) ∧
    ofName "cuda:+007" = .ok (cuda 7) ∧ "cuda:+007" ≠ "cuda" ∧ ¬ Plain "cuda:+007" := by
  obtain ⟨last, _⟩ := displayed_canonical "cuda" (cuda 18446744073709551615)
  obtain ⟨beyond, _⟩ := displayed_canonical "cuda" (cuda 18446744073709551616)
  obtain ⟨_, named, _, displayed⟩ := displayed_canonical "cuda:+007" (cuda 7)
  have padded : ofName "cuda:+007" = .ok (cuda 7) :=
    named.mpr (show Named (cuda 7) (spelling true 2 7) from .indexed true 2 (by decide))
  have long : "cuda:+007" ≠ "cuda" := by decide
  refine ⟨last.mpr (show _ < _ by decide),
    fun read => absurd (beyond.mp read) (show ¬ _ < _ by decide),
    padded, long, fun plain => ?_⟩
  exact absurd ((displayed padded long).1.mpr plain) (by decide)

/-- A sign and zeros in front of an index are accepted, and then the displayed name of the device
is another text. -/
theorem padded_index_accepted :
    (¬ ∀ (text : String) (device : Device), text ≠ "cuda" → ofName text = .ok device →
      device.name = text) ∧
    ¬ ∀ (text other : String) (device : Device), text ≠ "cuda" → other ≠ "cuda" →
      ofName text = .ok device → ofName other = .ok device → text = other := by
  have signed : ofName "cuda:+1" = .ok (cuda 1) :=
    ofName_ok_iff.mpr (show Named (cuda 1) (spelling true 0 1) from .indexed true 0 (by decide))
  have padded : ofName "cuda:01" = .ok (cuda 1) :=
    ofName_ok_iff.mpr (show Named (cuda 1) (spelling false 1 1) from .indexed false 1 (by decide))
  refine ⟨fun canonical => ?_, fun unique => ?_⟩
  · exact absurd (canonical "cuda:01" (cuda 1) (by decide) padded) (by decide)
  · exact absurd (unique _ _ _ (by decide) (by decide) signed padded) (by decide)

end Device

end Atomistic
