import Atomistic.Json.Reader
import Atomistic.Json.Writer
import Mathlib.Data.Nat.Digits.Defs

/-!
# Strings in JSON

A string is read from what is written for it: every character is read from its
escape (`Atomistic.Json.readString_writeChar`), and so are the characters up to the
closing quote (`Atomistic.Json.readString_writeString`).
-/

namespace Atomistic

namespace Json

private theorem hexDigit_digitChar {digit : Nat} (small : digit < 16) :
    hexDigit? digit.digitChar = some digit := by
  have all : ∀ digit < 16, hexDigit? digit.digitChar = some digit := by decide
  exact all digit small

/-- The hexadecimal digits of a number after as many zeros as make a width. -/
def padded (width n : Nat) : List Char :=
  List.replicate (width - (Nat.toDigits 16 n).length) '0' ++ Nat.toDigits 16 n

private theorem padded_succ {width : Nat} (positive : 0 < width) (n : Nat) :
    padded (width + 1) n = padded width (n / 16) ++ [(n % 16).digitChar] := by
  by_cases small : n < 16
  · have nothing : n / 16 = 0 := by omega
    have zeros : List.replicate (width - 1) '0' ++ ['0'] = List.replicate width '0' := by
      rw [← List.replicate_succ']
      congr 1
      omega
    rw [padded, padded, nothing, Nat.toDigits_of_lt_base small, Nat.toDigits_zero,
      Nat.mod_eq_of_lt small, List.length_singleton, List.length_singleton, Nat.add_sub_cancel,
        zeros]
  · rw [padded, padded, Nat.toDigits_of_base_le (by decide) (Nat.le_of_not_lt small),
      List.length_append, List.length_singleton, Nat.add_sub_add_right, List.append_assoc]

private theorem padded_one {n : Nat} (small : n < 16) : padded 1 n = [n.digitChar] := by
  rw [padded, Nat.toDigits_of_lt_base small]
  rfl

/-- A unit is read from its digits. -/
theorem hexUnit_read {unit : Nat} (small : unit < 0x10000) :
    ∃ a b c d, hexUnit unit = [a, b, c, d] ∧ hexUnit? a b c d = some unit := by
  have digits : hexUnit unit = [(unit / 16 / 16 / 16).digitChar, (unit / 16 / 16 % 16).digitChar,
      (unit / 16 % 16).digitChar, (unit % 16).digitChar] := by
    change padded 4 unit = _
    rw [padded_succ (by decide), padded_succ (by decide), padded_succ (by decide),
      padded_one (by omega)]
    rfl
  refine ⟨_, _, _, _, digits, ?_⟩
  rw [hexUnit?, hexDigit_digitChar (by omega), hexDigit_digitChar (by omega),
    hexDigit_digitChar (by omega), hexDigit_digitChar (by omega)]
  simp only [Option.bind_eq_bind, Option.bind_some, Option.pure_def, Option.some.injEq]
  omega

/-- What was read, after a character. -/
def prepend (c : Char) (read : Option (List Char × List Char)) : Option (List Char × List Char) :=
  read.map fun found => (c :: found.1, found.2)

private theorem readString_escape {letter c : Char} (other : letter ≠ 'u')
    (escaped : escape? letter = some c)
    (text : List Char) : readString ('\\' :: letter :: text) = prepend c (readString text) := by
  rw [readString]
  · rw [escaped]
    cases readString text <;> rfl
  · exact fun _ _ _ _ _ same => absurd same other

private theorem readString_unit {unit : Nat} (small : unit < 0x10000)
    (single : unit < 0xd800 ∨ 0xe000 ≤ unit) (text : List Char) :
    readString (escapeUnit unit ++ text) = prepend (Char.ofNat unit) (readString text) := by
  obtain ⟨a, b, c, d, digits, value⟩ := hexUnit_read small
  rw [escapeUnit, digits]
  change readString ('\\' :: 'u' :: a :: b :: c :: d :: text) = _
  rw [readString, value]
  simp only [Option.bind_eq_bind, Option.bind_some]
  rw [if_neg (by omega), if_neg (by omega)]
  cases readString text <;> rfl

private theorem readString_pair {high low : Nat} (high_small : high < 0x400)
    (low_small : low < 0x400)
    (text : List Char) :
    readString (escapeUnit (0xd800 + high) ++ (escapeUnit (0xdc00 + low) ++ text)) =
      prepend (Char.ofNat (0x10000 + high * 0x400 + low)) (readString text) := by
  obtain ⟨a, b, c, d, digits, value⟩ := @hexUnit_read (0xd800 + high) (by omega)
  obtain ⟨e, f, g, h, others, other⟩ := @hexUnit_read (0xdc00 + low) (by omega)
  rw [escapeUnit, escapeUnit, digits, others]
  change readString ('\\' :: 'u' :: a :: b :: c :: d :: '\\' :: 'u' :: e :: f :: g :: h :: text) = _
  rw [readString, value]
  simp only [Option.bind_eq_bind, Option.bind_some]
  rw [if_pos (by omega), other]
  simp only [Option.bind_some]
  rw [if_pos (by omega), Nat.add_sub_cancel_left, Nat.add_sub_cancel_left]
  cases readString text <;> rfl

private theorem readString_plain {c : Char} (not_quote : c ≠ '"') (not_backslash : c ≠ '\\')
    (visible : 0x20 ≤ c.toNat) (text : List Char) :
    readString (c :: text) = prepend c (readString text) := by
  rw [readString]
  · rw [if_neg (Nat.not_lt.mpr visible)]
    cases readString text <;> rfl
  · exact not_quote
  · exact fun _ _ _ _ _ same => absurd same not_backslash
  · exact fun _ _ same => absurd same not_backslash

/-- How a character is written: after a backslash, as its number, as it is, or as the numbers
of a pair. -/
inductive Written (c : Char) : List Char → Prop
  | letter {letter : Char} (ascii : letter.toNat < 0x80) (other : letter ≠ 'u')
      (found : escape? letter = some c) : Written c ['\\', letter]
  | unit (hidden : c.toNat < 0x20 ∨ 0x80 ≤ c.toNat) (small : c.toNat < 0x10000) :
      Written c (escapeUnit c.toNat)
  | plain (not_quote : c ≠ '"') (not_backslash : c ≠ '\\') (visible : 0x20 ≤ c.toNat)
      (ascii : c.toNat < 0x80) : Written c [c]
  | pair (large : 0x10000 ≤ c.toNat) :
      Written c (escapeUnit (0xd800 + (c.toNat - 0x10000) / 0x400) ++
        escapeUnit (0xdc00 + (c.toNat - 0x10000) % 0x400))

/-- Every character is written as the reader expects it. -/
theorem writeChar_written (c : Char) : Written c (writeChar c) := by
  have escaped {letter d : Char} (same : (c == d) = true) (ascii : letter.toNat < 0x80)
      (other : letter ≠ 'u') (found : escape? letter = some d) : Written c ['\\', letter] :=
    .letter ascii other (eq_of_beq same ▸ found)
  rw [writeChar]
  refine iteInduction (fun same => escaped same (by decide) (by decide) rfl) fun quote => ?_
  refine iteInduction (fun same => escaped same (by decide) (by decide) rfl) fun backslash => ?_
  refine iteInduction (fun same => escaped same (by decide) (by decide) rfl) fun _ => ?_
  refine iteInduction (fun same => escaped same (by decide) (by decide) rfl) fun _ => ?_
  refine iteInduction (fun same => escaped same (by decide) (by decide) rfl) fun _ => ?_
  refine iteInduction (fun same => escaped same (by decide) (by decide) rfl) fun _ => ?_
  refine iteInduction (fun same => escaped same (by decide) (by decide) rfl) fun _ => ?_
  refine iteInduction (fun control => .unit (.inl control) (by omega)) fun visible => ?_
  refine iteInduction (fun ascii => ?_) fun beyond => ?_
  · exact .plain (fun same => quote (beq_iff_eq.mpr same))
      (fun same => backslash (beq_iff_eq.mpr same)) (Nat.le_of_not_lt visible) ascii
  · exact iteInduction (fun basic => .unit (.inr (Nat.le_of_not_lt beyond)) basic)
      fun large => .pair (Nat.le_of_not_lt large)

/-- **Characters read back** from what is written for them. -/
theorem readString_writeChar (c : Char) (text : List Char) :
    readString (writeChar c ++ text) = prepend c (readString text) := by
  have bound : c.toNat < 0xd800 ∨ 0xdfff < c.toNat ∧ c.toNat < 0x110000 := c.valid
  have written := writeChar_written c
  generalize writeChar c = shown at written ⊢
  cases written with
  | letter _ other found => exact readString_escape other found text
  | unit hidden small => rw [readString_unit small (by omega), Char.ofNat_toNat]
  | plain not_quote not_backslash visible _ =>
      exact readString_plain not_quote not_backslash visible text
  | pair large =>
      have value : 0x10000 + (c.toNat - 0x10000) / 0x400 * 0x400 + (c.toNat - 0x10000) % 0x400 =
          c.toNat := by
        omega
      rw [List.append_assoc, readString_pair (by omega) (by omega), value, Char.ofNat_toNat]

/-- **Strings read back.** -/
theorem readString_writeString (chars rest : List Char) :
    readString (chars.flatMap writeChar ++ '"' :: rest) = some (chars, rest) := by
  induction chars with
  | nil => rw [List.flatMap_nil, List.nil_append, readString]
  | cons c chars ih =>
      rw [List.flatMap_cons, List.append_assoc, readString_writeChar, ih]
      rfl

end Json

end Atomistic
