import Atomistic.Proofs.Results
import Atomistic.Units
import Mathlib.Data.List.Nodup

/-!
# Units and their spelling

The size of a unit is found in the table of its quantity (`Atomistic.Units.size_ok_iff`), and
what one unit is converted to another by is the quotient of the two sizes, or one if either unit
is empty (`Atomistic.Units.conversion_ok_iff`).  Blanks around a name and the case of its letters
do not matter, as long as no blank text stands for the empty unit
(`Atomistic.Units.spelling_free`): that is spelled as no text at all, and a blank text is not the
name of any unit (`Atomistic.Units.blank_is_not_empty`).
-/

namespace Atomistic

namespace Text

private theorem isUpper_range {c : Char} : c.isUpper ↔ c.val ≥ 'A'.val ∧ c.val ≤ 'Z'.val :=
  decide_eq_true_iff

private theorem isUpper_iff (c : Char) : c.isUpper ↔ 65 ≤ c.toNat ∧ c.toNat ≤ 90 := by
  rw [isUpper_range, ge_iff_le, UInt32.le_iff_toNat_le, UInt32.le_iff_toNat_le]
  rfl

private theorem toLower_of_not_upper {c : Char} (other : ¬ c.isUpper) : c.toLower = c :=
  dif_neg (mt isUpper_range.mpr other)

private theorem toNat_toLower {c : Char} (upper : c.isUpper) : c.toLower.toNat = c.toNat + 32 := by
  have shifted : c.toLower.val = c.val + 32 :=
    congrArg Char.val (dif_pos (isUpper_range.mp upper))
  have most := ((isUpper_iff c).mp upper).2
  have sum : c.toLower.toNat = (c.toNat + 32) % 2 ^ 32 := by
    rw [Char.toNat, shifted, UInt32.toNat_add]
    rfl
  omega

/-- Letters of ASCII can be put in lower case before all letters are. -/
theorem lower_toLower (c : Char) : lower c.toLower = lower c := by
  by_cases upper : c.isUpper
  · have shifted := toNat_toLower upper
    have range := (isUpper_iff c).mp upper
    have settled : ¬ c.toLower.isUpper := fun again => by
      have := (isUpper_iff c.toLower).mp again
      omega
    have plain (d : Char) (small : d.toNat < 0x212a) : lower d = d.toLower := by
      refine if_neg fun kelvin => ?_
      rw [beq_iff_eq.mp kelvin] at small
      exact absurd small (by decide)
    rw [plain c.toLower (by omega), plain c (by omega), toLower_of_not_upper settled]
  · rw [toLower_of_not_upper upper]

/-- Texts that are the same without the blanks at both ends and with the letters of ASCII in
lower case. -/
def Alike (first second : String) : Prop :=
  (trim first.toList).map Char.toLower = (trim second.toList).map Char.toLower

instance (first second : String) : Decidable (Alike first second) :=
  inferInstanceAs (Decidable (_ = _))

private theorem Alike.symm {first second : String} (alike : Alike first second) :
    Alike second first :=
  Eq.symm alike

end Text

namespace Units

open Text

variable {quantity unit source target : String} {amount factor : Binary64}

/-- A unit of a quantity is of some size: its name, put in the form in which units are looked up,
is listed with the size. -/
def Measures (quantity unit : String) (amount : Binary64) : Prop :=
  ∃ table names, table? quantity = some table ∧ (names, amount) ∈ table ∧ canonical unit ∈ names

/-- A unit that can be given for a quantity: the empty one, or one that is of some size. -/
def Accepts (quantity unit : String) : Prop := unit = "" ∨ ∃ amount, Measures quantity unit amount

/-- What a unit is converted to another by. -/
inductive Converts (quantity source target : String) : Binary64 → Prop
  | unspecified (listed : (table? quantity).isSome) (source_accepted : Accepts quantity source)
      (target_accepted : Accepts quantity target) (either : source = "" ∨ target = "") :
      Converts quantity source target .one
  | ratio {source_amount target_amount : Binary64} (source_named : source ≠ "")
      (target_named : target ≠ "") (source_measures : Measures quantity source source_amount)
      (target_measures : Measures quantity target target_amount) :
      Converts quantity source target (source_amount.div target_amount)

/-- Units that are spelled alike are looked up under the same name. -/
theorem canonical_eq {first second : String} (alike : Alike first second) :
    canonical first = canonical second := by
  have through (text : List Char) : text.map lower = (text.map Char.toLower).map lower := by
    rw [List.map_map]
    exact List.map_congr_left fun c _ => (lower_toLower c).symm
  rw [canonical, canonical, fold, fold, String.toList_ofList, String.toList_ofList, through, alike,
    ← through]

/-- No name is listed twice for a quantity, and the empty text is not listed. -/
theorem table_names {table : List (List String × Binary64)}
    (listed : table? quantity = some table) :
    (table.flatMap Prod.fst).Nodup ∧ "" ∉ table.flatMap Prod.fst := by
  unfold table? at listed
  split at listed
  · cases listed
    exact ⟨by decide, by decide⟩
  · cases listed
    exact ⟨by decide, by decide⟩
  · cases listed

/-- The entry of a name that no other entry has. -/
theorem find?_name {table : List (List String × Binary64)} {names : List String} {name : String}
    (distinct : table.Pairwise (Function.onFun List.Disjoint Prod.fst))
    (member : (names, amount) ∈ table) (named : name ∈ names) :
    (table.find? fun entry => entry.1.contains name) = some (names, amount) := by
  induction table with
  | nil => cases member
  | cons entry rest ih =>
      obtain ⟨apart, distinct⟩ := List.pairwise_cons.mp distinct
      rw [List.find?_cons]
      rcases List.mem_cons.mp member with same | later
      · rw [← same, List.contains_iff_mem.mpr named]
      · have other : entry.1.contains name = false := by
          rw [Bool.eq_false_iff, ne_eq, List.contains_iff_mem]
          exact fun first => apart _ later first named
        rw [other]
        exact ih distinct later

/-- **The size of a unit** is the one that is listed with its name. -/
theorem size_ok_iff : size quantity unit = .ok amount ↔ Measures quantity unit amount := by
  rw [size]
  constructor
  · intro found
    split at found
    · cases found
    next table listed =>
      split at found
      next entry first =>
        cases found
        have named := List.find?_some first
        exact ⟨table, entry.1, listed, List.mem_of_find?_eq_some first,
          List.contains_iff_mem.mp named⟩
      · cases found
  · rintro ⟨table, names, listed, member, named⟩
    rw [listed]
    dsimp only
    rw [find?_name (List.nodup_flatMap.mp (table_names listed).1).2 member named]

/-- A unit without a size is an error that names it. -/
theorem size_unmeasured (listed : (table? quantity).isSome)
    (unmeasured : ∀ amount, ¬ Measures quantity unit amount) :
    size quantity unit = .error (.unknownUnit quantity unit) := by
  obtain ⟨table, listed⟩ := Option.isSome_iff_exists.mp listed
  cases looked : size quantity unit with
  | ok amount => exact absurd (size_ok_iff.mp looked) (unmeasured amount)
  | error fault =>
      rw [size, listed] at looked
      dsimp only at looked
      split at looked
      · cases looked
      · exact looked.symm

/-- A text that is blank is not the name of a unit. -/
theorem not_measures_blank {blank : String} (alike : Alike "" blank) :
    ¬ Measures quantity blank amount := by
  rintro ⟨table, names, listed, member, named⟩
  rw [← canonical_eq alike] at named
  exact (table_names listed).2 (List.mem_flatMap.mpr ⟨_, member, named⟩)

/-- A blank text is accepted only if it is empty. -/
theorem not_accepts_blank {blank : String} (alike : Alike "" blank) (apart : blank ≠ "") :
    ¬ Accepts quantity blank :=
  not_or.mpr ⟨apart, fun ⟨_, measures⟩ => not_measures_blank alike measures⟩

private theorem size_unlisted (unlisted : table? quantity = none) :
    size quantity unit = .error (.unknownQuantity quantity) := by
  rw [size, unlisted]

/-- **The units that are accepted**, for quantities that there are. -/
theorem validate_ok_iff : validate quantity unit = .ok () ↔
    (table? quantity).isSome ∧ Accepts quantity unit := by
  rw [validate]
  cases listed : table? quantity with
  | none =>
      rw [size_unlisted listed]
      exact iff_of_false nofun nofun
  | some table =>
      have there : (table? quantity).isSome := Option.isSome_iff_exists.mpr ⟨table, listed⟩
      by_cases measured : ∃ amount, Measures quantity unit amount
      · obtain ⟨amount, measures⟩ := measured
        rw [size_ok_iff.mpr measures]
        exact iff_of_true rfl ⟨rfl, .inr ⟨amount, measures⟩⟩
      · rw [size_unmeasured there (not_exists.mp measured), Accepts, or_iff_left measured]
        by_cases empty : unit = "" <;> simp [empty]

/-- A unit that is not accepted is named by the error. -/
theorem validate_refuses (listed : (table? quantity).isSome) (refused : ¬ Accepts quantity unit) :
    validate quantity unit = .error (.unknownUnit quantity unit) := by
  obtain ⟨named, unmeasured⟩ := not_or.mp refused
  rw [validate, size_unmeasured listed (not_exists.mp unmeasured)]
  exact if_neg named

/-- **What units are converted by.** -/
theorem conversion_ok_iff : conversion quantity source target = .ok factor ↔
    Converts quantity source target factor := by
  constructor
  · intro converted
    obtain ⟨_, source_valid, rest⟩ := ok_of_bind converted
    obtain ⟨_, target_valid, rest⟩ := ok_of_bind rest
    obtain ⟨listed, source_accepted⟩ := validate_ok_iff.mp source_valid
    have target_accepted := (validate_ok_iff.mp target_valid).2
    split at rest
    next either =>
      cases rest
      exact .unspecified listed source_accepted target_accepted either
    next named =>
      obtain ⟨source_named, target_named⟩ := not_or.mp named
      obtain ⟨_, source_found, rest⟩ := ok_of_bind rest
      obtain ⟨_, target_found, same⟩ := ok_of_bind rest
      cases same
      exact .ratio source_named target_named (size_ok_iff.mp source_found)
        (size_ok_iff.mp target_found)
  · intro converts
    cases converts with
    | unspecified listed source_accepted target_accepted either =>
        rw [conversion, validate_ok_iff.mpr ⟨listed, source_accepted⟩, ok_bind,
          validate_ok_iff.mpr ⟨listed, target_accepted⟩, ok_bind, if_pos either]
        rfl
    | ratio source_named target_named source_measures target_measures =>
        have listed : (table? quantity).isSome := by
          obtain ⟨table, _, listed, _⟩ := source_measures
          exact Option.isSome_iff_exists.mpr ⟨table, listed⟩
        rw [conversion, validate_ok_iff.mpr ⟨listed, .inr ⟨_, source_measures⟩⟩, ok_bind,
          validate_ok_iff.mpr ⟨listed, .inr ⟨_, target_measures⟩⟩, ok_bind,
          if_neg (not_or.mpr ⟨source_named, target_named⟩), size_ok_iff.mpr source_measures,
          ok_bind, size_ok_iff.mpr target_measures]
        rfl

/-- Only accepted units are converted. -/
theorem Converts.accepts (converts : Converts quantity source target factor) :
    Accepts quantity source ∧ Accepts quantity target := by
  cases converts with
  | unspecified _ source_accepted target_accepted _ => exact ⟨source_accepted, target_accepted⟩
  | ratio _ _ source_measures target_measures =>
      exact ⟨.inr ⟨_, source_measures⟩, .inr ⟨_, target_measures⟩⟩

/-- Accepted units can be converted. -/
theorem exists_converts (listed : (table? quantity).isSome)
    (source_accepts : Accepts quantity source) (target_accepts : Accepts quantity target) :
    ∃ factor, Converts quantity source target factor := by
  by_cases either : source = "" ∨ target = ""
  · exact ⟨_, .unspecified listed source_accepts target_accepts either⟩
  · obtain ⟨source_named, target_named⟩ := not_or.mp either
    obtain ⟨_, source_measures⟩ := source_accepts.resolve_left source_named
    obtain ⟨_, target_measures⟩ := target_accepts.resolve_left target_named
    exact ⟨_, .ratio source_named target_named source_measures target_measures⟩

/-- The error of a conversion from an accepted unit is about the other one. -/
theorem conversion_refuses (listed : (table? quantity).isSome)
    (source_accepts : Accepts quantity source) (refused : ¬ Accepts quantity target) :
    conversion quantity source target = .error (.unknownUnit quantity target) := by
  rw [conversion, validate_ok_iff.mpr ⟨listed, source_accepts⟩, ok_bind,
    validate_refuses listed refused]
  rfl

section Spelling

variable {source' target' unit' : String}

private theorem Measures.respell (measures : Measures quantity unit amount)
    (alike : Alike unit unit') :
    Measures quantity unit' amount := by
  obtain ⟨table, names, listed, member, named⟩ := measures
  exact ⟨table, names, listed, member, canonical_eq alike ▸ named⟩

private theorem Accepts.respell (accepts : Accepts quantity unit) (alike : Alike unit unit')
    (empty : unit = "" ↔ unit' = "") : Accepts quantity unit' := by
  rcases accepts with none | ⟨amount, measures⟩
  · exact .inl (empty.mp none)
  · exact .inr ⟨amount, measures.respell alike⟩

private theorem Converts.respell (converts : Converts quantity source target factor)
    (source_alike : Alike source source') (target_alike : Alike target target')
    (source_empty : source = "" ↔ source' = "") (target_empty : target = "" ↔ target' = "") :
    Converts quantity source' target' factor := by
  cases converts with
  | unspecified listed source_accepted target_accepted either =>
      exact .unspecified listed (source_accepted.respell source_alike source_empty)
        (target_accepted.respell target_alike target_empty)
        (either.imp source_empty.mp target_empty.mp)
  | ratio source_named target_named source_measures target_measures =>
      exact .ratio (mt source_empty.mpr source_named) (mt target_empty.mpr target_named)
        (source_measures.respell source_alike) (target_measures.respell target_alike)

end Spelling

/-- **Spelling does not matter**, unless one of two texts is the empty unit.  Units that differ
in blanks around them and in the case of letters are accepted alike and converted by the same
factor, if each is empty or neither is.  A text of blanks is like the empty text, but it is not
accepted, and there is no conversion from it or to it. -/
theorem spelling_free (quantity : String) :
    (∀ unit unit', Alike unit unit' → (unit = "" ↔ unit' = "") →
      (validate quantity unit = .ok () ↔ validate quantity unit' = .ok ())) ∧
    (∀ source source' target target', Alike source source' → Alike target target' →
      (source = "" ↔ source' = "") → (target = "" ↔ target' = "") →
      ∀ factor, conversion quantity source target = .ok factor ↔
        conversion quantity source' target' = .ok factor) ∧
    ∀ blank, Alike "" blank → blank ≠ "" → (table? quantity).isSome →
      validate quantity "" = .ok () ∧
      validate quantity blank = .error (.unknownUnit quantity blank) ∧
      ∀ unit factor, conversion quantity blank unit ≠ .ok factor ∧
        conversion quantity unit blank ≠ .ok factor := by
  refine ⟨fun unit unit' alike empty => ?_, fun source source' target target' source_alike
    target_alike source_empty target_empty factor => ?_, fun blank alike apart listed => ?_⟩
  · rw [validate_ok_iff, validate_ok_iff]
    exact and_congr_right fun _ => ⟨fun accepts => accepts.respell alike empty,
      fun accepts => accepts.respell alike.symm empty.symm⟩
  · rw [conversion_ok_iff, conversion_ok_iff]
    exact ⟨fun converts => converts.respell source_alike target_alike source_empty target_empty,
      fun converts => converts.respell source_alike.symm target_alike.symm source_empty.symm
        target_empty.symm⟩
  · have refused := @not_accepts_blank quantity blank alike apart
    refine ⟨validate_ok_iff.mpr ⟨listed, .inl rfl⟩, validate_refuses listed refused,
      fun unit factor => ⟨fun converted => ?_, fun converted => ?_⟩⟩
    · exact refused (conversion_ok_iff.mp converted).accepts.1
    · exact refused (conversion_ok_iff.mp converted).accepts.2

/-- Nanometers in capitals between blanks are converted like others, and a tab is no unit. -/
theorem spelling_free_capitals :
    (Alike "\u2003NM\t" "nm" ∧ Alike "µm" "µM " ∧ Alike "" "\t" ∧ "\t" ≠ "") ∧
    validate "length" "\u2003NM\t" = .ok () ∧ validate "length" "\t" ≠ .ok () ∧
    ∃ factor, conversion "length" "\u2003NM\t" "µm" = .ok factor ∧
      conversion "length" "nm" "µM " = .ok factor := by
  have nanometer : Alike "\u2003NM\t" "nm" := by decide
  have micrometer : Alike "µm" "µM " := by decide
  have blank : Alike "" "\t" := by decide
  have listed : Measures "length" "nm" (.ofDecimal false 1 1) ∧
      Measures "length" "µm" (.ofDecimal false 1 4) :=
    ⟨⟨lengths, ["nanometer", "nm"], rfl, .tail _ (.tail _ (.head _)), by decide⟩,
      ⟨lengths, ["micrometer", "um", "µm"], rfl, .tail _ (.tail _ (.tail _ (.head _))), by decide⟩⟩
  obtain ⟨validated, converted, refused⟩ := spelling_free "length"
  have converts := conversion_ok_iff.mpr
    (.ratio (by decide) (by decide) (listed.1.respell nanometer.symm) listed.2)
  refine ⟨⟨nanometer, micrometer, blank, by decide⟩, ?_, ?_, _, converts, ?_⟩
  · refine (validated _ _ nanometer (by decide)).mpr (validate_ok_iff.mpr ⟨rfl, .inr ⟨_, listed.1⟩⟩)
  · rw [(refused "\t" blank (by decide) rfl).2.1]
    exact nofun
  · exact (converted _ _ _ _ nanometer micrometer (by decide) (by decide) _).mp converts

/-- A text of one blank is like the empty text, and is neither accepted nor converted. -/
theorem blank_is_not_empty :
    (¬ ∀ quantity unit unit', Alike unit unit' →
      (validate quantity unit = .ok () ↔ validate quantity unit' = .ok ())) ∧
    ¬ ∀ quantity source source' target target', Alike source source' → Alike target target' →
      ∀ factor, conversion quantity source target = .ok factor ↔
        conversion quantity source' target' = .ok factor := by
  have alike : Alike "" " " := by decide
  have refused : ¬ Accepts "length" " " := not_accepts_blank alike (by decide)
  have converted : conversion "length" "" "" = .ok .one :=
    conversion_ok_iff.mpr (.unspecified rfl (.inl rfl) (.inl rfl) (.inl rfl))
  refine ⟨fun same => refused ?_, fun same => refused ?_⟩
  · exact (validate_ok_iff.mp ((same "length" "" " " alike).mp
      (validate_ok_iff.mpr ⟨rfl, .inl rfl⟩))).2
  · have converts := conversion_ok_iff.mp
      ((same "length" "" " " "" "" alike rfl .one).mp converted)
    exact converts.accepts.1

end Units

end Atomistic
