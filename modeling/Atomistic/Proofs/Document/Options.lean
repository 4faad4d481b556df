import Atomistic.Document.Options
import Atomistic.Proofs.Json.Lawful
import Atomistic.Proofs.NeighborList.Options

/-!
# Options read back

The options of a neighbor list are read back from their document, whatever the bit
pattern of the cutoff is; who asked for the list is forgotten
(`Atomistic.NeighborListOptions.ofJson_toJson`).
-/

namespace Atomistic

namespace Binary64

private theorem bmod_word_range (n : Int) : -0x8000000000000000 ≤ n.bmod 0x10000000000000000 ∧
    n.bmod 0x10000000000000000 < 0x8000000000000000 := by
  have least := @Int.le_bmod n 0x10000000000000000 (by decide)
  have greatest := @Int.bmod_lt n 0x10000000000000000 (by decide)
  omega

private theorem signedBits_range (x : Binary64) :
    -0x8000000000000000 ≤ x.signedBits ∧ x.signedBits < 0x8000000000000000 :=
  bmod_word_range x.bits.toNat

/-- The signed integer of a bit pattern can be stored. -/
theorem integer?_signedBits (x : Binary64) :
    (Json.integer x.signedBits).integer? = some x.signedBits := by
  rw [Json.integer?, if_pos x.signedBits_range]

/-- Every bit pattern is read back from the signed integer that it makes. -/
theorem ofSignedBits_signedBits (x : Binary64) : ofSignedBits x.signedBits = x := by
  have small := x.bits.toNat_lt
  have whole : (x.signedBits % 0x10000000000000000).toNat = x.bits.toNat := by
    have same : x.signedBits % 0x10000000000000000 = x.bits.toNat % 0x10000000000000000 :=
      Int.bmod_emod
    rw [same]
    omega
  rw [ofSignedBits, whole, UInt64.ofNat_toNat]

end Binary64

/-- The options without a record of who asked for the list. -/
def NeighborListOptions.anonymous (options : NeighborListOptions) : NeighborListOptions :=
  { options with requestors := [] }

namespace Document

/-- The fields that are stored for options. -/
def optionsFields (options : NeighborListOptions) : List (String × Json) :=
  [ ("class", .string optionsClass),
    ("cutoff", .integer options.cutoff.signedBits),
    ("full_list", .bool options.fullList),
    ("length_unit", .string options.lengthUnit) ]

private theorem optionsToJson_eq (options : NeighborListOptions) :
    optionsToJson options = .object (optionsFields options) := rfl

private theorem optionsFields_sorted (options : NeighborListOptions) :
    Registry.Sorted (optionsFields options) := by
  simp only [optionsFields, Registry.Sorted, List.pairwise_cons, List.forall_mem_cons]
  exact ⟨⟨by decide, by decide, by decide, List.forall_mem_nil _⟩,
    ⟨by decide, by decide, List.forall_mem_nil _⟩, ⟨by decide, List.forall_mem_nil _⟩,
    List.forall_mem_nil _, .nil⟩

/-- Stored options can be written at every depth but the last. -/
theorem optionsToJson_writable (options : NeighborListOptions) (depth : Nat) :
    (optionsToJson options).Writable (depth + 1) := by
  obtain ⟨least, greatest⟩ := options.cutoff.signedBits_range
  refine .object (optionsFields_sorted options) ?_
  simp only [List.forall_mem_cons]
  exact ⟨.string _, .integer least (by omega), .bool _, .string _, List.forall_mem_nil _⟩

/-- The fields of a document with the right class. -/
theorem ofClass_eq {fields : List (String × Json)} {className : String}
    (found : Registry.find? fields "class" = some (.string className)) :
    ofClass (.object fields) className = .ok fields := by
  rw [ofClass, Json.object?]
  dsimp only
  rw [found, Option.bind_some, Json.string?]
  exact if_pos rfl

private theorem optionsOfJson_eq {fields : List (String × Json)} {bits : Int} {fullList : Bool}
    {unit : String}
    (name : Registry.find? fields "class" = some (.string optionsClass))
    (cutoff_read : (Registry.find? fields "cutoff").bind Json.integer? = some bits)
    (flag_read : (Registry.find? fields "full_list").bind Json.bool? = some fullList)
    (unit_found : Registry.find? fields "length_unit" = some (.string unit)) :
    optionsOfJson (.object fields) =
      (NeighborListOptions.setLengthUnit { cutoff := .ofSignedBits bits, fullList } unit).mapError
        Error.units := by
  rw [optionsOfJson, ofClass_eq name]
  simp only [bind, Except.bind]
  rw [cutoff_read, flag_read, unit_found]
  rfl

/-- Options are read back without a record of who asked. -/
theorem optionsOfJson_optionsToJson {options : NeighborListOptions} (sound : options.Sound) :
    optionsOfJson (optionsToJson options) = .ok options.anonymous := by
  have found {key : String} {value : Json} (member : (key, value) ∈ optionsFields options) :
      Registry.find? (optionsFields options) key = some value :=
    (optionsFields_sorted options).find?_mem member
  have name := found (List.mem_cons_self :
      ("class", Json.string optionsClass) ∈ optionsFields options)
  have cutoff : Registry.find? (optionsFields options) "cutoff" =
      some (.integer options.cutoff.signedBits) := found (by simp [optionsFields])
  have flag : Registry.find? (optionsFields options) "full_list" = some (.bool options.fullList) :=
    found (by simp [optionsFields])
  have unit : Registry.find? (optionsFields options) "length_unit" =
      some (.string options.lengthUnit) := found (by simp [optionsFields])
  have cutoff_read : (Registry.find? (optionsFields options) "cutoff").bind Json.integer? =
      some options.cutoff.signedBits := by
    rw [cutoff, Option.bind_some, Binary64.integer?_signedBits]
  have flag_read : (Registry.find? (optionsFields options) "full_list").bind Json.bool? =
      some options.fullList := by
    rw [flag, Option.bind_some, Json.bool?]
  have known : Units.validate "length" options.lengthUnit = .ok () := sound
  rw [optionsToJson_eq, optionsOfJson_eq name cutoff_read flag_read unit,
      NeighborListOptions.setLengthUnit_steps,
    known, Binary64.ofSignedBits_signedBits]
  rfl

end Document

namespace NeighborListOptions

/-- **Options read back from their document**, for every bit pattern of the cutoff. -/
theorem ofJson_toJson {options : NeighborListOptions} (sound : options.Sound) :
    ofJson options.toJson = .ok options.anonymous := by
  have read := Json.lawful.reads (Document.optionsToJson_writable options (Json.maxDepth - 1))
  rw [ofJson, Document.parse, toJson, read]
  dsimp only
  rw [ok_bind, Document.optionsOfJson_optionsToJson sound]

end NeighborListOptions

end Atomistic
