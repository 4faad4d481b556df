import Atomistic.Registry
import Mathlib.Data.List.Forall2
import Mathlib.Order.Basic

/-!
# Laws of registries

A registry stays sorted when a value is stored (`Atomistic.Registry.Sorted.insert`),
a list of entries that is already sorted is its own registry
(`Atomistic.Registry.Sorted.ofList_eq`), and the order in which entries with distinct keys are
stored does not matter (`Atomistic.Registry.ofList_eq_of_perm`).
-/

namespace Atomistic

namespace Registry

variable {κ α : Type} [Ord κ]

/-- Keys in their order, each of them once. -/
def Sorted (entries : List (κ × α)) : Prop :=
  entries.Pairwise fun first second => compare first.1 second.1 = .lt

/-- Entries are sorted exactly if their keys are. -/
theorem sorted_iff_keys (entries : List (κ × α)) :
    Sorted entries ↔ (entries.map Prod.fst).Pairwise fun first second =>
      compare first second = .lt := by
  rw [Sorted, List.pairwise_map]

/-- What holds of all entries and of a new one holds after the insertion. -/
theorem forall_insert {onKey : κ → Prop} {onValue : α → Prop} {key : κ} {value : α}
    {entries : List (κ × α)} (key_holds : onKey key) (value_holds : onValue value)
    (holds : ∀ entry ∈ entries, onKey entry.1 ∧ onValue entry.2) :
    ∀ entry ∈ insert key value entries, onKey entry.1 ∧ onValue entry.2 := by
  induction entries with
  | nil => simpa [insert] using ⟨key_holds, value_holds⟩
  | cons first rest ih =>
      have later : ∀ entry ∈ rest, onKey entry.1 ∧ onValue entry.2 := fun entry member =>
        holds entry (List.mem_cons_of_mem _ member)
      rw [insert]
      intro entry member
      split at member
      · rcases List.mem_cons.mp member with rfl | old
        · exact ⟨key_holds, value_holds⟩
        · exact holds entry old
      · rcases List.mem_cons.mp member with rfl | old
        · exact ⟨(holds first List.mem_cons_self).1, value_holds⟩
        · exact later entry old
      · rcases List.mem_cons.mp member with rfl | old
        · exact holds first List.mem_cons_self
        · exact ih later entry old

/-- A key is found where it stands or further on. -/
theorem find?_cons (first : κ × α) (rest : List (κ × α)) (key : κ) :
    find? (first :: rest) key =
      if compare key first.1 = .eq then some first.2 else find? rest key := by
  rw [find?, List.find?_cons]
  by_cases same : compare key first.1 = .eq
  · simp [same]
  · simp only [beq_eq_false_iff_ne.mpr same, if_neg same]
    rfl

/-- What is found is the value of an entry. -/
theorem mem_of_find? {entries : List (κ × α)} {key : κ} {value : α}
    (found : find? entries key = some value) : ∃ entry ∈ entries, entry.2 = value := by
  rw [find?, Option.map_eq_some_iff] at found
  obtain ⟨entry, found, same⟩ := found
  exact ⟨entry, List.mem_of_find?_eq_some found, same⟩

/-- A key is contained exactly if an entry has it. -/
theorem contains_iff {entries : List (κ × α)} {key : κ} :
    contains entries key ↔ ∃ entry ∈ entries, compare key entry.1 = .eq := by
  simp [contains, find?]

/-- A key that is absent is stored beside all others. -/
theorem insert_perm {entries : List (κ × α)} {key : κ} (absent : contains entries key = false)
    (value : α) : (insert key value entries).Perm ((key, value) :: entries) := by
  induction entries with
  | nil => exact .refl _
  | cons first rest ih =>
      have others : ∀ entry ∈ first :: rest, compare key entry.1 ≠ .eq := fun entry member same =>
        Bool.eq_false_iff.mp absent (contains_iff.mpr ⟨entry, member, same⟩)
      have further : contains rest key = false := Bool.eq_false_iff.mpr fun present => by
        obtain ⟨entry, member, same⟩ := contains_iff.mp present
        exact others entry (List.mem_cons_of_mem _ member) same
      rw [insert]
      split
      · exact .refl _
      next same => exact absurd same (others first List.mem_cons_self)
      · exact ((ih further).cons first).trans (.swap _ _ _)

/-- Related values that are stored under the same key keep entries with the same keys related. -/
theorem insert_rel {β : Type} {related : α → β → Prop} {entries : List (κ × α)}
    {others : List (κ × β)}
    (along : List.Forall₂ (fun entry other => other.1 = entry.1 ∧ related entry.2 other.2)
      entries others) (key : κ) {value : α} {stored : β} (holds : related value stored) :
    List.Forall₂ (fun entry other => other.1 = entry.1 ∧ related entry.2 other.2)
      (insert key value entries) (insert key stored others) := by
  induction along with
  | nil => exact .cons ⟨rfl, holds⟩ .nil
  | @cons entry other rest more first later ih =>
      rw [insert, insert, first.1]
      cases compare key entry.1 with
      | lt => exact .cons ⟨rfl, holds⟩ (.cons ⟨rfl, first.2⟩ later)
      | eq => exact .cons ⟨rfl, holds⟩ later
      | gt => exact .cons ⟨rfl, first.2⟩ ih

/-- Entries no two of which have equal keys. -/
def Distinct (entries : List (κ × α)) : Prop :=
  entries.Pairwise fun first second => compare first.1 second.1 ≠ .eq

/-- Entries with distinct keys, none of which is in a registry yet. -/
structure Fresh (registry entries : List (κ × α)) : Prop where
  distinct : Distinct entries
  absent : ∀ entry ∈ entries, contains registry entry.1 = false

/-- Entries are fresh after nothing exactly if their keys are distinct. -/
theorem fresh_nil (entries : List (κ × α)) : Fresh [] entries ↔ Distinct entries :=
  ⟨Fresh.distinct, fun distinct => ⟨distinct, fun _ _ => rfl⟩⟩

variable [Std.TransOrd κ]

section Greater

variable {key : κ} {entries : List (κ × α)}
  (greater : ∀ entry ∈ entries, compare entry.1 key = .lt)

include greater

/-- A key that comes before all others is not among them. -/
theorem contains_greater : contains entries key = false := by
  have absent : (entries.find? fun entry => compare key entry.1 == .eq) = none := by
    rw [List.find?_eq_none]
    intro entry member
    rw [Std.OrientedCmp.gt_of_lt (greater entry member)]
    decide
  rw [contains, find?, absent]
  rfl

/-- A key above all others is stored last. -/
theorem insert_greater (value : α) : insert key value entries = entries ++ [(key, value)] := by
  induction entries with
  | nil => rfl
  | cons first rest ih =>
      rw [insert, Std.OrientedCmp.gt_of_lt (greater first List.mem_cons_self)]
      simp only [List.cons_append]
      rw [ih fun entry member => greater entry (List.mem_cons_of_mem _ member)]

end Greater

/-- What was stored is found under its key, and what was there before under all others. -/
theorem find?_insert (entries : List (κ × α)) (key other : κ) (value : α) :
    find? (insert key value entries) other =
      if compare other key = .eq then some value else find? entries other := by
  induction entries with
  | nil => exact find?_cons (key, value) [] other
  | cons first rest ih =>
      obtain ⟨stored, old⟩ := first
      rw [insert]
      split
      · exact find?_cons _ _ _
      next same =>
        rw [find?_cons, find?_cons, ← Std.TransCmp.congr_right same]
        split <;> rfl
      next above =>
        rw [find?_cons, find?_cons, ih]
        by_cases here : compare other stored = .eq
        · have apart : compare other key ≠ .eq := by
            rw [Std.TransCmp.congr_left here, Std.OrientedCmp.lt_of_gt above]
            decide
          rw [if_pos here, if_pos here, if_neg apart]
        · rw [if_neg here, if_neg here]

omit [Std.TransOrd κ] in
/-- Entries with the same keys and related values have related values under every key. -/
theorem find?_rel {β : Type} {related : α → β → Prop} {entries : List (κ × α)}
    {others : List (κ × β)}
    (along : List.Forall₂ (fun entry other => other.1 = entry.1 ∧ related entry.2 other.2)
      entries others) (key : κ) : Option.Rel related (find? entries key) (find? others key) := by
  induction along with
  | nil => exact .none
  | @cons entry other rest more holds _ ih =>
      rw [find?_cons, find?_cons, holds.1]
      split
      · exact .some holds.2
      · exact ih

/-- Entries stay sorted when one is inserted. -/
theorem Sorted.insert {entries : List (κ × α)} (sorted : Sorted entries) (key : κ) (value : α) :
    Sorted (insert key value entries) := by
  induction entries with
  | nil => exact List.pairwise_singleton _ _
  | cons first rest ih =>
      obtain ⟨least, later⟩ := List.pairwise_cons.mp sorted
      rw [Registry.insert]
      split
      next below =>
        refine List.pairwise_cons.mpr ⟨fun entry member => ?_, sorted⟩
        rcases List.mem_cons.mp member with rfl | further
        · exact below
        · exact Std.TransCmp.lt_trans below (least entry further)
      next same => exact List.pairwise_cons.mpr ⟨least, later⟩
      next above =>
        refine List.pairwise_cons.mpr ⟨fun entry member => ?_, ih later⟩
        have keys := @forall_insert κ α _ (fun other => compare first.1 other = .lt)
          (fun _ => True) key value rest (Std.OrientedCmp.lt_of_gt above) trivial
          fun entry member => ⟨least entry member, trivial⟩
        exact (keys entry member).1

/-- In sorted entries a key is found where it stands. -/
theorem Sorted.find?_mem {entries : List (κ × α)} (sorted : Sorted entries) {key : κ} {value : α}
    (member : (key, value) ∈ entries) : find? entries key = some value := by
  induction entries with
  | nil => cases member
  | cons first rest ih =>
      obtain ⟨least, later⟩ := List.pairwise_cons.mp sorted
      rw [find?_cons]
      rcases List.mem_cons.mp member with rfl | further
      · rw [if_pos Std.ReflCmp.compare_self]
      · have above := Std.OrientedCmp.gt_of_lt (least _ further)
        rw [if_neg (by rw [above]; decide)]
        exact ih later further

/-- In sorted entries what stands under an equal key is found. -/
theorem Sorted.find?_eq {entries : List (κ × α)} (sorted : Sorted entries) {key : κ}
    {entry : κ × α} (member : entry ∈ entries) (same : compare key entry.1 = .eq) :
    find? entries key = some entry.2 := by
  have found := sorted.find?_mem (show (entry.1, entry.2) ∈ entries from member)
  rw [← found, find?, find?]
  congr 2
  funext other
  rw [Std.TransCmp.congr_left same]

/-- Sorted entries have at most one key that is equal to another. -/
theorem Sorted.countP_le_one {entries : List (κ × α)} (sorted : Sorted entries) (key : κ) :
    entries.countP (fun entry => compare key entry.1 == .eq) ≤ 1 := by
  induction entries with
  | nil => exact Nat.zero_le 1
  | cons first rest ih =>
      obtain ⟨least, later⟩ := List.pairwise_cons.mp sorted
      rw [List.countP_cons]
      split
      next same =>
        have none : rest.countP (fun entry => compare key entry.1 == .eq) = 0 := by
          refine List.countP_eq_zero.mpr fun entry member => ?_
          rw [Std.TransCmp.congr_left (beq_iff_eq.mp same), least entry member]
          decide
        exact Nat.le_of_eq (by rw [none])
      next => exact ih later

/-- **Sorted entries are their own registry.** -/
theorem Sorted.ofList_eq {entries : List (κ × α)} (sorted : Sorted entries) :
    ofList entries = entries := by
  have stored : ∀ front rest : List (κ × α), Sorted (front ++ rest) →
      rest.foldl (fun registry entry => Registry.insert entry.1 entry.2 registry) front =
        front ++ rest := by
    intro front rest
    induction rest generalizing front with
    | nil => simp
    | cons entry rest ih =>
        intro sorted
        have greater : ∀ other ∈ front, compare other.1 entry.1 = .lt := fun other member =>
          (List.pairwise_append.mp sorted).2.2 other member entry List.mem_cons_self
        rw [List.foldl_cons, insert_greater greater]
        have moved : front ++ [(entry.1, entry.2)] ++ rest = front ++ entry :: rest := by simp
        rw [ih _ (by rwa [moved]), moved]
  exact stored [] entries sorted

/-- The registry of a list is sorted. -/
theorem sorted_ofList (entries : List (κ × α)) : Sorted (ofList entries) := by
  have stored : ∀ (front rest : List (κ × α)), Sorted front →
      Sorted (rest.foldl (fun registry entry => Registry.insert entry.1 entry.2 registry)
        front) := by
    intro front rest
    induction rest generalizing front with
    | nil => exact id
    | cons entry rest ih => exact fun sorted => ih _ (sorted.insert entry.1 entry.2)
  exact stored [] entries .nil

omit [Std.TransOrd κ] in
/-- The registry of a list holds no values but those of the list. -/
theorem forall_ofList {onValue : α → Prop} {entries : List (κ × α)}
    (holds : ∀ entry ∈ entries, onValue entry.2) : ∀ entry ∈ ofList entries, onValue entry.2 := by
  have stored : ∀ (front rest : List (κ × α)), (∀ entry ∈ front, onValue entry.2) →
      (∀ entry ∈ rest, onValue entry.2) →
      ∀ entry ∈ rest.foldl (fun registry entry => Registry.insert entry.1 entry.2 registry) front,
        onValue entry.2 := by
    intro front rest
    induction rest generalizing front with
    | nil => exact fun fine _ => fine
    | cons entry rest ih =>
        intro fine later
        obtain ⟨first, others⟩ := List.forall_mem_cons.mp later
        have inserted := @forall_insert κ α _ (fun _ => True) onValue entry.1 entry.2 front trivial
          first fun other member => ⟨trivial, fine other member⟩
        exact ih _ (fun other member => (inserted other member).2) others
  exact stored [] entries (List.forall_mem_nil _) holds

/-- Distinct keys stay distinct in any order. -/
theorem Distinct.perm {entries others : List (κ × α)} (distinct : Distinct entries)
    (perm : others.Perm entries) : Distinct others :=
  (perm.pairwise_iff fun apart same => apart (Std.OrientedCmp.eq_symm same)).mpr distinct

/-- Entries are stored one after another without meeting one that is there. -/
theorem fresh_cons {registry rest : List (κ × α)} {entry : κ × α} :
    Fresh registry (entry :: rest) ↔
      contains registry entry.1 = false ∧ Fresh (insert entry.1 entry.2 registry) rest := by
  have stored (other : κ × α) : contains (insert entry.1 entry.2 registry) other.1 = false ↔
      compare entry.1 other.1 ≠ .eq ∧ contains registry other.1 = false := by
    rw [contains, find?_insert]
    by_cases same : compare other.1 entry.1 = .eq
    · simp [same, Std.OrientedCmp.eq_symm same]
    · have apart : compare entry.1 other.1 ≠ .eq := fun equal =>
        same (Std.OrientedCmp.eq_symm equal)
      rw [if_neg same]
      simp [apart, contains]
  constructor
  · rintro ⟨distinct, absent⟩
    obtain ⟨first, later⟩ := List.pairwise_cons.mp distinct
    obtain ⟨free, others⟩ := List.forall_mem_cons.mp absent
    exact ⟨free, later, fun other member =>
      (stored other).mpr ⟨first other member, others other member⟩⟩
  · rintro ⟨free, later, absent⟩
    have parts (other : κ × α) (member : other ∈ rest) := (stored other).mp (absent other member)
    exact ⟨List.pairwise_cons.mpr ⟨fun other member => (parts other member).1, later⟩,
      List.forall_mem_cons.mpr ⟨free, fun other member => (parts other member).2⟩⟩

/-- Entries with distinct keys all end up in their registry. -/
theorem ofList_perm {entries : List (κ × α)} (distinct : Distinct entries) :
    (ofList entries).Perm entries := by
  have stored : ∀ rest registry : List (κ × α), Fresh registry rest →
      (rest.foldl (fun registry entry => insert entry.1 entry.2 registry) registry).Perm
        (registry ++ rest) := by
    intro rest
    induction rest with
    | nil =>
        intro registry _
        rw [List.append_nil]
        exact .refl _
    | cons entry rest ih =>
        intro registry fresh
        obtain ⟨free, later⟩ := fresh_cons.mp fresh
        have one := insert_perm free entry.2
        exact (ih _ later).trans ((one.append_right rest).trans List.perm_middle.symm)
  exact stored entries [] ((fresh_nil entries).mpr distinct)

/-- **Entries with distinct keys make the same registry in any order.** -/
theorem ofList_eq_of_perm {entries others : List (κ × α)} (distinct : Distinct entries)
    (perm : others.Perm entries) : ofList others = ofList entries := by
  have same : (ofList others).Perm (ofList entries) :=
    (ofList_perm (distinct.perm perm)).trans (perm.trans (ofList_perm distinct).symm)
  refine same.eq_of_pairwise (fun first second _ _ below above => ?_) (sorted_ofList others)
    (sorted_ofList entries)
  rw [Std.OrientedCmp.gt_of_lt below] at above
  cases above

end Registry

end Atomistic
