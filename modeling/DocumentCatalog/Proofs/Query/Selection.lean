import DocumentCatalog.Proofs.Entries
import DocumentCatalog.Query.Selection

/-!
A document is selected by a predicate when it meets the condition under every key, and each of the
two combining keys asks for what its name says of the predicates in its array.
-/

namespace DocumentCatalog
namespace Query

theorem selects_iff (document : Json) (conditions : Entries Json) :
    selects document conditions = true ↔
      ∀ entry ∈ conditions, selectsEntry document entry.1 entry.2 = true := by
  induction conditions with
  | nil => simp [selects]
  | cons entry rest ih => simp [selects, ih]

theorem selectsEntry_field (document : Json) {key : String} (condition : Json)
    (hand : key ≠ Filter.andKey) (hor : key ≠ Filter.orKey) :
    selectsEntry document key condition = meets (lookup? document key) condition := by
  cases condition <;> simp [selectsEntry, hand, hor]

theorem selectsEntry_and (document : Json) (items : List Json) :
    selectsEntry document Filter.andKey (.array items) = selectsEach document items := by
  simp [selectsEntry]

theorem selectsEntry_or (document : Json) (items : List Json) :
    selectsEntry document Filter.orKey (.array items) = selectsSome document items := by
  have hne : Filter.orKey ≠ Filter.andKey := by decide
  simp [selectsEntry, hne]

theorem selectsEach_iff (document : Json) (items : List Json) :
    selectsEach document items = true ↔
      ∀ conditions, .object conditions ∈ items → selects document conditions = true := by
  induction items with
  | nil => simp [selectsEach]
  | cons item rest ih => cases item <;> simp [selectsEach, ih, or_imp, forall_and]

theorem selectsSome_iff (document : Json) (items : List Json) :
    selectsSome document items = true ↔
      ∃ conditions, .object conditions ∈ items ∧ selects document conditions = true := by
  induction items with
  | nil => simp [selectsSome]
  | cons item rest ih => cases item <;> simp [selectsSome, ih, or_and_right, exists_or]

end Query

namespace Filter.Predicate

/-- A predicate is the conjunction of what its keys ask for. -/
theorem selects_iff_get? (p : Predicate) (document : Json) :
    p.selects document = true ↔
      ∀ key condition, p.get? key = some condition →
        Query.selectsEntry document key condition = true := by
  unfold selects
  rw [Query.selects_iff]
  constructor
  · intro h key condition hget
    exact h (key, condition) ((Entries.mem_iff_get? p.distinct key condition).mpr hget)
  · intro h entry hentry
    exact h entry.1 entry.2 ((Entries.mem_iff_get? p.distinct entry.1 entry.2).mp hentry)

theorem selects_of_isEmpty {p : Predicate} (h : p.isEmpty = true) (document : Json) :
    p.selects document = true := by
  have hentries : p.entries = [] := List.isEmpty_iff.mp h
  rw [selects, hentries, Query.selects]

theorem selects_equals (field : String) (value document : Json) :
    (equals field value).selects document = Query.selectsEntry document field value := by
  change Query.selects document [(field, value)] = _
  simp [Query.selects]

/-- Predicates that demand nothing are left out of a combination. -/
theorem combine_cons_of_isEmpty {p : Predicate} (h : p.isEmpty = true) (key : String)
    (predicates : List Predicate) : combine key (p :: predicates) = combine key predicates := by
  simp [combine, h]

theorem selects_allOf_iff (predicates : List Predicate) (document : Json) :
    (allOf predicates).selects document = true ↔
      ∀ p ∈ predicates, p.selects document = true := by
  have hdemanding : (∀ p ∈ predicates, p.selects document = true) ↔
      ∀ p ∈ predicates.filter (!·.isEmpty), p.selects document = true := by
    constructor
    · intro h p hp
      exact h p (List.mem_filter.mp hp).1
    · intro h p hp
      cases hempty : p.isEmpty with
      | true => exact selects_of_isEmpty hempty document
      | false => exact h p (List.mem_filter.mpr ⟨hp, by simp [hempty]⟩)
  rw [hdemanding, allOf, combine]
  split
  · next hnone =>
      rw [hnone]
      simp [selects_of_isEmpty (p := empty) rfl]
  · next p hone =>
      rw [hone]
      simp
  · rw [selects_equals, Query.selectsEntry_and, Query.selectsEach_iff]
    constructor
    · intro h p hp
      exact h p.entries (List.mem_map.mpr ⟨p, hp, rfl⟩)
    · rintro h conditions hmem
      obtain ⟨p, hp, hconditions⟩ := List.mem_map.mp hmem
      cases hconditions
      exact h p hp

/-- A combination demands nothing only of predicates that all demand nothing. -/
theorem isEmpty_combine_iff (key : String) (predicates : List Predicate) :
    (combine key predicates).isEmpty = true ↔ ∀ p ∈ predicates, p.isEmpty = true := by
  have hnil : (∀ p ∈ predicates, p.isEmpty = true) ↔ predicates.filter (!·.isEmpty) = [] := by
    simp [List.filter_eq_nil_iff]
  rw [hnil, combine]
  split
  · next h => exact iff_of_true rfl h
  · next p h =>
      have hp : p ∈ predicates.filter (!·.isEmpty) := by simp [h]
      simpa [h] using (List.mem_filter.mp hp).2
  · next hne _ => exact iff_of_false Bool.false_ne_true hne

/-- An alternative asks for one of the predicates that demand something, if there are any. -/
theorem selects_anyOf_iff (predicates : List Predicate) (document : Json) :
    (anyOf predicates).selects document = true ↔
      (∀ p ∈ predicates, p.isEmpty = true) ∨
        ∃ p ∈ predicates, p.isEmpty = false ∧ p.selects document = true := by
  have hdemanding : (∃ p ∈ predicates, p.isEmpty = false ∧ p.selects document = true) ↔
      ∃ p ∈ predicates.filter (!·.isEmpty), p.selects document = true := by
    simp [and_assoc]
  cases hempty : (anyOf predicates).isEmpty with
  | true =>
      have hall := (isEmpty_combine_iff Filter.orKey predicates).mp hempty
      exact iff_of_true (selects_of_isEmpty hempty document) (.inl hall)
  | false =>
      have hall : ¬ ∀ p ∈ predicates, p.isEmpty = true := by
        rw [← isEmpty_combine_iff Filter.orKey, ← anyOf, hempty]
        exact Bool.false_ne_true
      rw [hdemanding, or_iff_right hall, anyOf, combine]
      split
      · next hnone => exact absurd (by simpa [List.filter_eq_nil_iff] using hnone) hall
      · next p hone => simp [hone]
      · rw [selects_equals, Query.selectsEntry_or, Query.selectsSome_iff]
        constructor
        · rintro ⟨conditions, hmem, hselects⟩
          obtain ⟨p, hp, hconditions⟩ := List.mem_map.mp hmem
          cases hconditions
          exact ⟨p, hp, hselects⟩
        · rintro ⟨p, hp, hselects⟩
          exact ⟨p.entries, List.mem_map.mpr ⟨p, hp, rfl⟩, hselects⟩

end Filter.Predicate
end DocumentCatalog
