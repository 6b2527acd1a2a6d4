import DocumentCatalog.Proofs.Pattern.Literal
import DocumentCatalog.Proofs.Query.Condition
import DocumentCatalog.Proofs.Query.Selection
import DocumentCatalog.Service.Constraints
import Mathlib

/-!
What the free text of a request finds: the documents with a field that holds the text as it is
written, only its case disregarded.
-/

namespace DocumentCatalog
namespace Service

open DocumentCatalog.Filter (Predicate)
open DocumentCatalog.Pattern (Regex HoldsIgnoringCase)

theorem ofPattern?_literal_of_fits {search : String}
    (hfits : (Regex.text { ignoreCase := true } search).fits = true) :
    Regex.ofPattern? { ignoreCase := true } (Pattern.literal search) =
      some (Regex.text { ignoreCase := true } search) := by
  rw [Regex.ofPattern?_literal rfl, if_pos hfits]

theorem selects_searchField_iff {search field : String} (hand : field ≠ Filter.andKey)
    (hor : field ≠ Filter.orKey) (hfits : (Regex.text { ignoreCase := true } search).fits = true)
    (document : Json) :
    (searchField search field).selects document = true ↔
      ∃ text, Query.lookup? document field = some (.string text) ∧
        HoldsIgnoringCase text search := by
  have hflags : Query.patternFlags (some (.string "i")) = { ignoreCase := true } := by decide
  rw [searchField, Predicate.selects_equals, Query.selectsEntry_field _ _ hand hor,
    Query.meets_pattern, hflags]
  cases hvalue : Query.lookup? document field with
  | none => simp
  | some value =>
      cases value <;>
        simp [Query.matchesPattern, ofPattern?_literal_of_fits hfits, Regex.isMatch_text_iff]

theorem isEmpty_searchField (search field : String) : (searchField search field).isEmpty = false :=
  rfl

/-- Only where there are no fields to search does a search demand nothing. -/
theorem isEmpty_anyOf_searchField_iff (search : String) (fields : List String) :
    (Predicate.anyOf (fields.map (searchField search))).isEmpty = true ↔ fields = [] := by
  rw [Predicate.anyOf, Predicate.isEmpty_combine_iff]
  cases fields <;> simp [isEmpty_searchField]

theorem searchPredicate?_eq_none_iff (search : String) (fields : List String) :
    searchPredicate? search fields = none ↔ fields = [] := by
  rw [← isEmpty_anyOf_searchField_iff search]
  simp [searchPredicate?]

theorem searchPredicate?_eq_some_iff (search : String) (fields : List String) (p : Predicate) :
    searchPredicate? search fields = some p ↔
      fields ≠ [] ∧ p = .anyOf (fields.map (searchField search)) := by
  rw [ne_eq, ← isEmpty_anyOf_searchField_iff search]
  simp [searchPredicate?, @eq_comm _ p]

/-- A search is literal: its pattern stands for the characters of the text one after the other, and
it selects the documents with a field among the searched ones that is a text and holds these
characters somewhere, their case disregarded. -/
theorem selects_searchPredicate?_iff {search : String} {fields : List String}
    (hfields : ∀ field ∈ fields, field ≠ Filter.andKey ∧ field ≠ Filter.orKey)
    (hfits : (Regex.text { ignoreCase := true } search).fits = true) :
    (searchPredicate? search fields = none ↔ fields = []) ∧
    Regex.ofPattern? { ignoreCase := true } (Pattern.literal search) =
      some (Regex.text { ignoreCase := true } search) ∧
    ∀ p, searchPredicate? search fields = some p → ∀ document,
      (p.selects document = true ↔ ∃ field ∈ fields, ∃ text,
        Query.lookup? document field = some (.string text) ∧ HoldsIgnoringCase text search) := by
  refine ⟨searchPredicate?_eq_none_iff search fields, ofPattern?_literal_of_fits hfits, ?_⟩
  intro p hp document
  obtain ⟨hne, rfl⟩ := (searchPredicate?_eq_some_iff search fields p).mp hp
  have hdemanding : ¬ ∀ p ∈ fields.map (searchField search), p.isEmpty = true := by
    rw [← Predicate.isEmpty_combine_iff Filter.orKey]
    exact fun h => hne ((isEmpty_anyOf_searchField_iff search fields).mp h)
  rw [Predicate.selects_anyOf_iff, or_iff_right hdemanding]
  constructor
  · rintro ⟨_, hmem, -, hselects⟩
    obtain ⟨field, hfield, rfl⟩ := List.mem_map.mp hmem
    obtain ⟨hand, hor⟩ := hfields field hfield
    exact ⟨field, hfield, (selects_searchField_iff hand hor hfits document).mp hselects⟩
  · rintro ⟨field, hfield, hholds⟩
    obtain ⟨hand, hor⟩ := hfields field hfield
    exact ⟨_, List.mem_map.mpr ⟨field, hfield, rfl⟩, isEmpty_searchField search field,
      (selects_searchField_iff hand hor hfits document).mpr hholds⟩

/-- Were the point and the star operators, the second document would be found as well. -/
theorem selects_searchPredicate?_iff_operators :
    let search := "É.*"
    let fields := ["name", "traits.hat"]
    let found : Json := .object [("traits", .object [("hat", .string "café.*")])]
    let other : Json := .object [("name", .string "café")]
    (∀ field ∈ fields, field ≠ Filter.andKey ∧ field ≠ Filter.orKey) ∧
      (Regex.text { ignoreCase := true } search).fits = true ∧
      ∃ p, searchPredicate? search fields = some p ∧
        p.selects found = true ∧ ¬ p.selects other = true := by
  intro search fields found other
  have hfields : ∀ field ∈ fields, field ≠ Filter.andKey ∧ field ≠ Filter.orKey := by decide
  have hfits : (Regex.text { ignoreCase := true } search).fits = true := by cbv
  obtain ⟨-, -, hselects⟩ := selects_searchPredicate?_iff hfields hfits
  have hchars : search.toList = ['É', '.', '*'] := by simp [search]
  have hcase : Unicode.fold 'é' = Unicode.fold 'É' := by decide +kernel
  have hpoint : ("café".toList.any (Unicode.fold · == Unicode.fold '.')) = false := by decide +kernel
  refine ⟨hfields, hfits, _, rfl, ?_, ?_⟩
  · have hholds : HoldsIgnoringCase "café.*" search := by
      refine ⟨['é', '.', '*'], ⟨"caf".toList, [], rfl⟩, ?_⟩
      rw [hchars]
      exact .cons hcase (.cons rfl (.cons rfl .nil))
    exact (hselects _ rfl found).mpr ⟨"traits.hat", by decide, "café.*", rfl, hholds⟩
  · intro h
    obtain ⟨field, hfield, text, hlookup, run, hrun, halike⟩ := (hselects _ rfl other).mp h
    obtain rfl | rfl : field = "name" ∨ field = "traits.hat" := by simpa [fields] using hfield
    · have hname : Query.lookup? other "name" = some (.string "café") := rfl
      rw [hname] at hlookup
      cases hlookup
      rw [hchars] at halike
      rcases halike with _ | ⟨-, _ | ⟨hsame, -⟩⟩
      exact List.any_eq_false.mp hpoint _ (hrun.subset (by simp)) (beq_iff_eq.mpr hsame)
    · cases hlookup

end Service
end DocumentCatalog
