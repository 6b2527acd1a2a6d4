import DocumentCatalog.Proofs.Query.Selection

/-!
Combinations of predicates as connectives. Demanding all of a list is conjunction, and demanding one
of it is disjunction over the predicates that demand something. Neither depends on the order of the
list or on how often a predicate stands in it, whatever keys the predicates have in common.
-/

namespace DocumentCatalog
namespace Filter.Predicate

section Members

variable {predicates others : List Predicate} (h : ∀ p, p ∈ predicates ↔ p ∈ others)
  (document : Json)

include h

theorem selects_allOf_congr :
    (allOf predicates).selects document = (allOf others).selects document := by
  rw [Bool.eq_iff_iff, selects_allOf_iff, selects_allOf_iff]
  simp only [h]

theorem selects_anyOf_congr :
    (anyOf predicates).selects document = (anyOf others).selects document := by
  rw [Bool.eq_iff_iff, selects_anyOf_iff, selects_anyOf_iff]
  simp only [h]

end Members

/-- What the two combinations of a list of predicates select, which other lists of the same
predicates select as well. A combination of predicates that demand nothing selects every document,
also where one of them is asked for. -/
theorem selects_combinations_iff (predicates : List Predicate) (document : Json) :
    ((allOf predicates).selects document = true ↔
      ∀ p ∈ predicates, p.selects document = true) ∧
    ((anyOf predicates).selects document = true ↔
      (∀ p ∈ predicates, p.isEmpty = true) ∨
        ∃ p ∈ predicates, p.isEmpty = false ∧ p.selects document = true) ∧
    ∀ others : List Predicate, (∀ p, p ∈ predicates ↔ p ∈ others) →
      (allOf predicates).selects document = (allOf others).selects document ∧
        (anyOf predicates).selects document = (anyOf others).selects document := by
  refine ⟨selects_allOf_iff predicates document, selects_anyOf_iff predicates document, ?_⟩
  intro others h
  exact ⟨selects_allOf_congr h document, selects_anyOf_congr h document⟩

/-- Two predicates on the combining key of alternatives and an empty one, listed twice over. -/
theorem selects_combinations_iff_shared_key :
    let hat : String → Predicate := fun hat => .ofEntries
      [("$or", .array [.object [("traits.hat", .string hat)], .object [("hat", .string hat)]])]
    let document : Json := .object [("traits", .object [("hat", .string "red")])]
    let predicates := [hat "red", empty, hat "blue"]
    let others := [hat "blue", hat "red", empty, hat "blue"]
    (∀ p, p ∈ predicates ↔ p ∈ others) ∧
      (allOf others).selects document = false ∧ (anyOf others).selects document = true := by
  intro hat document predicates others
  have hmembers : ∀ p, p ∈ predicates ↔ p ∈ others := by
    intro p
    simp only [predicates, others, List.mem_cons, List.not_mem_nil, or_false]
    tauto
  have hred : (hat "red").selects document = true := by decide +kernel
  have hblue : (hat "blue").selects document = false := by decide +kernel
  obtain ⟨hall, hany, hcongr⟩ := selects_combinations_iff predicates document
  refine ⟨hmembers, ?_, ?_⟩
  · rw [← (hcongr others hmembers).1, ← Bool.not_eq_true, hall]
    intro hselects
    exact absurd (hselects (hat "blue") (by simp [predicates])) (by simp [hblue])
  · rw [← (hcongr others hmembers).2, hany]
    exact .inr ⟨hat "red", List.mem_cons_self, by decide, hred⟩

end Filter.Predicate
end DocumentCatalog
