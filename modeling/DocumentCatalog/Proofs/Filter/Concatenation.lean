import DocumentCatalog.Proofs.Filter.Dropping

/-!
Filters that are put one after the other. Their expressions follow each other, and so do what is
reported of the tokens and what is reported of the expressions. What the second filter writes
replaces what the first one wrote under the same key; the alternatives of the first are written
after all of it, so they stay only where the second filter writes no alternatives of its own.
-/

namespace DocumentCatalog
namespace Filter

theorem lastAlternatives?_append (first second : List Expression) :
    lastAlternatives? (first ++ second) =
      (lastAlternatives? second).or (lastAlternatives? first) := by
  rw [lastAlternatives?, List.filterMap_append, List.getLast?_append]
  rfl

/-- Where no later condition is written beside the alternatives, the later filter's writes count
before those of the earlier one. -/
theorem get?_reverse_writes_append (first : List Expression) {second : List Expression}
    (h : ∀ e ∈ second, ∀ write ∈ e.write?, write.1 ≠ orKey) (key : String) :
    Entries.get? (writes (first ++ second)).reverse key =
      (Entries.get? (writes second).reverse key).or (Entries.get? (writes first).reverse key) := by
  simp only [get?_reverse_writes, lastAlternatives?_append, List.filterMap_append,
    List.reverse_append, Entries.get?_append]
  by_cases hkey : orKey = key
  · -- nothing of the second filter but its alternatives is written here
    have hnone : Entries.get? (second.filterMap Expression.write?).reverse key = none := by
      rw [Entries.get?_reverse_filterMap, List.filter_eq_nil_iff.mpr]
      · rfl
      · intro e he
        cases hwrite : e.write? with
        | none => simp
        | some write =>
            have hne := h e he write hwrite
            simpa [← hkey] using hne
    rw [hnone, if_pos hkey, if_pos hkey, if_pos hkey, Option.none_or, Option.or_none,
      ← Option.or_assoc]
    cases lastAlternatives? second <;> rfl
  · simp only [if_neg hkey, Option.none_or]

/-- Only joined comparisons write under another key than their field. -/
theorem Expression.fst_of_write? {e : Expression} {write : String × Json}
    (h : write ∈ e.write?) :
    write.1 = e.field ∨ ∃ first join second, e = .joined e.field first join second := by
  cases e with
  | simple field operator value =>
      cases operator with
      | eq => exact .inl (congrArg Prod.fst (Option.some.inj h)).symm
      | lt | lte | gt | gte =>
          obtain ⟨x, -, rfl⟩ := Option.map_eq_some_iff.mp h
          exact .inl rfl
  | multiple field values => cases h
  | joined field first join second => exact .inr ⟨first, join, second, rfl⟩

namespace Compiler

theorem not_joined {c : Compiler} {filter : String} (hplain : c.joined = false) {e : Expression}
    (he : e ∈ c.expressions filter) (field : String) (first : Clause) (join : Join)
    (second : Clause) : e ≠ .joined field first join second := by
  rintro rfl
  obtain ⟨token, -, hclass⟩ := mem_expressions_iff.mp he
  have henabled : c.joined = true := (of_classify hclass).1
  rw [hplain] at henabled
  cases henabled

section

variable (c : Compiler) (f g : String)

theorem classified_join :
    c.classified (Text.join c.expressionSeparator [f, g]) = c.classified f ++ c.classified g := by
  have htokens : c.tokens (Text.join c.expressionSeparator [f, g]) = c.tokens f ++ c.tokens g := by
    rw [tokens, Text.split_join_flatMap (List.cons_ne_nil _ _)]
    simp [tokens]
  rw [classified, htokens, List.map_append]
  rfl

theorem expressions_join :
    c.expressions (Text.join c.expressionSeparator [f, g]) = c.expressions f ++ c.expressions g := by
  rw [expressions, classified_join, List.filterMap_append]
  rfl

theorem parseDiagnostics_join :
    c.parseDiagnostics (Text.join c.expressionSeparator [f, g]) =
      c.parseDiagnostics f ++ c.parseDiagnostics g := by
  rw [parseDiagnostics, classified_join, List.filterMap_append]
  rfl

theorem buildDiagnostics_join :
    c.buildDiagnostics (Text.join c.expressionSeparator [f, g]) =
      c.buildDiagnostics f ++ c.buildDiagnostics g := by
  simp only [buildDiagnostics_eq, expressions_join, List.flatMap_append]

theorem get?_compile_join (hplain : c.joined = false)
    (hg : ∀ e ∈ c.expressions g, e.field ≠ orKey) (key : String) :
    (c.compile (Text.join c.expressionSeparator [f, g])).get? key =
      ((c.compile g).get? key).or ((c.compile f).get? key) := by
  simp only [get?_compile_writes, expressions_join]
  apply get?_reverse_writes_append
  intro e he write hwrite
  rcases Expression.fst_of_write? hwrite with hfield | ⟨first, join, second, hjoined⟩
  · rw [hfield]
    exact hg e he
  · exact absurd hjoined (not_joined hplain he _ first join second)

/-- Two filters, one after the other, without joined comparisons: if the second has no expression on
the key of the alternatives, the predicate is that of the first with that of the second written over
it, but for the order of its keys. The expressions are those of both in order, and of each kind of
diagnostics those of the first filter come first. -/
theorem run_join_pair (hplain : c.joined = false)
    (hg : ∀ e ∈ c.expressions g, e.field ≠ orKey) :
    let both := Text.join c.expressionSeparator [f, g]
    (c.compile both).entries.Perm ((c.compile f).merge (c.compile g)).entries ∧
      (∀ key, (c.compile both).get? key =
        ((c.compile g).get? key).or ((c.compile f).get? key)) ∧
      c.expressions both = c.expressions f ++ c.expressions g ∧
      (c.run both).diagnostics = c.parseDiagnostics f ++ c.parseDiagnostics g ++
        c.buildDiagnostics f ++ c.buildDiagnostics g := by
  intro both
  have hget := get?_compile_join c f g hplain hg
  refine ⟨?_, hget, expressions_join c f g, ?_⟩
  · apply Entries.perm_of_get? (c.compile both).distinct ((c.compile f).merge (c.compile g)).distinct
    intro key
    exact (hget key).trans (Entries.get?_merge_of_nodup _ (c.compile g).distinct key).symm
  · calc (c.run both).diagnostics
      _ = c.parseDiagnostics both ++ c.buildDiagnostics both := rfl
      _ = _ := by
        rw [parseDiagnostics_join, buildDiagnostics_join, ← List.append_assoc]

end

/-- The alternatives come from the first filter, and in the whole they are written last. The second
filter replaces a field of the first, and both have something to report of either kind. -/
theorem run_join_pair_alternatives :
    let c := standard
    let f := "x_gt_many;hat_eq_Red_Blue;y_eq_1;oops"
    let g := "y_gt_2;z;x_lt_few;w_eq_1"
    let both := "x_gt_many;hat_eq_Red_Blue;y_eq_1;oops;y_gt_2;z;x_lt_few;w_eq_1"
    c.joined = false ∧ (∀ e ∈ c.expressions g, e.field ≠ orKey) ∧
      (c.compile both).entries.Perm ((c.compile f).merge (c.compile g)).entries ∧
      (c.compile both).keys = ["y", "w", orKey] ∧
      ((c.compile f).merge (c.compile g)).keys = ["y", orKey, "w"] ∧
      (c.run both).diagnostics = [.malformedShape "oops" 1, .malformedShape "z" 1,
        .invalidNumber "x" "many", .invalidNumber "x" "few"] := by
  intro c f g both
  have hplain : c.joined = false := rfl
  have hg : ∀ e ∈ c.expressions g, e.field ≠ orKey := by decide +kernel
  obtain ⟨hperm, -, -, hdiagnostics⟩ := run_join_pair c f g hplain hg
  have hboth : Text.join c.expressionSeparator [f, g] = both := by decide +kernel
  rw [hboth] at hperm hdiagnostics
  exact ⟨hplain, hg, hperm, by decide +kernel, by decide +kernel,
    hdiagnostics.trans (by decide +kernel)⟩

end Compiler
end Filter
end DocumentCatalog
