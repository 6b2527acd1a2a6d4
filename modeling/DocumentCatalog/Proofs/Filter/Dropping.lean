import DocumentCatalog.Proofs.Filter.Meaning
import DocumentCatalog.Proofs.Filter.Merging
import DocumentCatalog.Proofs.Text.Split

/-!
Tokens that are dropped. What cannot be read is reported and leaves no trace in the predicate: the
filter that is left without such tokens compiles to the same predicate, with nothing to report.
-/

namespace DocumentCatalog
namespace Filter

/-- What is reported of a clause whose value has to be a finite number. -/
def Clause.problems (field : String) (clause : Clause) : List Diagnostic :=
  if clause.effective then [] else [.invalidNumber field clause.value]

/-- What is reported of an expression, its first clause first. -/
def Expression.problems : Expression → List Diagnostic
  | .simple _ .eq _ => []
  | .simple field operator value => Clause.problems field ⟨operator, value⟩
  | .multiple _ _ => []
  | .joined field first _ second => first.problems field ++ second.problems field

theorem failure?_comparison (field : String) (clause : Clause) :
    (Compiler.failure? (comparison field clause)).toList = clause.problems field := by
  rw [comparison_eq, Clause.problems, Clause.effective]
  cases Decimal.read? clause.value <;> rfl

theorem Clause.problems_eq_nil_iff {field : String} {clause : Clause} :
    clause.problems field = [] ↔ clause.effective = true := by
  simp [problems]

namespace Expression

/-- Nothing is reported of an expression exactly when it has its effect. -/
theorem problems_eq_nil_iff {e : Expression} : e.problems = [] ↔ e.effective = true := by
  cases e with
  | simple field operator value =>
      cases operator with
      | eq => simp [problems, effective]
      | lt | lte | gt | gte => exact Clause.problems_eq_nil_iff
  | multiple field values => simp [problems, effective]
  | joined field first join second =>
      simp [problems, effective, Clause.problems_eq_nil_iff]

/-- Effective expressions are those that write something, and the choices. -/
theorem isSome_write? (e : Expression) : e.write?.isSome = (!e.isMultiple && e.effective) := by
  cases e with
  | simple field operator value =>
      cases operator with
      | eq => rfl
      | lt | lte | gt | gte => simp [write?, isMultiple, effective, Clause.effective]
  | multiple field values => rfl
  | joined field first join second =>
      cases hx : Decimal.read? first.value <;> cases hy : Decimal.read? second.value <;>
        simp [write?, isMultiple, effective, Clause.effective, hx, hy]

theorem write?_of_not_effective {e : Expression} (h : e.effective = false) : e.write? = none := by
  rw [← Option.isNone_iff_eq_none, ← Option.isSome_eq_false_iff, isSome_write?, h, Bool.and_false]

theorem alternatives?_of_not_effective {e : Expression} (h : e.effective = false) :
    e.alternatives? = none := by
  cases e with
  | multiple field values => cases h
  | simple _ _ _ | joined _ _ _ _ => rfl

end Expression

theorem writes_filter_effective (expressions : List Expression) :
    writes (expressions.filter Expression.effective) = writes expressions := by
  have hskip : ∀ {α : Type} (f : Expression → Option α),
      (∀ e : Expression, e.effective = false → f e = none) →
        (expressions.filter Expression.effective).filterMap f = expressions.filterMap f := by
    intro α f hf
    rw [List.filterMap_filter]
    congr 1
    funext e
    cases he : e.effective with
    | true => rfl
    | false => simp [hf e he]
  unfold writes lastAlternatives?
  rw [hskip _ fun _ => Expression.write?_of_not_effective,
    hskip _ fun _ => Expression.alternatives?_of_not_effective]

namespace Draft

theorem dropped_push (d : Draft) (e : Expression) :
    (d.push e).dropped = d.dropped ++ e.problems := by
  cases e with
  | simple field operator value =>
      cases operator with
      | eq => simp [push, Expression.problems]
      | lt | lte | gt | gte =>
          cases hread : Decimal.read? value <;>
            simp [push, comparison_eq, Expression.problems, Clause.problems, Clause.effective, hread]
  | multiple field values => simp [push, Expression.problems]
  | joined field first join second =>
      simp only [push, pushJoined, failure?_comparison, Expression.problems]
      split <;> simp

theorem dropped_foldl_push (d : Draft) (expressions : List Expression) :
    (expressions.foldl push d).dropped = d.dropped ++ expressions.flatMap Expression.problems := by
  induction expressions generalizing d with
  | nil => simp
  | cons e rest ih => rw [List.foldl_cons, ih, dropped_push, List.flatMap_cons, List.append_assoc]

end Draft

namespace Compiler

/-- The tokens that contribute nothing: those of less than three parts, those of three parts without
an operator, and those that ask for a number where there is none. -/
def Drops (c : Compiler) (token : String) : Prop :=
  (c.parts token).length < 3 ∨
    (∃ name word value, c.parts token = [name, word, value] ∧
      ∀ operator : Operator, operator.keyword ≠ word) ∨
    ∃ e, c.classify token = .ok e ∧ e.effective = false

variable {c : Compiler}

theorem drops_of_error {token : String} {reason : Diagnostic}
    (h : c.classify token = .error reason) : c.Drops token := by
  rcases classify_eq_error_iff.mp h with ⟨hfew, -⟩ | ⟨name, word, value, hparts, hword, -⟩
  · exact .inl hfew
  · exact .inr (.inl ⟨name, word, value, hparts, hword⟩)

theorem drops_iff {token : String} :
    c.Drops token ↔ ∀ e, c.classify token = .ok e → e.effective = false := by
  constructor
  · rintro (hfew | ⟨name, word, value, hparts, hword⟩ | ⟨e, hclass, he⟩) other hother
    · rw [classify, classifyParts_few c token hfew] at hother
      cases hother
    · rw [classify, hparts, classifyParts_three, Operator.ofKeyword?_eq_none_iff.mpr hword] at hother
      cases hother
    · rw [hclass] at hother
      cases hother
      exact he
  · intro h
    cases hclass : c.classify token with
    | ok e => exact .inr (.inr ⟨e, hclass, h e hclass⟩)
    | error reason => exact drops_of_error hclass

instance (c : Compiler) (token : String) : Decidable (c.Drops token) :=
  match h : c.classify token with
  | .ok e => decidable_of_iff (e.effective = false) (by simp [drops_iff, h])
  | .error _ => isTrue (drops_of_error h)

/-- The tokens that contribute something, in order. -/
def kept (c : Compiler) (filter : String) : List String :=
  (c.tokens filter).filter fun token => ¬ c.Drops token

theorem map_classify_kept (tokens : List String) :
    (tokens.filter fun token => ¬ c.Drops token).map c.classify =
      (((tokens.map c.classify).filterMap Except.toOption).filter Expression.effective).map .ok := by
  induction tokens with
  | nil => rfl
  | cons token rest ih =>
      rw [List.map_cons, List.filter_cons, List.filterMap_cons]
      cases hclass : c.classify token with
      | error reason =>
          have hdrops : c.Drops token := drops_of_error hclass
          simpa [hdrops, Except.toOption] using ih
      | ok e =>
          have hdrops : c.Drops token ↔ e.effective = false := by simp [drops_iff, hclass]
          cases he : e.effective <;> simpa [hdrops, he, hclass, Except.toOption] using ih

theorem compile_eq_of_writes {filter other : String}
    (h : writes (c.expressions filter) = writes (c.expressions other)) :
    c.compile filter = c.compile other := by
  apply Predicate.eq_of_entries
  rw [entries_compile, entries_compile, h]

/-- What building the predicate reports, after the tokens that are no expressions. -/
def buildDiagnostics (c : Compiler) (filter : String) : List Diagnostic :=
  ((c.expressions filter).foldl Draft.push .empty).dropped

theorem buildDiagnostics_eq (c : Compiler) (filter : String) :
    c.buildDiagnostics filter = (c.expressions filter).flatMap Expression.problems :=
  Draft.dropped_foldl_push .empty (c.expressions filter)

theorem run_eq (c : Compiler) (filter : String) :
    c.run filter = ⟨c.compile filter,
      c.parseDiagnostics filter ++ (c.expressions filter).flatMap Expression.problems⟩ := by
  rw [← buildDiagnostics_eq]
  rfl

/-- The expressions of the tokens that are kept are the effective ones. -/
theorem readsAs_join_kept {filter : String} (hne : c.kept filter ≠ []) :
    c.ReadsAs (Text.join c.expressionSeparator (c.kept filter))
      ((c.expressions filter).filter Expression.effective) := by
  have htokens : c.tokens (Text.join c.expressionSeparator (c.kept filter)) = c.kept filter :=
    Text.split_join hne fun _ htoken =>
      Text.not_mem_of_mem_split (List.mem_filter.mp htoken).1
  apply readsAs_of_classified
  rw [classified, htokens, kept, map_classify_kept]
  rfl

theorem writes_eq_of_kept {filter other : String} (h : c.kept filter = c.kept other) :
    writes (c.expressions filter) = writes (c.expressions other) := by
  have heffective : ((c.expressions filter).filter Expression.effective).map
      (Except.ok (ε := Diagnostic)) = ((c.expressions other).filter Expression.effective).map .ok := by
    have hclassified := congrArg (List.map c.classify) h
    rwa [kept, kept, map_classify_kept, map_classify_kept] at hclassified
  have heq := List.map_inj_right (fun _ _ hok => Except.ok.inj hok) |>.mp heffective
  rw [← writes_filter_effective, heq, writes_filter_effective]

/-- Without its dropped tokens a filter compiles to the same predicate, and nothing is reported;
where nothing is left, nothing was demanded. So filters that keep the same tokens demand the same,
wherever dropped ones stand between them. -/
theorem run_join_kept (c : Compiler) (filter : String) :
    (c.kept filter ≠ [] →
      c.run (Text.join c.expressionSeparator (c.kept filter)) = ⟨c.compile filter, []⟩) ∧
    (c.kept filter = [] → c.compile filter = .empty) ∧
    ∀ other, c.kept other = c.kept filter → c.compile other = c.compile filter := by
  refine ⟨?_, ?_, fun other h => compile_eq_of_writes (writes_eq_of_kept h)⟩
  · intro hne
    obtain ⟨hexpressions, hdiagnostics⟩ := readsAs_join_kept hne
    have hproblems : ((c.expressions filter).filter Expression.effective).flatMap
        Expression.problems = [] := by
      rw [List.flatMap_eq_nil_iff]
      intro e he
      exact Expression.problems_eq_nil_iff.mpr (List.mem_filter.mp he).2
    have hwrites : writes (c.expressions (Text.join c.expressionSeparator (c.kept filter))) =
        writes (c.expressions filter) := by
      rw [hexpressions, writes_filter_effective]
    rw [run_eq, hdiagnostics, hexpressions, hproblems, compile_eq_of_writes hwrites]
    rfl
  · intro hnil
    have hexpressions : (c.expressions filter).filter Expression.effective = [] := by
      have hclassified := map_classify_kept (c := c) (c.tokens filter)
      rw [← kept, hnil, List.map_nil] at hclassified
      exact List.map_eq_nil_iff.mp hclassified.symm
    apply Predicate.eq_of_entries
    rw [entries_compile, ← writes_filter_effective, hexpressions]
    rfl

/-- Every kind of dropped token between a comparison and a choice, one of the comparison's own
field; the same two tokens with another one between them; and nothing but dropped tokens. -/
theorem run_join_kept_scattered :
    let c : Compiler := { standard with joined := true }
    let filter := "x_gt_1;oops;x_lt_many;hat_eq_Red_Blue;;x_ne_2;y_gt_1_and_lt_many"
    let other := "x_gt_1;x_gte_;hat_eq_Red_Blue"
    c.kept filter ≠ [] ∧ c.kept "oops;;x_lt_many" = [] ∧ c.kept other = c.kept filter ∧
      c.run (Text.join c.expressionSeparator (c.kept filter)) = ⟨c.compile filter, []⟩ ∧
      c.compile "oops;;x_lt_many" = .empty ∧ c.compile other = c.compile filter := by
  intro c filter other
  have hne : c.kept filter ≠ [] := by decide +kernel
  have hnil : c.kept "oops;;x_lt_many" = [] := by decide +kernel
  have hsame : c.kept other = c.kept filter := by decide +kernel
  obtain ⟨hrun, -, hother⟩ := run_join_kept c filter
  exact ⟨hne, hnil, hsame, hrun hne, (run_join_kept c _).2.1 hnil, hother other hsame⟩

end Compiler
end Filter
end DocumentCatalog
