import DocumentCatalog.Filter.Compiler

/-!
What a token reads as, by the number of its parts: three parts are a comparison if the second one
names an operator, more parts are a choice unless they join two comparisons, and fewer are nothing.
The field is a part in lower case, and every value is a part after substitution.
-/

namespace DocumentCatalog
namespace Filter

theorem Operator.ofKeyword?_eq_some_iff {word : String} {op : Operator} :
    Operator.ofKeyword? word = some op ↔ op.keyword = word := by
  constructor
  · intro h
    unfold ofKeyword? at h
    simpa using List.find?_some h
  · rintro rfl
    cases op <;> decide

theorem Join.ofKeyword?_eq_some_iff {word : String} {join : Join} :
    Join.ofKeyword? word = some join ↔ join.keyword = word := by
  constructor
  · intro h
    unfold ofKeyword? at h
    simpa using List.find?_some h
  · rintro rfl
    cases join <;> decide

theorem Operator.ofKeyword?_eq_none_iff {word : String} :
    Operator.ofKeyword? word = none ↔ ∀ op : Operator, op.keyword ≠ word := by
  simp only [Option.eq_none_iff_forall_ne_some, ne_eq, ofKeyword?_eq_some_iff]

/-- Six parts that could be two comparisons joined by a word. -/
def JoinedShape (parts : List String) : Prop :=
  ∃ name first value join second value',
    parts = [name, Operator.keyword first, value, Join.keyword join, Operator.keyword second, value']

/-- The texts that an expression compares a field with. -/
def Expression.values : Expression → List String
  | .simple _ _ value => [value]
  | .multiple _ values => values
  | .joined _ first _ second => [first.value, second.value]

namespace Compiler

variable (c : Compiler)

/-- The shapes of expressions that a token can have. -/
def Admits : Expression → Prop
  | .simple _ _ _ => True
  | .multiple _ values => 2 ≤ values.length
  | .joined _ _ _ _ => c.joined = true

theorem classifyParts_few (token : String) {parts : List String} (h : parts.length < 3) :
    c.classifyParts token parts = .error (.malformedShape token parts.length) := by
  match parts with
  | [] | [_] | [_, _] => rfl
  | _ :: _ :: _ :: rest =>
      simp only [List.length_cons] at h
      omega

theorem classifyParts_three (token name operator value : String) :
    c.classifyParts token [name, operator, value] =
      match Operator.ofKeyword? operator with
      | some operator =>
          .ok (.simple (Unicode.lowercase name) operator (c.substitutions.apply value))
      | none => .error (.unknownOperator token operator) :=
  rfl

theorem classifyParts_many (token name operator value value' : String) (rest : List String) :
    c.classifyParts token (name :: operator :: value :: value' :: rest) =
      .ok (((if c.joined then
          c.joinedExpression? (Unicode.lowercase name) (name :: operator :: value :: value' :: rest)
        else none).getD
          (.multiple (Unicode.lowercase name)
            ((value :: value' :: rest).map c.substitutions.apply)))) := by
  unfold classifyParts
  by_cases hj : c.joined
  · simp only [if_pos hj]
  · simp only [if_neg hj, Option.getD_none]

/-- A joined reading takes six parts, three of which are keywords. -/
theorem joinedExpression?_eq_some_iff {field : String} {parts : List String} {e : Expression} :
    c.joinedExpression? field parts = some e ↔
      ∃ name first value join second value',
        parts = [name, Operator.keyword first, value, Join.keyword join, Operator.keyword second,
          value'] ∧
        e = .joined field ⟨first, c.substitutions.apply value⟩ join
          ⟨second, c.substitutions.apply value'⟩ := by
  constructor
  · intro h
    unfold joinedExpression? at h
    split at h
    · next name operator value word operator' value' =>
        simp only [Option.bind_eq_bind, Option.bind_eq_some_iff] at h
        obtain ⟨first, hfirst, join, hjoin, second, hsecond, he⟩ := h
        refine ⟨name, first, value, join, second, value', ?_, (Option.some.inj he).symm⟩
        rw [Operator.ofKeyword?_eq_some_iff.mp hfirst, Join.ofKeyword?_eq_some_iff.mp hjoin,
          Operator.ofKeyword?_eq_some_iff.mp hsecond]
    · cases h
  · rintro ⟨name, first, value, join, second, value', rfl, rfl⟩
    simp [joinedExpression?, Operator.ofKeyword?_eq_some_iff.mpr rfl,
      Join.ofKeyword?_eq_some_iff.mpr rfl]

theorem joinedExpression?_eq_none_iff {field : String} {parts : List String} :
    c.joinedExpression? field parts = none ↔ ¬ JoinedShape parts := by
  rw [Option.eq_none_iff_forall_ne_some]
  constructor
  · rintro h ⟨name, first, value, join, second, value', hsix⟩
    exact h _ ((c.joinedExpression?_eq_some_iff).mpr
      ⟨name, first, value, join, second, value', hsix, rfl⟩)
  · intro h e he
    obtain ⟨name, first, value, join, second, value', hsix, -⟩ :=
      (c.joinedExpression?_eq_some_iff).mp he
    exact h ⟨name, first, value, join, second, value', hsix⟩

/-- What the parts of a token read as. -/
inductive Reads : List String → Expression → Prop
  | simple (name : String) (operator : Operator) (value : String) :
      Reads [name, operator.keyword, value]
        (.simple (Unicode.lowercase name) operator (c.substitutions.apply value))
  | multiple (name word value value' : String) (rest : List String)
      (h : c.joined = true → ¬ JoinedShape (name :: word :: value :: value' :: rest)) :
      Reads (name :: word :: value :: value' :: rest)
        (.multiple (Unicode.lowercase name) ((value :: value' :: rest).map c.substitutions.apply))
  | joined (name : String) (first : Operator) (value : String) (join : Join) (second : Operator)
      (value' : String) (h : c.joined = true) :
      Reads [name, first.keyword, value, join.keyword, second.keyword, value']
        (.joined (Unicode.lowercase name) ⟨first, c.substitutions.apply value⟩ join
          ⟨second, c.substitutions.apply value'⟩)

variable {c}

theorem classifyParts_of_reads {parts : List String} {e : Expression} (h : c.Reads parts e)
    (token : String) : c.classifyParts token parts = .ok e := by
  cases h with
  | simple name operator value =>
      rw [classifyParts_three, Operator.ofKeyword?_eq_some_iff.mpr rfl]
  | multiple name word value value' rest h =>
      rw [classifyParts_many]
      by_cases hjoined : c.joined = true
      · rw [if_pos hjoined, (c.joinedExpression?_eq_none_iff).mpr (h hjoined), Option.getD_none]
      · rw [if_neg hjoined, Option.getD_none]
  | joined name first value join second value' h =>
      rw [classifyParts_many, if_pos h, (c.joinedExpression?_eq_some_iff).mpr
        ⟨name, first, value, join, second, value', rfl, rfl⟩, Option.getD_some]

theorem reads_of_classifyParts {token : String} {parts : List String} {e : Expression}
    (h : c.classifyParts token parts = .ok e) : c.Reads parts e := by
  match parts with
  | [] | [_] | [_, _] => cases h
  | [name, word, value] =>
      rw [classifyParts_three] at h
      split at h
      · next operator hword =>
          cases h
          rw [← Operator.ofKeyword?_eq_some_iff.mp hword]
          exact .simple name operator value
      · cases h
  | name :: word :: value :: value' :: rest =>
      rw [classifyParts_many] at h
      cases hjoined : if c.joined then c.joinedExpression? (Unicode.lowercase name)
          (name :: word :: value :: value' :: rest) else none with
      | none =>
          rw [hjoined] at h
          cases h
          refine .multiple name word value value' rest fun henabled => ?_
          rw [if_pos henabled] at hjoined
          exact (c.joinedExpression?_eq_none_iff).mp hjoined
      | some joined =>
          rw [hjoined] at h
          cases h
          obtain ⟨henabled, hjoined⟩ := Option.ite_none_right_eq_some.mp hjoined
          obtain ⟨name', first, value, join, second, value', hsix, rfl⟩ :=
            (c.joinedExpression?_eq_some_iff).mp hjoined
          cases hsix
          exact .joined name first value join second value' henabled

theorem classify_eq_ok_iff {token : String} {e : Expression} :
    c.classify token = .ok e ↔ c.Reads (c.parts token) e :=
  ⟨reads_of_classifyParts, fun h => classifyParts_of_reads h token⟩

/-- Tokens are refused for having too few parts, or three parts and no operator. -/
theorem classify_eq_error_iff {token : String} {reason : Diagnostic} :
    c.classify token = .error reason ↔
      ((c.parts token).length < 3 ∧
        reason = .malformedShape token (c.parts token).length) ∨
      ∃ name word value, c.parts token = [name, word, value] ∧
        (∀ operator : Operator, operator.keyword ≠ word) ∧
        reason = .unknownOperator token word := by
  constructor
  · intro h
    unfold classify at h
    match hparts : c.parts token with
    | [] | [_] | [_, _] =>
        rw [hparts, classifyParts_few c token (by simp)] at h
        cases h
        exact .inl ⟨by simp, rfl⟩
    | [name, word, value] =>
        rw [hparts, classifyParts_three] at h
        split at h
        · cases h
        · next hword =>
            cases h
            exact .inr ⟨name, word, value, rfl, Operator.ofKeyword?_eq_none_iff.mp hword, rfl⟩
    | name :: word :: value :: value' :: rest =>
        rw [hparts, classifyParts_many] at h
        cases h
  · rintro (⟨hfew, rfl⟩ | ⟨name, word, value, hparts, hword, rfl⟩)
    · exact classifyParts_few c token hfew
    · rw [classify, hparts, classifyParts_three, Operator.ofKeyword?_eq_none_iff.mpr hword]

/-- What an expression has from the token that reads as it. -/
theorem of_classify {token : String} {e : Expression} (h : c.classify token = .ok e) :
    c.Admits e ∧ (∃ name, (c.parts token).head? = some name ∧ e.field = Unicode.lowercase name) ∧
      ∀ value ∈ e.values, ∃ raw ∈ c.parts token, value = c.substitutions.apply raw := by
  have hreads := classify_eq_ok_iff.mp h
  generalize c.parts token = parts at hreads
  cases hreads with
  | simple name operator value =>
      exact ⟨trivial, ⟨name, rfl, rfl⟩, by simp [Expression.values]⟩
  | multiple name word value value' rest =>
      refine ⟨by simp [Admits], ⟨name, rfl, rfl⟩, ?_⟩
      intro v hv
      obtain ⟨raw, hraw, rfl⟩ := List.mem_map.mp hv
      exact ⟨raw, List.mem_cons_of_mem _ (List.mem_cons_of_mem _ hraw), rfl⟩
  | joined name first value join second value' henabled =>
      exact ⟨henabled, ⟨name, rfl, rfl⟩, by simp [Expression.values]⟩

/-- A choice has the values of at least four parts, so at least two of them. -/
theorem two_le_values_of_classify {token field : String} {values : List String}
    (h : c.classify token = .ok (.multiple field values)) : 2 ≤ values.length :=
  (of_classify h).1

theorem mem_expressions_iff {filter : String} {e : Expression} :
    e ∈ c.expressions filter ↔ ∃ token ∈ c.tokens filter, c.classify token = .ok e := by
  unfold expressions classified
  rw [List.filterMap_map, List.mem_filterMap]
  constructor
  · rintro ⟨token, htoken, hclass⟩
    refine ⟨token, htoken, ?_⟩
    cases hc : c.classify token with
    | error reason => simp [hc, Except.toOption] at hclass
    | ok other => simpa [hc, Except.toOption] using hclass
  · rintro ⟨token, htoken, hclass⟩
    exact ⟨token, htoken, by simp [hclass, Except.toOption]⟩

/-- Whether a filter reads as these expressions, every token of it being one of them. -/
def ReadsAs (c : Compiler) (filter : String) (expressions : List Expression) : Prop :=
  c.expressions filter = expressions ∧ c.parseDiagnostics filter = []

theorem readsAs_of_classified {filter : String} {expressions : List Expression}
    (h : c.classified filter = expressions.map .ok) : c.ReadsAs filter expressions := by
  constructor
  · rw [Compiler.expressions, h, List.filterMap_map]
    exact List.filterMap_some
  · rw [parseDiagnostics, h, List.filterMap_map]
    exact List.filterMap_eq_nil_iff.mpr fun _ _ => rfl

theorem two_le_values {filter field : String} {values : List String}
    (h : .multiple field values ∈ c.expressions filter) : 2 ≤ values.length := by
  obtain ⟨token, -, hclass⟩ := mem_expressions_iff.mp h
  exact two_le_values_of_classify hclass

end Compiler
end Filter
end DocumentCatalog
