import DocumentCatalog.Proofs.Filter.Token
import DocumentCatalog.Proofs.Text.Split
import DocumentCatalog.Proofs.Unicode.Case

/-!
Writing expressions as filter text. There is no escaping, so what can be written are expressions
whose texts have no separator; those are read back as they were. What was read from a filter with
the usual separators can always be written again.
-/

namespace DocumentCatalog
namespace Filter

/-- The parts of a token that reads as this expression. A choice has no operator of its own, so the
placeholder takes that place. -/
def Expression.parts (placeholder : String) : Expression → List String
  | .simple field operator value => [field, operator.keyword, value]
  | .multiple field values => field :: placeholder :: values
  | .joined field first join second =>
      [field, first.operator.keyword, first.value, join.keyword, second.operator.keyword,
        second.value]

namespace Compiler

def renderToken (c : Compiler) (placeholder : String) (e : Expression) : String :=
  Text.join c.partSeparator (e.parts placeholder)

/-- Expressions as filter text. -/
def render (c : Compiler) (placeholder : String) (expressions : List Expression) : String :=
  Text.join c.expressionSeparator (expressions.map (c.renderToken placeholder))

/-- Whether a text has neither of the separators. -/
def Plain (c : Compiler) (s : String) : Prop :=
  c.expressionSeparator ∉ s.toList ∧ c.partSeparator ∉ s.toList

instance (c : Compiler) (s : String) : Decidable (c.Plain s) :=
  inferInstanceAs (Decidable (_ ∧ _))

/-- Whether the keywords, and the placeholder instead of one, have neither of the separators. -/
structure PlainWords (c : Compiler) (placeholder : String) : Prop where
  operator : ∀ operator : Operator, c.Plain operator.keyword
  join : ∀ join : Join, c.Plain join.keyword
  placeholder : c.Plain placeholder

/-- Whether an expression is one that a compiler can read from its own writing. -/
structure Writable (c : Compiler) (e : Expression) : Prop where
  admitted : c.Admits e
  field_plain : c.Plain e.field
  values_plain : ∀ value ∈ e.values, c.Plain value
  field_lowercase : Unicode.lowercase e.field = e.field
  values_fixed : ∀ value ∈ e.values, c.substitutions.apply value = value

instance (c : Compiler) (e : Expression) : Decidable (c.Admits e) :=
  match e with
  | .simple _ _ _ => isTrue trivial
  | .multiple _ values => inferInstanceAs (Decidable (2 ≤ values.length))
  | .joined _ _ _ _ => inferInstanceAs (Decidable (c.joined = true))

instance (c : Compiler) (e : Expression) : Decidable (c.Writable e) :=
  decidable_of_iff (c.Admits e ∧ c.Plain e.field ∧ (∀ value ∈ e.values, c.Plain value) ∧
      Unicode.lowercase e.field = e.field ∧ ∀ value ∈ e.values, c.substitutions.apply value = value)
    ⟨fun h => ⟨h.1, h.2.1, h.2.2.1, h.2.2.2.1, h.2.2.2.2⟩,
      fun h => ⟨h.admitted, h.field_plain, h.values_plain, h.field_lowercase, h.values_fixed⟩⟩

variable {c : Compiler} {placeholder : String} {e : Expression}

theorem reads_parts (hplaceholder : ∀ operator : Operator, operator.keyword ≠ placeholder)
    (h : c.Writable e) : c.Reads (e.parts placeholder) e := by
  cases e with
  | simple field operator value =>
      have hfield : Unicode.lowercase field = field := h.field_lowercase
      have hvalue := h.values_fixed value (by simp [Expression.values])
      have hreads := Reads.simple (c := c) field operator value
      rwa [hfield, hvalue] at hreads
  | multiple field values =>
      have hfield : Unicode.lowercase field = field := h.field_lowercase
      have hvalues : values.map c.substitutions.apply = values :=
        (List.map_congr_left h.values_fixed).trans (List.map_id' values)
      have htwo : 2 ≤ values.length := h.admitted
      rcases values with _ | ⟨value, _ | ⟨value', rest⟩⟩
      · cases htwo
      · exact absurd htwo (by simp)
      · -- whatever the values are, they do not join comparisons after the placeholder
        have hchoice : ¬ JoinedShape (field :: placeholder :: value :: value' :: rest) := by
          rintro ⟨_, first, _, _, _, _, hsix⟩
          simp only [List.cons.injEq] at hsix
          exact hplaceholder first hsix.2.1.symm
        have hreads := Reads.multiple (c := c) field placeholder value value' rest fun _ => hchoice
        rwa [hfield, hvalues] at hreads
  | joined field first join second =>
      have hfield : Unicode.lowercase field = field := h.field_lowercase
      have hfirst := h.values_fixed first.value (by simp [Expression.values])
      have hsecond := h.values_fixed second.value (by simp [Expression.values])
      have hreads := Reads.joined (c := c) field first.operator first.value join second.operator
        second.value h.admitted
      rwa [hfield, hfirst, hsecond] at hreads

theorem mem_parts {part : String} (h : part ∈ e.parts placeholder) :
    part ∈ e.field :: e.values ∨ part = placeholder ∨
      (∃ operator : Operator, part = operator.keyword) ∨ ∃ join : Join, part = join.keyword := by
  cases e with
  | simple field operator value =>
      simp only [Expression.parts, List.mem_cons, List.not_mem_nil, or_false] at h
      rcases h with rfl | rfl | rfl <;> simp [Expression.field, Expression.values]
  | multiple field values =>
      rcases List.mem_cons.mp h with rfl | h
      · exact .inl List.mem_cons_self
      · rcases List.mem_cons.mp h with rfl | h
        · exact .inr (.inl rfl)
        · exact .inl (List.mem_cons_of_mem _ h)
  | joined field first join second =>
      simp only [Expression.parts, List.mem_cons, List.not_mem_nil, or_false] at h
      rcases h with rfl | rfl | rfl | rfl | rfl | rfl <;> simp [Expression.field, Expression.values]

theorem plain_of_mem_parts (hwords : c.PlainWords placeholder) (h : c.Writable e) {part : String}
    (hpart : part ∈ e.parts placeholder) : c.Plain part := by
  rcases mem_parts hpart with htext | rfl | ⟨operator, rfl⟩ | ⟨join, rfl⟩
  · exact List.forall_mem_cons.mpr ⟨h.field_plain, h.values_plain⟩ part htext
  · exact hwords.placeholder
  · exact hwords.operator operator
  · exact hwords.join join

theorem parts_ne_nil (placeholder : String) (e : Expression) : e.parts placeholder ≠ [] := by
  cases e <;> simp [Expression.parts]

theorem classify_renderToken (hplaceholder : ∀ operator : Operator, operator.keyword ≠ placeholder)
    (hwords : c.PlainWords placeholder) (h : c.Writable e) :
    c.classify (c.renderToken placeholder e) = .ok e := by
  have hparts : c.parts (c.renderToken placeholder e) = e.parts placeholder :=
    Text.split_join (parts_ne_nil placeholder e) fun _ hpart =>
      (plain_of_mem_parts hwords h hpart).2
  rw [classify_eq_ok_iff, hparts]
  exact reads_parts hplaceholder h

theorem not_mem_renderToken (hwords : c.PlainWords placeholder) (h : c.Writable e) :
    c.expressionSeparator ∉ (c.renderToken placeholder e).toList := by
  intro hmem
  obtain ⟨part, hpart, hmem⟩ := (Text.mem_join_iff c.separators_differ).mp hmem
  exact (plain_of_mem_parts hwords h hpart).1 hmem

theorem readsAs_render (hplaceholder : ∀ operator : Operator, operator.keyword ≠ placeholder)
    (hwords : c.PlainWords placeholder) {expressions : List Expression} (hne : expressions ≠ [])
    (h : ∀ e ∈ expressions, c.Writable e) :
    c.ReadsAs (c.render placeholder expressions) expressions := by
  have htokens : c.tokens (c.render placeholder expressions) =
      expressions.map (c.renderToken placeholder) := by
    apply Text.split_join
    · simpa using hne
    · simpa using fun e he => not_mem_renderToken hwords (h e he)
  apply readsAs_of_classified
  rw [classified, htokens, List.map_map]
  exact List.map_congr_left fun e he => classify_renderToken hplaceholder hwords (h e he)

end Compiler

theorem Substitutions.apply_cases (s : Substitutions) (raw : String) :
    s.apply raw = raw ∨ s.apply raw ∈ s.table.map (·.2) := by
  unfold apply
  cases hget : Entries.get? s.table raw with
  | none => exact .inl rfl
  | some normalized =>
      obtain ⟨before, after, htable, -⟩ := List.lookup_eq_some_iff.mp hget
      exact .inr (by simp [htable])

namespace Compiler

theorem plainWords_standard {placeholder : String} (h : standard.Plain placeholder) :
    standard.PlainWords placeholder where
  operator operator := by cases operator <;> decide
  join join := by cases join <;> decide
  placeholder := h

theorem standard_values : ∀ value ∈ standard.substitutions.table.map (·.2),
    standard.Plain value ∧ standard.substitutions.apply value = value := by
  decide +kernel

theorem standard_apply {raw : String} (h : standard.Plain raw) :
    standard.Plain (standard.substitutions.apply raw) ∧
      standard.substitutions.apply (standard.substitutions.apply raw) =
        standard.substitutions.apply raw := by
  rcases standard.substitutions.apply_cases raw with hraw | hvalue
  · rw [hraw]
    exact ⟨h, hraw⟩
  · exact standard_values _ hvalue

theorem standard_lowercase {name : String} (h : standard.Plain name) :
    standard.Plain (Unicode.lowercase name) :=
  ⟨fun hmem => h.1 (Unicode.mem_of_mem_lowercase (by decide +kernel) hmem),
    fun hmem => h.2 (Unicode.mem_of_mem_lowercase (by decide +kernel) hmem)⟩

theorem plain_of_mem_split {c : Compiler} {filter token part : String}
    (htoken : token ∈ c.tokens filter) (hpart : part ∈ c.parts token) : c.Plain part :=
  ⟨fun hmem => Text.not_mem_of_mem_split htoken (Text.mem_of_mem_split hpart hmem),
    Text.not_mem_of_mem_split hpart⟩

/-- Lower case makes no separator and no entry of the table has one, so nothing that is read has. -/
theorem writable_of_mem_expressions {filter : String} {e : Expression}
    (h : e ∈ standard.expressions filter) : standard.Writable e := by
  obtain ⟨token, htoken, hclass⟩ := mem_expressions_iff.mp h
  obtain ⟨hadmitted, ⟨name, hname, hfield⟩, hvalues⟩ := of_classify hclass
  refine ⟨hadmitted, ?_, ?_, ?_, ?_⟩
  · rw [hfield]
    exact standard_lowercase (plain_of_mem_split htoken (List.mem_of_head? hname))
  · intro value hvalue
    obtain ⟨raw, hraw, rfl⟩ := hvalues value hvalue
    exact (standard_apply (plain_of_mem_split htoken hraw)).1
  · rw [hfield, Unicode.lowercase_lowercase]
  · intro value hvalue
    obtain ⟨raw, hraw, rfl⟩ := hvalues value hvalue
    exact (standard_apply (plain_of_mem_split htoken hraw)).2

/-- Expressions that can be written are read back, every one of them and nothing else; and what the
standard compiler reads from a filter, if anything, can be written. -/
theorem readsAs_rendered (placeholder : String)
    (hplaceholder : ∀ operator : Operator, operator.keyword ≠ placeholder) :
    (∀ c : Compiler, c.PlainWords placeholder → ∀ expressions : List Expression,
      expressions ≠ [] → (∀ e ∈ expressions, c.Writable e) →
        c.ReadsAs (c.render placeholder expressions) expressions) ∧
    (standard.Plain placeholder → ∀ filter, standard.expressions filter ≠ [] →
      standard.ReadsAs (standard.render placeholder (standard.expressions filter))
        (standard.expressions filter)) := by
  constructor
  · intro c hwords expressions hne h
    exact readsAs_render hplaceholder hwords hne h
  · intro hplain filter hne
    exact readsAs_render hplaceholder (plainWords_standard hplain) hne fun e he =>
      writable_of_mem_expressions he

/-- A choice whose values would join comparisons after an operator, beside joined comparisons; and a
filter with a token that is dropped, empty texts and a text that is substituted. -/
theorem readsAs_rendered_ambiguous :
    let c : Compiler := ⟨'.', ':', by decide, .empty, true⟩
    let expressions : List Expression :=
      [.multiple "x" ["10", "and", "lte", "12"], .joined "x" ⟨.gte, "10"⟩ .and ⟨.lte, ""⟩,
        .simple "" .lt "a_b;c"]
    let filter := "Hat_eq_Suit and Tie;oops;_in_Bow and Arrow__b"
    (∀ operator : Operator, operator.keyword ≠ "any") ∧ c.PlainWords "any" ∧ expressions ≠ [] ∧
      (∀ e ∈ expressions, c.Writable e) ∧ standard.Plain "any" ∧
      standard.expressions filter ≠ [] ∧
      c.ReadsAs (c.render "any" expressions) expressions ∧
      standard.ReadsAs (standard.render "any" (standard.expressions filter))
        (standard.expressions filter) := by
  intro c expressions filter
  have hplaceholder : ∀ operator : Operator, operator.keyword ≠ "any" := by
    intro operator
    cases operator <;> decide
  have hwords : c.PlainWords "any" :=
    ⟨fun operator => by cases operator <;> decide, fun join => by cases join <;> decide, by decide⟩
  have hne : expressions ≠ [] := List.cons_ne_nil _ _
  have hwritable : ∀ e ∈ expressions, c.Writable e := by decide +kernel
  have hplain : standard.Plain "any" := by decide
  have hread : standard.expressions filter ≠ [] := by decide +kernel
  obtain ⟨hany, hstandard⟩ := readsAs_rendered "any" hplaceholder
  exact ⟨hplaceholder, hwords, hne, hwritable, hplain, hread,
    hany c hwords expressions hne hwritable, hstandard hplain filter hread⟩

end Compiler
end Filter
end DocumentCatalog
