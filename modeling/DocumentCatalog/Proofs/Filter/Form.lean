import DocumentCatalog.Proofs.Filter.Meaning

/-!
The form of compiled predicates. A field has a truth value, a text or a comparison of order, and a
combining key has an array of predicates, unless a comparison names the combining key as its field
and is the last to write there.
-/

namespace DocumentCatalog
namespace Filter

/-- A truth value, a text, or a comparison of order with a finite number. -/
inductive IsFieldCondition : Json → Prop
  | bool (value : Bool) : IsFieldCondition (.bool value)
  | string (value : String) : IsFieldCondition (.string value)
  | order (operator : Operator) (x : Binary64) (h : operator.isComparison = true) :
      IsFieldCondition (numberCondition operator x)

/-- An array of at least two predicates of one key each. -/
inductive IsCombination : Json → Prop
  | array (items : List Json) (two : 2 ≤ items.length)
      (single : ∀ item ∈ items, ∃ key condition, item = .object [(key, condition)]) :
      IsCombination (.array items)

/-- Whether a condition is of the form that its key asks for. -/
def IsWellFormed (key : String) (condition : Json) : Prop :=
  (IsPath key → IsFieldCondition condition) ∧ (¬ IsPath key → IsCombination condition)

/-- Whether what the expressions leave under a key was written by a comparison of a field of that
name: no later expression writes there, and no choice does. -/
def LeavesComparison (expressions : List Expression) (key : String) : Prop :=
  (key = orKey → last? Expression.isMultiple expressions = none) ∧
    ∃ e ∈ last? (fun e => e.write?.any (·.1 == key)) expressions, e.isSimpleOn key = true

theorem isFieldCondition_equalityValue (value : String) :
    IsFieldCondition (equalityValue value) := by
  unfold equalityValue
  split
  · exact .bool true
  · split
    · exact .bool false
    · exact .string value

/-- The two combining keys are those of the joins. -/
theorem not_isPath_iff (key : String) : ¬ IsPath key ↔ ∃ join : Join, key = join.storeKey := by
  have hkeys : Join.and.storeKey = andKey ∧ Join.or.storeKey = orKey := ⟨rfl, rfl⟩
  constructor
  · intro h
    by_cases hand : key = andKey
    · exact ⟨.and, hand.trans hkeys.1.symm⟩
    · exact ⟨.or, (Decidable.not_not.mp fun hor => h ⟨hand, hor⟩).trans hkeys.2.symm⟩
  · rintro ⟨join, rfl⟩ hpath
    cases join with
    | and => exact hpath.1 rfl
    | or => exact hpath.2 rfl

theorem IsFieldCondition.not_isCombination {condition : Json} (h : IsFieldCondition condition) :
    ¬ IsCombination condition := by
  intro hcombination
  cases h <;> cases hcombination

/-- A comparison writes a condition of its field, and joined ones write a combination. -/
theorem write?_form {e : Expression} {key : String} {condition : Json}
    (h : e.write? = some (key, condition)) :
    (e.isSimpleOn key = true ∧ IsFieldCondition condition) ∨
      (e.isSimpleOn key = false ∧ IsCombination condition ∧ ¬ IsPath key) := by
  cases e with
  | simple field operator value =>
      cases operator with
      | eq =>
          cases h
          exact .inl ⟨beq_self_eq_true _, isFieldCondition_equalityValue value⟩
      | lt | lte | gt | gte =>
          obtain ⟨x, -, hwrite⟩ := Option.map_eq_some_iff.mp h
          cases hwrite
          exact .inl ⟨beq_self_eq_true _, .order _ x rfl⟩
  | multiple field values => cases h
  | joined field first join second =>
      simp only [Expression.write?, Option.bind_eq_bind, Option.bind_eq_some_iff] at h
      obtain ⟨x, -, y, -, hwrite⟩ := h
      cases hwrite
      refine .inr ⟨rfl, .array _ (by simp) ?_, (not_isPath_iff _).mpr ⟨join, rfl⟩⟩
      simp

theorem isCombination_alternatives {c : Compiler} {filter : String} {e : Expression}
    (he : e ∈ c.expressions filter) {alternatives : List Json}
    (h : e.alternatives? = some alternatives) : IsCombination (.array alternatives) := by
  cases e with
  | multiple field values =>
      cases h
      refine .array _ (by simpa using Compiler.two_le_values he) ?_
      intro item hitem
      obtain ⟨value, -, rfl⟩ := List.mem_map.mp hitem
      exact ⟨field, equalityValue value, rfl⟩
  | simple _ _ _ | joined _ _ _ _ => cases h

variable {c : Compiler} {filter key : String} {condition : Json}

/-- Under each key is what a comparison has left there, or a combination. -/
theorem get?_compile_cases (h : (c.compile filter).get? key = some condition) :
    (IsFieldCondition condition ∧ LeavesComparison (c.expressions filter) key) ∨
      (IsCombination condition ∧ ¬ IsPath key ∧
        ¬ LeavesComparison (c.expressions filter) key) := by
  rw [get?_compile, lastAlternatives?_eq] at h
  rcases Option.or_eq_some_iff.mp h with hchoice | ⟨hnone, hwritten⟩
  · -- a choice is written over everything else under its key
    obtain ⟨hkey, hchoice⟩ := Option.ite_none_right_eq_some.mp hchoice
    obtain ⟨alternatives, hlast, rfl⟩ := Option.map_eq_some_iff.mp hchoice
    obtain ⟨e, he, halternatives⟩ := Option.bind_eq_some_iff.mp hlast
    refine .inr ⟨isCombination_alternatives (mem_of_last? he).1 halternatives,
      fun hpath => hpath.2 hkey.symm, ?_⟩
    intro hleaves
    rw [hleaves.1 hkey.symm] at he
    cases he
  · obtain ⟨e, he, hvalue⟩ := Option.bind_eq_some_iff.mp hwritten
    obtain ⟨write, hwrite, rfl⟩ := Option.map_eq_some_iff.mp hvalue
    have hkey : write.1 = key := by simpa [hwrite] using (mem_of_last? he).2
    have hno_choice : key = orKey → last? Expression.isMultiple (c.expressions filter) = none := by
      intro hor
      rw [if_pos hor.symm, Option.map_eq_none_iff, Option.bind_eq_none_iff] at hnone
      rw [Option.eq_none_iff_forall_ne_some]
      intro multiple hmultiple
      have habsent := hnone multiple hmultiple
      have hshape := (mem_of_last? hmultiple).2
      cases multiple with
      | multiple field values => cases habsent
      | simple _ _ _ | joined _ _ _ _ => cases hshape
    subst hkey
    rcases write?_form hwrite with ⟨hsimple, hform⟩ | ⟨hsimple, hform, hpath⟩
    · exact .inl ⟨hform, hno_choice, e, he, hsimple⟩
    · refine .inr ⟨hform, hpath, ?_⟩
      rintro ⟨-, other, hother, hleft⟩
      rw [Option.mem_unique hother he, hsimple] at hleft
      cases hleft

/-- Every key of a compiled predicate holds a condition of its form, but for a combining key that a
comparison was the last to write under, which holds that comparison. So all of them are well formed
if no comparison names such a key. -/
theorem isWellFormed_compile_iff (c : Compiler) (filter : String) :
    (∀ entry ∈ (c.compile filter).entries,
      (IsWellFormed entry.1 entry.2 ↔
        (IsPath entry.1 ∨ ¬ LeavesComparison (c.expressions filter) entry.1)) ∧
      (IsFieldCondition entry.2 ∨ IsCombination entry.2)) ∧
    ((∀ e ∈ c.expressions filter, ∀ join : Join, e.isSimpleOn join.storeKey = false) →
      ∀ entry ∈ (c.compile filter).entries, IsWellFormed entry.1 entry.2) := by
  have hentries : ∀ entry ∈ (c.compile filter).entries,
      (IsFieldCondition entry.2 ∧ LeavesComparison (c.expressions filter) entry.1) ∨
        (IsCombination entry.2 ∧ ¬ IsPath entry.1 ∧
          ¬ LeavesComparison (c.expressions filter) entry.1) := by
    intro entry hentry
    exact get?_compile_cases ((Entries.mem_iff_get? (c.compile filter).distinct _ _).mp hentry)
  constructor
  · intro entry hentry
    rcases hentries entry hentry with ⟨hform, hleaves⟩ | ⟨hform, hpath, hleaves⟩
    · refine ⟨⟨fun hwell => .inl ?_, fun hkey => ?_⟩, .inl hform⟩
      · apply Classical.byContradiction
        intro hpath
        exact hform.not_isCombination (hwell.2 hpath)
      · have hpath := hkey.resolve_right fun hnot => hnot hleaves
        exact ⟨fun _ => hform, fun hreserved => absurd hpath hreserved⟩
    · refine ⟨⟨fun _ => .inr hleaves, fun _ => ?_⟩, .inr hform⟩
      exact ⟨fun hkey => absurd hkey hpath, fun _ => hform⟩
  · intro hfields entry hentry
    rcases hentries entry hentry with ⟨hform, -, e, he, hsimple⟩ | ⟨hform, hpath, -⟩
    · refine ⟨fun _ => hform, fun hreserved => ?_⟩
      obtain ⟨join, hjoin⟩ := (not_isPath_iff entry.1).mp hreserved
      have hother := hfields e (mem_of_last? he).1 join
      rw [← hjoin, hsimple] at hother
      cases hother
    · exact ⟨fun hkey => absurd hkey hpath, fun _ => hform⟩

/-- Joined comparisons and a choice under the combining keys, and a comparison under a field. -/
theorem isWellFormed_compile_iff_joined :
    let c : Compiler := { Compiler.standard with joined := true }
    let filter := "x_gte_1_and_lt_2;x_gt_many_or_lt_3;hat_eq_Red_Blue;x_lte_5"
    (∀ e ∈ c.expressions filter, ∀ join : Join, e.isSimpleOn join.storeKey = false) ∧
      (c.compile filter).keys = [andKey, "x", orKey] ∧
      ∀ entry ∈ (c.compile filter).entries, IsWellFormed entry.1 entry.2 := by
  intro c filter
  have hfields : ∀ e ∈ c.expressions filter, ∀ join : Join,
      e.isSimpleOn join.storeKey = false := by
    have hboth : ∀ e ∈ c.expressions filter, e.isSimpleOn Join.and.storeKey = false ∧
        e.isSimpleOn Join.or.storeKey = false := by decide +kernel
    intro e he join
    cases join with
    | and => exact (hboth e he).1
    | or => exact (hboth e he).2
  exact ⟨hfields, by decide +kernel, (isWellFormed_compile_iff c filter).2 hfields⟩

/-- A field can be named as a combining key, and then a text is stored there. -/
theorem not_isWellFormed_reserved_field :
    ¬ ∀ (c : Compiler) (filter : String), ∀ entry ∈ (c.compile filter).entries,
      IsWellFormed entry.1 entry.2 := by
  intro h
  have hentry : (andKey, Json.string "x") ∈ (Compiler.standard.compile "$and_eq_x").entries := by
    rw [Entries.mem_iff_get? (Compiler.standard.compile "$and_eq_x").distinct]
    rfl
  have hcombination := (h Compiler.standard "$and_eq_x" _ hentry).2 fun hpath => hpath.1 rfl
  cases hcombination

end Filter
end DocumentCatalog
