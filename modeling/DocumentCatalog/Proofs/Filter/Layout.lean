import DocumentCatalog.Proofs.Filter.Writes

/-!
How a compiled predicate is laid out. Its keys stand where they were first written and its values
are the ones that were written last, whether a key was written as a field, for a join, or for the
alternatives of a choice.
-/

namespace DocumentCatalog
namespace Filter

theorem lastAlternatives?_of_last {before after : List Expression} {field : String}
    {values : List String} (hlast : ∀ other choices, .multiple other choices ∉ after) :
    lastAlternatives? (before ++ .multiple field values :: after) =
      some (values.map fun value => .object [(field, equalityValue value)]) := by
  have hafter : after.filterMap Expression.alternatives? = [] := by
    rw [List.filterMap_eq_nil_iff]
    intro e he
    cases e with
    | multiple other choices => exact absurd he (hlast other choices)
    | simple _ _ _ | joined _ _ _ _ => rfl
  have hchoice : (Expression.multiple field values).alternatives? =
      some (values.map fun value => .object [(field, equalityValue value)]) := rfl
  rw [lastAlternatives?, List.filterMap_append, List.filterMap_cons_some hchoice, hafter,
    List.getLast?_concat]

namespace Compiler

variable (c : Compiler) (filter : String)

theorem get?_compile_eq_some_iff (key : String) (value : Json) :
    (c.compile filter).get? key = some value ↔
      ∃ before after, writes (c.expressions filter) = before ++ (key, value) :: after ∧
        key ∉ Entries.keys after := by
  rw [get?_compile_writes]
  exact Entries.get?_reverse_eq_some_iff _ key value

theorem get?_orKey_of_last {before after : List Expression} {field : String} {values : List String}
    (hexpressions : c.expressions filter = before ++ .multiple field values :: after)
    (hlast : ∀ other choices, .multiple other choices ∉ after) :
    (c.compile filter).get? orKey =
      some (.array (values.map fun value => .object [(field, equalityValue value)])) := by
  rw [get?_compile_eq_some_iff]
  refine ⟨(c.expressions filter).filterMap Expression.write?, [], ?_, List.not_mem_nil⟩
  rw [writes, hexpressions, lastAlternatives?_of_last hlast]
  rfl

/-- The keys of a compiled predicate are those of its writes in the order of their first use, without
repetition, and under each of them stands what was written last. A choice has two alternatives or
more, and the last choice leaves nothing of those before it. -/
theorem compile_layout :
    (c.compile filter).keys = (Entries.keys (writes (c.expressions filter))).eraseDups ∧
    (∀ key value, (c.compile filter).get? key = some value ↔
      ∃ before after, writes (c.expressions filter) = before ++ (key, value) :: after ∧
        key ∉ Entries.keys after) ∧
    (∀ before field values after,
      c.expressions filter = before ++ .multiple field values :: after →
        2 ≤ values.length ∧
        ((∀ other choices, .multiple other choices ∉ after) →
          (c.compile filter).get? orKey =
            some (.array (values.map fun value => .object [(field, equalityValue value)])))) ∧
    ∀ e ∈ c.expressions filter, ∃ token ∈ c.tokens filter, c.classify token = .ok e ∧
      ∃ name, (c.parts token).head? = some name ∧ e.field = Unicode.lowercase name := by
  refine ⟨?_, get?_compile_eq_some_iff c filter, ?_, ?_⟩
  · rw [Predicate.keys, entries_compile, Entries.keys_merge_nil]
  · intro before field values after hexpressions
    have hmem : .multiple field values ∈ c.expressions filter := by
      rw [hexpressions]
      exact List.mem_append_right before List.mem_cons_self
    exact ⟨two_le_values hmem, get?_orKey_of_last c filter hexpressions⟩
  · intro e he
    obtain ⟨token, htoken, hclass⟩ := mem_expressions_iff.mp he
    exact ⟨token, htoken, hclass, (of_classify hclass).2.1⟩

/-- The second of two choices lands on a key that a field of that name has written first and a join
after it. -/
theorem compile_layout_overwritten :
    let c : Compiler := { standard with joined := true }
    let filter :=
      "b_eq_1;$OR_eq_x;hat_eq_Red_Blue;a_gt_2_and_lt_9;B_lt_5;a_gt_1_or_lt_0;hat_eq_Green_White_Grey"
    (c.compile filter).keys = ["b", orKey, andKey] ∧
      (c.compile filter).get? orKey =
        some (.array [.object [("hat", .string "Green")], .object [("hat", .string "White")],
          .object [("hat", .string "Grey")]]) := by
  intro c filter
  obtain ⟨hkeys, -, hchoice, -⟩ := compile_layout c filter
  have hexpressions : c.expressions filter =
      (c.expressions filter).take 6 ++ .multiple "hat" ["Green", "White", "Grey"] :: [] := by
    decide +kernel
  refine ⟨hkeys.trans (by decide +kernel), ?_⟩
  exact (hchoice _ _ _ _ hexpressions).2 fun _ _ => List.not_mem_nil

end Compiler
end Filter
end DocumentCatalog
