import DocumentCatalog.Proofs.Entries
import DocumentCatalog.Proofs.Filter.Token

/-!
Compiling as a list of writes. An expression writes at most one condition, under its field or under
the key of its join; the alternatives of the last choice are written after all others. The compiled
predicate is what these writes leave.
-/

namespace DocumentCatalog
namespace Filter

/-- The condition that asks for a number on one side of another. -/
def numberCondition (operator : Operator) (x : Binary64) : Json :=
  .object [(operator.storeKey, .number (.decimal x))]

namespace Expression

/-- What an expression writes. What cannot be read as a number writes nothing, and neither does a
choice. -/
def write? : Expression → Option (String × Json)
  | .simple field .eq value => some (field, equalityValue value)
  | .simple field operator value =>
      (Decimal.read? value).map fun x => (field, numberCondition operator x)
  | .multiple _ _ => none
  | .joined field first join second => do
      let x ← Decimal.read? first.value
      let y ← Decimal.read? second.value
      some (join.storeKey,
        .array [.object [(field, numberCondition first.operator x)],
          .object [(field, numberCondition second.operator y)]])

/-- The predicates of a choice, one for each value. -/
def alternatives? : Expression → Option (List Json)
  | .multiple field values =>
      some (values.map fun value => .object [(field, equalityValue value)])
  | _ => none

end Expression

/-- The alternatives of the last choice. -/
def lastAlternatives? (expressions : List Expression) : Option (List Json) :=
  (expressions.filterMap Expression.alternatives?).getLast?

/-- All writes of a filter in their order. -/
def writes (expressions : List Expression) : Entries Json :=
  expressions.filterMap Expression.write? ++
    (lastAlternatives? expressions).toList.map fun alternatives => (orKey, .array alternatives)

/-- What is written last under a key: the alternatives if it is theirs, else a condition. -/
theorem get?_reverse_writes (expressions : List Expression) (key : String) :
    Entries.get? (writes expressions).reverse key =
      (if orKey = key then (lastAlternatives? expressions).map .array else none).or
        (Entries.get? (expressions.filterMap Expression.write?).reverse key) := by
  rw [writes, List.reverse_append, Entries.get?_append]
  congr 1
  cases lastAlternatives? expressions with
  | none => simp [Entries.get?_nil]
  | some alternatives => simp [Entries.get?_singleton]

theorem comparison_eq (field : String) (clause : Clause) :
    comparison field clause =
      match Decimal.read? clause.value with
      | some x => .ok (Predicate.compare field clause.operator x)
      | none => .error (.invalidNumber field clause.value) := by
  unfold comparison comparisonValue
  cases Decimal.read? clause.value <;> rfl

namespace Draft

theorem entries_push (d : Draft) (e : Expression) :
    (d.push e).predicate.entries = Entries.merge d.predicate.entries e.write?.toList := by
  cases e with
  | simple field operator value =>
      cases operator with
      | eq => rfl
      | lt | lte | gt | gte =>
          simp only [push, comparison_eq, Expression.write?]
          cases Decimal.read? value <;> rfl
  | multiple field values => rfl
  | joined field first join second =>
      simp only [push, pushJoined, comparison_eq, Expression.write?]
      cases Decimal.read? first.value <;> cases Decimal.read? second.value <;> rfl

theorem alternatives_push (d : Draft) (e : Expression) :
    (d.push e).alternatives = e.alternatives?.getD d.alternatives := by
  cases e with
  | simple field operator value =>
      cases operator with
      | eq => rfl
      | lt | lte | gt | gte =>
          simp only [push]
          split <;> rfl
  | multiple field values => rfl
  | joined field first join second =>
      simp only [push, pushJoined]
      split <;> rfl

theorem entries_foldl_push (d : Draft) (expressions : List Expression) :
    (expressions.foldl push d).predicate.entries =
      Entries.merge d.predicate.entries (expressions.filterMap Expression.write?) := by
  induction expressions generalizing d with
  | nil => rfl
  | cons e rest ih =>
      rw [List.foldl_cons, ih, entries_push, ← Entries.merge_append]
      cases hw : e.write? <;> simp [hw]

theorem alternatives_foldl_push (d : Draft) (expressions : List Expression) :
    (expressions.foldl push d).alternatives =
      (lastAlternatives? expressions).getD d.alternatives := by
  induction expressions generalizing d with
  | nil => rfl
  | cons e rest ih =>
      rw [List.foldl_cons, ih, alternatives_push]
      unfold lastAlternatives?
      cases ha : e.alternatives? with
      | none => simp [ha]
      | some alternatives =>
          rw [List.filterMap_cons_some ha, List.getLast?_cons]
          simp

theorem entries_finish (d : Draft) :
    d.finish.entries =
      Entries.merge d.predicate.entries
        (if d.alternatives = [] then [] else [(orKey, .array d.alternatives)]) := by
  unfold finish
  cases h : d.alternatives <;> simp [Predicate.insert] <;> rfl

end Draft

namespace Compiler

variable {c : Compiler} {filter : String}

theorem lastAlternatives?_ne_nil : lastAlternatives? (c.expressions filter) ≠ some [] := by
  intro h
  obtain ⟨e, he, halternatives⟩ := List.mem_filterMap.mp (List.mem_of_getLast? h)
  cases e with
  | multiple field values =>
      have hlength := two_le_values he
      have hnil : values = [] := List.map_eq_nil_iff.mp (Option.some.inj halternatives)
      simp [hnil] at hlength
  | simple _ _ _ | joined _ _ _ _ => cases halternatives

/-- The compiled predicate is what its writes leave. -/
theorem entries_compile (c : Compiler) (filter : String) :
    (c.compile filter).entries = Entries.merge [] (writes (c.expressions filter)) := by
  change ((c.expressions filter).foldl Draft.push .empty).finish.entries = _
  rw [Draft.entries_finish, Draft.entries_foldl_push, Draft.alternatives_foldl_push, writes,
    Entries.merge_append]
  cases hlast : lastAlternatives? (c.expressions filter) with
  | none => rfl
  | some alternatives =>
      have hne : alternatives ≠ [] := fun h => lastAlternatives?_ne_nil (h ▸ hlast)
      rw [Option.getD_some, if_neg hne]
      rfl

theorem get?_compile_writes (c : Compiler) (filter key : String) :
    (c.compile filter).get? key = Entries.get? (writes (c.expressions filter)).reverse key := by
  rw [Predicate.get?, entries_compile, Entries.get?_merge, Entries.get?_nil, Option.or_none]

end Compiler
end Filter
end DocumentCatalog
