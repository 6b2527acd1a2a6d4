import DocumentCatalog.Proofs.Entries
import DocumentCatalog.Query.Condition

/-!
What the conditions that a filter can write ask of a value. A text or truth value asks for itself,
a comparison asks for a number on the right side of its operand, and equality is also satisfied
inside an array.
-/

namespace DocumentCatalog

/-- Whether two numbers stand to each other as the operator says, as points of the number line. -/
def Filter.Operator.Relates : Filter.Operator → Binary64 → Binary64 → Prop
  | .eq, x, y => x.position = y.position
  | .lt, x, y => x.position < y.position
  | .lte, x, y => x.position ≤ y.position
  | .gt, x, y => y.position < x.position
  | .gte, x, y => y.position ≤ x.position

namespace Query

open DocumentCatalog.Filter (Operator)

/-- A value has a property, or it is an array with an element that has it. -/
def Shows (property : Json → Prop) (value : Json) : Prop :=
  property value ∨ ∃ items, value = .array items ∧ ∃ item ∈ items, property item

theorem equalOrContains_iff (value expected : Json) :
    equalOrContains value expected = true ↔ Shows (equal · expected = true) value := by
  cases value <;> simp [equalOrContains, Shows]

theorem equal_string (value : Json) (s : String) :
    equal value (.string s) = true ↔ value = .string s := by
  cases value <;> simp [equal, Json.same]

theorem equal_bool (value : Json) (b : Bool) :
    equal value (.bool b) = true ↔ value = .bool b := by
  cases value <;> simp [equal, Json.same]

theorem equal_number (value : Json) (y : Json.Number) :
    equal value (.number y) = true ↔
      ∃ x, value = .number x ∧ Operator.eq.Relates x.toBinary64 y.toBinary64 := by
  cases value <;>
    simp [equal, Json.same, Json.Number.sameValue, Binary64.sameValue, Operator.Relates]

/-- The comparisons of order hold of numbers alone, arrays of numbers not included. -/
theorem compares_number (op : Operator) (value : Json) (y : Json.Number) (h : op ≠ .eq) :
    compares op value (.number y) = true ↔
      ∃ x, value = .number x ∧ op.Relates x.toBinary64 y.toBinary64 := by
  cases value with
  | number x =>
      cases op with
      | eq => exact absurd rfl h
      | lt | lte | gt | gte =>
          simp [compares, compare?, Json.Number.compareValue, Binary64.compareValue,
            Operator.Relates, Std.isLE_compare, Std.isGE_compare, Ordering.isLT_iff_eq_lt,
            Ordering.isGT_iff_eq_gt, Int.compare_eq_lt, Int.compare_eq_gt]
  | null | bool _ | string _ | array _ | object _ =>
      cases op with
      | eq => exact absurd rfl h
      | lt | lte | gt | gte => simp [compares, compare?]

theorem compares_eq_number (value : Json) (y : Json.Number) :
    compares .eq value (.number y) = true ↔
      Shows (fun v => ∃ x, v = .number x ∧ Operator.eq.Relates x.toBinary64 y.toBinary64) value := by
  simp only [compares, equalOrContains_iff, equal_number]

theorem ofKey_storeKey (op : Operator) : Test.ofKey op.storeKey = .comparison op := by
  cases op <;> decide

theorem isTestKey_storeKey (op : Operator) : isTestKey op.storeKey = true := by
  cases op <;> decide

/-- Whether an object is a list of tests. -/
def listsTests (members : Entries Json) : Bool :=
  !members.isEmpty && members.all (isTestKey ·.1)

theorem tests?_object (members : Entries Json) :
    tests? (.object members) = if listsTests members then some members else none :=
  rfl

theorem meets_object (value : Option Json) (members : Entries Json) :
    meets value (.object members) =
      if listsTests members then
        members.all fun test => (Test.ofKey test.1).holds members value test.2
      else value.any (equalOrContains · (.object members)) := by
  rw [meets, tests?_object]
  cases listsTests members <;> rfl

/-- A condition with one operator is read as that operator again. -/
theorem meets_operator (value : Option Json) (op : Operator) (operand : Json) :
    meets value (.object [(op.storeKey, operand)]) = value.any (compares op · operand) := by
  have hlists : listsTests [(op.storeKey, operand)] = true := by
    simp [listsTests, isTestKey_storeKey]
  rw [meets_object, if_pos hlists]
  cases value <;> simp [ofKey_storeKey, Test.holds]

/-- The options of a pattern are modes of its reading and ask for nothing themselves. -/
theorem meets_pattern (value : Option Json) (pattern options : String) :
    meets value (.object [("$regex", .string pattern), ("$options", .string options)]) =
      value.any
        (matchesPattern (patternFlags (some (.string options))) · (.string pattern)) := by
  have hlists : listsTests [("$regex", .string pattern), ("$options", .string options)] = true := by
    simp [listsTests, isTestKey]
  have hregex : Test.ofKey "$regex" = .pattern := by decide
  have hoptions : Test.ofKey "$options" = .options := by decide
  rw [meets_object, if_pos hlists]
  cases value <;> simp [hregex, hoptions, Test.holds, Entries.get?_cons]

/-- What is no object is a value to be equal to. -/
theorem meets_value (value : Option Json) (expected : Json) (h : tests? expected = none) :
    meets value expected = true ↔
      ∃ v, value = some v ∧ Shows (equal · expected = true) v := by
  unfold meets
  rw [h]
  cases value <;> simp [equalOrContains_iff]

end Query
end DocumentCatalog
