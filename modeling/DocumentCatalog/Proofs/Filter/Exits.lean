import DocumentCatalog.Filter.Compiler
import DocumentCatalog.Proofs.Number.Datum

/-!
Building a predicate with every check written out. A text is read as any value of the number
format, a truth value is read from its word, and each of these can fail. Two of the ways out are
silent or unexpected, a number that no document holds and a truth value that cannot be read; neither
is ever taken, and the building is the plain one.
-/

namespace DocumentCatalog
namespace Filter

/-- A comparison with a value of the number format, if documents can hold that. -/
def Predicate.compare? (field : String) (operator : Operator) (value : Binary64.Datum) :
    Option Predicate :=
  value.finite?.map (Predicate.compare field operator)

def truth? (value : String) : Option Bool :=
  if value = "true" then some true
  else if value = "false" then some false
  else none

/-- The value of an equality, where the words of the truth values have to be read. -/
def checkedEquality (field value : String) : Except Diagnostic Json :=
  if value = "true" ∨ value = "false" then
    match truth? value with
    | some b => .ok (.bool b)
    | none => .error (.invalidBoolean field value)
  else .ok (.string value)

/-- The number of a comparison, among all values that a text can spell. -/
def checkedNumber (field value : String) : Except Diagnostic Binary64.Datum :=
  match (Decimal.readDatum? value).filter (·.finite?.isSome) with
  | some number => .ok number
  | none => .error (.invalidNumber field value)

namespace Draft

def report (d : Draft) (reason : Diagnostic) : Draft :=
  { d with dropped := d.dropped ++ [reason] }

def tryEquality (d : Draft) (field value : String) : Option Json × Draft :=
  match checkedEquality field value with
  | .ok condition => (some condition, d)
  | .error reason => (none, d.report reason)

def tryComparison (d : Draft) (field : String) (clause : Clause) : Option Predicate × Draft :=
  match checkedNumber field clause.value with
  -- where there is no comparison with the number, nothing is reported
  | .ok number => (Predicate.compare? field clause.operator number, d)
  | .error reason => (none, d.report reason)

def alternativesOf (d : Draft) (field : String) : List String → List Json × Draft
  | [] => ([], d)
  | value :: values =>
      match d.tryEquality field value with
      | (some condition, d) =>
          let (alternatives, d) := d.alternativesOf field values
          ((Predicate.equals field condition).toJson :: alternatives, d)
      | (none, d) => d.alternativesOf field values

/-- Writes an expression into the draft as `push` does, through the checks. -/
def pushChecked (d : Draft) : Expression → Draft
  | .simple field .eq value =>
      match d.tryEquality field value with
      | (some condition, d) => { d with predicate := d.predicate.insert field condition }
      | (none, d) => d
  | .simple field operator value =>
      match d.tryComparison field ⟨operator, value⟩ with
      | (some p, d) => { d with predicate := d.predicate.merge p }
      | (none, d) => d
  | .multiple field values =>
      let (alternatives, d) := d.alternativesOf field values
      { d with alternatives := alternatives }
  | .joined field first join second =>
      let (first, d) := d.tryComparison field first
      let (second, d) := d.tryComparison field second
      match first, second with
      | some first, some second =>
          { d with
            predicate := d.predicate.insert join.storeKey
              (.array [first.toJson, second.toJson]) }
      | _, _ => d

end Draft

theorem checkedEquality_eq (field value : String) :
    checkedEquality field value = .ok (equalityValue value) := by
  unfold checkedEquality equalityValue truth?
  by_cases htrue : value = "true"
  · simp [htrue]
  · by_cases hfalse : value = "false" <;> simp [htrue, hfalse]

theorem checkedNumber_eq (field value : String) :
    checkedNumber field value = (comparisonValue field value).map .finite := by
  unfold checkedNumber comparisonValue
  rw [Decimal.read?_eq]
  cases Decimal.readDatum? value with
  | none => rfl
  | some number => cases number <;> rfl

/-- Whatever number is read, documents hold it. -/
theorem isSome_compare?_of_checkedNumber {field value : String} {number : Binary64.Datum}
    (h : checkedNumber field value = .ok number) (operator : Operator) :
    (Predicate.compare? field operator number).isSome = true := by
  rw [checkedNumber_eq] at h
  cases hread : comparisonValue field value with
  | error reason =>
      rw [hread] at h
      cases h
  | ok x =>
      rw [hread] at h
      cases h
      rfl

namespace Draft

variable (d : Draft) (field : String)

theorem tryEquality_eq (value : String) :
    d.tryEquality field value = (some (equalityValue value), d) := by
  rw [tryEquality, checkedEquality_eq]

theorem tryComparison_eq (clause : Clause) :
    d.tryComparison field clause =
      match comparison field clause with
      | .ok p => (some p, d)
      | .error reason => (none, d.report reason) := by
  rw [tryComparison, comparison, checkedNumber_eq]
  cases comparisonValue field clause.value <;> rfl

theorem alternativesOf_eq (values : List String) :
    d.alternativesOf field values =
      (values.map fun value => (Predicate.equals field (equalityValue value)).toJson, d) := by
  induction values with
  | nil => rfl
  | cons value values ih => simp only [alternativesOf, tryEquality_eq, ih, List.map_cons]

/-- The checks change nothing: every way out that they add is never taken. -/
theorem pushChecked_eq (e : Expression) : d.pushChecked e = d.push e := by
  cases e with
  | simple field operator value =>
      cases operator with
      | eq => simp only [pushChecked, push, tryEquality_eq]
      | lt | lte | gt | gte =>
          simp only [pushChecked, push, tryComparison_eq]
          cases comparison field _ <;> rfl
  | multiple field values => simp only [pushChecked, push, alternativesOf_eq]
  | joined field first join second =>
      simp only [pushChecked, push, pushJoined, tryComparison_eq]
      cases comparison field first <;> cases comparison field second <;>
        simp [report, Compiler.failure?]

end Draft
end Filter
end DocumentCatalog
