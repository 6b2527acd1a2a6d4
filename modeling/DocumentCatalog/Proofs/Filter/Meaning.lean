import DocumentCatalog.Proofs.Filter.Writes
import DocumentCatalog.Proofs.Query.Condition
import DocumentCatalog.Proofs.Query.Selection

/-!
What a filter asks of a document, said of its expressions and not of the predicate that they
compile to. Of several expressions that concern the same thing only the last effective one counts,
and a choice takes the place of every alternative that is joined with `or`.
-/

namespace DocumentCatalog
namespace Filter

/-- Whether the value found at a field is the value that a text stands for, or an array holding
it. -/
def FieldEquals (document : Json) (field value : String) : Prop :=
  ∃ v, Query.lookup? document field = some v ∧ Query.Shows (· = equalityValue value) v

def IsNumber (operator : Operator) (y : Binary64) (v : Json) : Prop :=
  ∃ x, v = .number x ∧ operator.Relates x.toBinary64 y

/-- Whether the value found at a field compares with a number. Equality is satisfied inside an array
too, the other comparisons are not. -/
def FieldCompares (document : Json) (field : String) (operator : Operator) (y : Binary64) : Prop :=
  ∃ v, Query.lookup? document field = some v ∧
    match operator with
    | .eq => Query.Shows (IsNumber .eq y) v
    | operator => IsNumber operator y v

namespace Clause

def effective (clause : Clause) : Bool :=
  (Decimal.read? clause.value).isSome

def Holds (document : Json) (field : String) (clause : Clause) : Prop :=
  ∃ y, Decimal.read? clause.value = some y ∧ FieldCompares document field clause.operator y

end Clause

namespace Expression

/-- Whether everything that has to be a number is a finite one. -/
def effective : Expression → Bool
  | .simple _ .eq _ => true
  | .simple _ operator value => Clause.effective ⟨operator, value⟩
  | .multiple _ _ => true
  | .joined _ first _ second => first.effective && second.effective

def Holds (document : Json) : Expression → Prop
  | .simple field .eq value => FieldEquals document field value
  | .simple field operator value => Clause.Holds document field ⟨operator, value⟩
  | .multiple field values => ∃ value ∈ values, FieldEquals document field value
  | .joined field first .and second => first.Holds document field ∧ second.Holds document field
  | .joined field first .or second => first.Holds document field ∨ second.Holds document field

def isSimpleOn (field : String) : Expression → Bool
  | .simple other _ _ => other == field
  | _ => false

def isMultiple : Expression → Bool
  | .multiple _ _ => true
  | _ => false

def isJoinedBy (join : Join) : Expression → Bool
  | .joined _ _ other _ => other == join
  | _ => false

end Expression

/-- A key that is a path into documents, and none of the two combining ones. -/
def IsPath (key : String) : Prop :=
  key ≠ andKey ∧ key ≠ orKey

def last? (test : Expression → Bool) (expressions : List Expression) : Option Expression :=
  (expressions.filter test).getLast?

/-- What a filter with these expressions asks of a document. -/
structure Demands (document : Json) (expressions : List Expression) : Prop where
  simple : ∀ field, ∀ e ∈ last? (fun e => e.isSimpleOn field && e.effective) expressions,
    e.Holds document
  both : ∀ e ∈ last? (fun e => e.isJoinedBy .and && e.effective) expressions, e.Holds document
  either : match last? Expression.isMultiple expressions with
    | some e => e.Holds document
    | none => ∀ e ∈ last? (fun e => e.isJoinedBy .or && e.effective) expressions, e.Holds document

theorem equal_equalityValue (v : Json) (value : String) :
    Query.equal v (equalityValue value) = true ↔ v = equalityValue value := by
  unfold equalityValue
  split
  · exact Query.equal_bool v true
  · split
    · exact Query.equal_bool v false
    · exact Query.equal_string v value

theorem tests?_equalityValue (value : String) : Query.tests? (equalityValue value) = none := by
  unfold equalityValue
  split
  · rfl
  · split <;> rfl

variable (document : Json) {field : String}

theorem selectsEntry_equality (hpath : IsPath field) (value : String) :
    Query.selectsEntry document field (equalityValue value) = true ↔
      FieldEquals document field value := by
  rw [Query.selectsEntry_field document _ hpath.1 hpath.2,
    Query.meets_value _ _ (tests?_equalityValue value)]
  simp only [equal_equalityValue, FieldEquals]

theorem selectsEntry_number (hpath : IsPath field) (operator : Operator) (y : Binary64) :
    Query.selectsEntry document field (numberCondition operator y) = true ↔
      FieldCompares document field operator y := by
  rw [Query.selectsEntry_field document _ hpath.1 hpath.2, numberCondition, Query.meets_operator]
  unfold FieldCompares
  cases hv : Query.lookup? document field with
  | none => simp
  | some v =>
      simp only [Option.any_some, Option.some.injEq, exists_eq_left']
      cases operator with
      | eq => exact Query.compares_eq_number v (.decimal y)
      | lt | lte | gt | gte => exact Query.compares_number _ v (.decimal y) (by decide)

theorem selectsEntry_clause (hpath : IsPath field) {clause : Clause} {y : Binary64}
    (hy : Decimal.read? clause.value = some y) :
    Query.selectsEntry document field (numberCondition clause.operator y) = true ↔
      clause.Holds document field := by
  rw [selectsEntry_number document hpath]
  simp [Clause.Holds, hy]

theorem selects_single (condition : Json) :
    Query.selects document [(field, condition)] = Query.selectsEntry document field condition := by
  simp [Query.selects]

theorem selectsEntry_write {e : Expression} (hpath : IsPath e.field) {key : String}
    {condition : Json} (h : e.write? = some (key, condition)) :
    Query.selectsEntry document key condition = true ↔ e.Holds document := by
  cases e with
  | simple field operator value =>
      have hfield : IsPath field := hpath
      cases operator with
      | eq =>
          cases h
          exact selectsEntry_equality document hfield value
      | lt | lte | gt | gte =>
          obtain ⟨y, hy, hwrite⟩ := Option.map_eq_some_iff.mp h
          cases hwrite
          rw [selectsEntry_number document hfield]
          simp [Expression.Holds, Clause.Holds, hy]
  | multiple field values => cases h
  | joined field first join second =>
      have hfield : IsPath field := hpath
      simp only [Expression.write?, Option.bind_eq_bind, Option.bind_eq_some_iff] at h
      obtain ⟨x, hx, y, hy, hwrite⟩ := h
      cases hwrite
      have hfirst := selectsEntry_clause document hfield hx
      have hsecond := selectsEntry_clause document hfield hy
      cases join with
      | and =>
          rw [show Join.and.storeKey = andKey from rfl, Query.selectsEntry_and,
            Query.selectsEach_iff]
          simp [Expression.Holds, selects_single, hfirst, hsecond]
      | or =>
          rw [show Join.or.storeKey = orKey from rfl, Query.selectsEntry_or, Query.selectsSome_iff]
          simp [Expression.Holds, selects_single, hfirst, hsecond, or_and_right, exists_or]

theorem selectsEntry_alternatives {e : Expression} (hpath : IsPath e.field)
    {alternatives : List Json} (h : e.alternatives? = some alternatives) :
    Query.selectsEntry document orKey (.array alternatives) = true ↔ e.Holds document := by
  cases e with
  | multiple field values =>
      have hequality := selectsEntry_equality document hpath
      cases h
      rw [Query.selectsEntry_or, Query.selectsSome_iff]
      constructor
      · rintro ⟨conditions, hmem, hselects⟩
        obtain ⟨value, hvalue, heq⟩ := List.mem_map.mp hmem
        cases heq
        rw [selects_single] at hselects
        exact ⟨value, hvalue, (hequality value).mp hselects⟩
      · rintro ⟨value, hvalue, hequals⟩
        refine ⟨[(field, equalityValue value)], List.mem_map.mpr ⟨value, hvalue, rfl⟩, ?_⟩
        rw [selects_single]
        exact (hequality value).mpr hequals
  | simple _ _ _ | joined _ _ _ _ => cases h

/-- The writes under a path come from the effective comparisons of that field. -/
theorem write?_under_path {key : String} (hpath : IsPath key) (e : Expression) :
    e.write?.any (·.1 == key) = (e.isSimpleOn key && e.effective) := by
  cases e with
  | simple field operator value =>
      cases operator with
      | eq => simp [Expression.write?, Expression.isSimpleOn, Expression.effective]
      | lt | lte | gt | gte =>
          cases hy : Decimal.read? value <;>
            simp [Expression.write?, Expression.isSimpleOn, Expression.effective, Clause.effective,
              hy]
  | multiple field values => rfl
  | joined field first join second =>
      have hand : (Join.and.storeKey == key) = false := beq_eq_false_iff_ne.mpr (Ne.symm hpath.1)
      have hor : (Join.or.storeKey == key) = false := beq_eq_false_iff_ne.mpr (Ne.symm hpath.2)
      cases join <;> cases hx : Decimal.read? first.value <;>
        cases hy : Decimal.read? second.value <;>
        simp [Expression.write?, Expression.isSimpleOn, hx, hy, hand, hor]

theorem write?_under_join (join : Join) {e : Expression} (hpath : IsPath e.field) :
    e.write?.any (·.1 == join.storeKey) = (e.isJoinedBy join && e.effective) := by
  have hne : ∀ key, IsPath key → (key == join.storeKey) = false := by
    intro key hkey
    cases join with
    | and => exact beq_eq_false_iff_ne.mpr hkey.1
    | or => exact beq_eq_false_iff_ne.mpr hkey.2
  cases e with
  | simple field operator value =>
      have hfield := hne field hpath
      cases operator with
      | eq => simp [Expression.write?, Expression.isJoinedBy, hfield]
      | lt | lte | gt | gte =>
          cases hy : Decimal.read? value <;>
            simp [Expression.write?, Expression.isJoinedBy, hy, hfield]
  | multiple field values => rfl
  | joined field first other second =>
      have hkeys : (other.storeKey == join.storeKey) = (other == join) := by
        cases other <;> cases join <;> decide
      cases hx : Decimal.read? first.value <;> cases hy : Decimal.read? second.value <;>
        simp [Expression.write?, Expression.isJoinedBy, Expression.effective, Clause.effective, hx,
          hy, hkeys]

theorem mem_of_last? {test : Expression → Bool} {expressions : List Expression} {e : Expression}
    (h : e ∈ last? test expressions) : e ∈ expressions ∧ test e = true :=
  List.mem_filter.mp (List.mem_of_getLast? h)

theorem last?_congr {test test' : Expression → Bool} {expressions : List Expression}
    (h : ∀ e ∈ expressions, test e = test' e) : last? test expressions = last? test' expressions :=
  congrArg List.getLast? (List.filter_congr h)

theorem lastAlternatives?_eq (expressions : List Expression) :
    lastAlternatives? expressions =
      (last? Expression.isMultiple expressions).bind Expression.alternatives? := by
  unfold lastAlternatives? last?
  rw [List.getLast?_filterMap, List.getLast?_filter]
  -- the last one that has alternatives is the first one from the end
  induction expressions.reverse with
  | nil => rfl
  | cons e rest ih =>
      rw [List.findSome?_cons, List.find?_cons]
      cases e with
      | multiple field values => rfl
      | simple _ _ _ | joined _ _ _ _ => exact ih

/-- What the finished predicate holds under a key: under the key of alternatives those of the last
choice, else what the last expression that writes there has written. -/
theorem get?_compile (c : Compiler) (filter key : String) :
    (c.compile filter).get? key =
      (if orKey = key then (lastAlternatives? (c.expressions filter)).map .array else none).or
        ((last? (fun e => e.write?.any (·.1 == key)) (c.expressions filter)).bind
          fun e => e.write?.map (·.2)) := by
  rw [Compiler.get?_compile_writes, get?_reverse_writes, Entries.get?_reverse_filterMap]
  rfl

theorem last_write_iff {expressions : List Expression} {key : String}
    (hpaths : ∀ e ∈ expressions, IsPath e.field) {test : Expression → Bool}
    (htest : ∀ e ∈ expressions, e.write?.any (·.1 == key) = test e) :
    (∀ condition,
        ((last? (fun e => e.write?.any (·.1 == key)) expressions).bind
          fun e => e.write?.map (·.2)) = some condition →
        Query.selectsEntry document key condition = true) ↔
      ∀ e ∈ last? test expressions, e.Holds document := by
  rw [last?_congr htest]
  have hwrite : ∀ e ∈ last? test expressions, ∃ condition, e.write? = some (key, condition) := by
    intro e he
    obtain ⟨hmem, hholds⟩ := mem_of_last? he
    rw [← htest e hmem] at hholds
    cases hw : e.write? with
    | none => simp [hw] at hholds
    | some write =>
        have hkey : write.1 = key := by simpa [hw] using hholds
        exact ⟨write.2, by rw [← hkey]⟩
  constructor
  · intro h e he
    obtain ⟨condition, hw⟩ := hwrite e he
    have hpath := hpaths e (mem_of_last? he).1
    exact (selectsEntry_write document hpath hw).mp (h condition (by rw [he]; simp [hw]))
  · intro h condition hcondition
    obtain ⟨e, he, hsecond⟩ := Option.bind_eq_some_iff.mp hcondition
    obtain ⟨written, hw⟩ := hwrite e he
    have heq : written = condition := by simpa [hw] using hsecond
    subst heq
    exact (selectsEntry_write document (hpaths e (mem_of_last? he).1) hw).mpr (h e he)

section

variable {c : Compiler} {filter : String} (hpaths : ∀ e ∈ c.expressions filter, IsPath e.field)
include hpaths

theorem path_condition_iff {key : String} (hkey : IsPath key) :
    (∀ condition, (c.compile filter).get? key = some condition →
        Query.selectsEntry document key condition = true) ↔
      ∀ e ∈ last? (fun e => e.isSimpleOn key && e.effective) (c.expressions filter),
        e.Holds document := by
  rw [get?_compile, if_neg (Ne.symm hkey.2)]
  exact last_write_iff document hpaths fun e _ => write?_under_path hkey e

theorem and_condition_iff :
    (∀ condition, (c.compile filter).get? andKey = some condition →
        Query.selectsEntry document andKey condition = true) ↔
      ∀ e ∈ last? (fun e => e.isJoinedBy .and && e.effective) (c.expressions filter),
        e.Holds document := by
  rw [get?_compile, if_neg (by decide)]
  exact last_write_iff document hpaths fun e he => write?_under_join .and (hpaths e he)

/-- A choice is written over what was joined with `or`, so the latter counts only without any. -/
theorem or_condition_iff :
    (∀ condition, (c.compile filter).get? orKey = some condition →
        Query.selectsEntry document orKey condition = true) ↔
      match last? Expression.isMultiple (c.expressions filter) with
      | some e => e.Holds document
      | none => ∀ e ∈ last? (fun e => e.isJoinedBy .or && e.effective) (c.expressions filter),
          e.Holds document := by
  rw [get?_compile, if_pos rfl, lastAlternatives?_eq]
  cases hlast : last? Expression.isMultiple (c.expressions filter) with
  | none => exact last_write_iff document hpaths fun e he => write?_under_join .or (hpaths e he)
  | some e =>
      obtain ⟨hmem, hmultiple⟩ := mem_of_last? hlast
      cases e with
      | multiple field values =>
          have hchoice := selectsEntry_alternatives document
            (hpaths (.multiple field values) hmem) rfl
          constructor
          · intro h
            exact hchoice.mp (h _ rfl)
          · intro h condition hcondition
            cases hcondition
            exact hchoice.mpr h
      | simple _ _ _ | joined _ _ _ _ => cases hmultiple

end

theorem field_of_isSimpleOn {e : Expression} (h : e.isSimpleOn field = true) : e.field = field := by
  cases e with
  | simple other operator value => exact eq_of_beq h
  | multiple _ _ | joined _ _ _ _ => cases h

/-- A compiled filter selects the documents that meet what its expressions ask for. -/
theorem selects_compile_iff (c : Compiler) (filter : String) (document : Json)
    (hpaths : ∀ e ∈ c.expressions filter, e.field ≠ andKey ∧ e.field ≠ orKey) :
    (c.compile filter).selects document = true ↔ Demands document (c.expressions filter) := by
  rw [Predicate.selects_iff_get?]
  constructor
  · intro h
    refine ⟨?_, (and_condition_iff document hpaths).mp (h andKey),
      (or_condition_iff document hpaths).mp (h orKey)⟩
    intro field e he
    have htest := (mem_of_last? he).2
    have hfield : e.field = field := field_of_isSimpleOn (Bool.and_eq_true_iff.mp htest).1
    have hpath : IsPath field := hfield ▸ hpaths e (mem_of_last? he).1
    exact (path_condition_iff document hpaths hpath).mp (h field) e he
  · intro h key
    -- every other key is a path, and of these only the last comparison is left
    by_cases hand : key = andKey
    · subst hand
      exact (and_condition_iff document hpaths).mpr h.both
    · by_cases hor : key = orKey
      · subst hor
        exact (or_condition_iff document hpaths).mpr h.either
      · exact (path_condition_iff document hpaths ⟨hand, hor⟩).mpr (h.simple key)

/-- The last number for `x` that can be read counts, and the last choice replaces both the first one
and the joined comparison. -/
theorem selects_compile_iff_replaced :
    let c : Compiler := { Compiler.standard with joined := true }
    let filter := "x_lt_1;x_gt_2;y_gt_8_or_lt_3;Hat_eq_Red_Blue;x_lt_many;hat_eq_Green_White"
    let document : Json :=
      .object [("hat", .array [.string "Green"]), ("x", .number (.integer 3 (by decide)))]
    (∀ e ∈ c.expressions filter, e.field ≠ andKey ∧ e.field ≠ orKey) ∧
      (c.compile filter).selects document = true ∧ Demands document (c.expressions filter) := by
  intro c filter document
  have hpaths : ∀ e ∈ c.expressions filter, e.field ≠ andKey ∧ e.field ≠ orKey := by
    decide +kernel
  have hselects : (c.compile filter).selects document = true := by decide +kernel
  exact ⟨hpaths, hselects, (selects_compile_iff c filter document hpaths).mp hselects⟩

end Filter
end DocumentCatalog
