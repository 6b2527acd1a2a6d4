import DocumentCatalog.Proofs.Filter.Meaning
import DocumentCatalog.Proofs.Number.Exactness

/-!
The three ways to compare a value with another. The comparisons of order, equality and sorting agree
on two numbers and on two texts, except that sorting tells the zeros apart; of other values the
comparisons of order never hold.
-/

namespace DocumentCatalog

namespace Json.Number

open Binary64 (inUnits nearestOf signed)

/-- The exact value in units of the least positive number. -/
def exactUnits : Json.Number → Int
  | .integer i _ => signed (i < 0) (inUnits i.natAbs)
  | .decimal x => signed x.negative x.units

theorem exists_signed (x : Json.Number) : ∃ negative units,
    x.exactUnits = signed negative units ∧
      x.toBinary64.position = signed negative (nearestOf units 1) := by
  cases x with
  | integer i h =>
      obtain ⟨hsign, hmagnitude⟩ := Binary64.ofInt_eq (show i.natAbs ≤ 2 ^ 64 by omega)
      refine ⟨_, _, rfl, ?_⟩
      rw [toBinary64, Binary64.position, hsign, hmagnitude, Binary64.nearestMagnitude_units]
      rfl
  | decimal x =>
      refine ⟨_, _, rfl, ?_⟩
      rw [toBinary64, Binary64.units, Binary64.nearestOf_unitsOf]
      rfl

theorem position_le_of_exactUnits_le {x y : Json.Number} (h : x.exactUnits ≤ y.exactUnits) :
    x.toBinary64.position ≤ y.toBinary64.position := by
  obtain ⟨negative, units, hexact, hposition⟩ := x.exists_signed
  obtain ⟨negative', units', hexact', hposition'⟩ := y.exists_signed
  rw [hexact, hexact'] at h
  rw [hposition, hposition']
  -- whatever the spelling, a position is the exact value rounded, apart from its sign
  refine Binary64.signed_mono (f := (nearestOf · 1)) ?_ ?_ h
  · exact Binary64.nearestOf_unitsOf 0
  · exact Binary64.nearestOf_mono Nat.one_pos

end Json.Number

theorem Binary64.rank_lt_rank_iff (x y : Binary64) :
    x.rank < y.rank ↔ x.position < y.position ∨ x = zero true ∧ y = zero false := by
  obtain ⟨negative, magnitude, _⟩ := x
  obtain ⟨negative', magnitude', _⟩ := y
  cases negative <;> cases negative' <;> simp [rank, position, zero] <;> omega

/-- Whether a value that compares so with an operand is one that the operator asks for. -/
def Filter.Operator.Accepts : Filter.Operator → Ordering → Prop
  | .eq, o => o = .eq
  | .lt, o => o = .lt
  | .lte, o => o.isLE = true
  | .gt, o => o = .gt
  | .gte, o => o.isGE = true

namespace Query

open DocumentCatalog.Filter (IsPath Operator)

/-- Two numbers or two texts. -/
inductive SameKind : Json → Json → Prop
  | numbers (x y : Json.Number) : SameKind (.number x) (.number y)
  | texts (s t : String) : SameKind (.string s) (.string t)

/-- The order of operands, where integers stand at the nearest binary numbers. -/
inductive AtMost : Json → Json → Prop
  | numbers {x y : Json.Number} :
      x.toBinary64.position ≤ y.toBinary64.position → AtMost (.number x) (.number y)
  | texts {s t : String} : s ≤ t → AtMost (.string s) (.string t)

/-- Negative zero and zero, however they are spelled. -/
def ZerosApart (value operand : Json) : Prop :=
  ∃ x y, value = .number x ∧ operand = .number y ∧
    x.toBinary64 = .zero true ∧ y.toBinary64 = .zero false

theorem sameKind_iff (value operand : Json) :
    SameKind value operand ↔ ∃ o, compare? value operand = some o := by
  constructor
  · intro h
    cases h with
    | numbers x y => exact ⟨_, rfl⟩
    | texts s t => exact ⟨_, rfl⟩
  · intro h
    obtain ⟨o, h⟩ := h
    cases value with
    | number x =>
        cases operand with
        | number y => exact .numbers x y
        | null | bool _ | string _ | array _ | object _ => cases h
    | string s =>
        cases operand with
        | string t => exact .texts s t
        | null | bool _ | number _ | array _ | object _ => cases h
    | null | bool _ | array _ | object _ => cases h

theorem equalOrContains_of_sameKind {value operand : Json} (h : SameKind value operand) :
    equalOrContains value operand = true ↔ compare? value operand = some .eq := by
  cases h with
  | numbers x y =>
      simp [equalOrContains, equal_number, compare?, Operator.Relates, Json.Number.compareValue,
        Binary64.compareValue]
  | texts s t => simp [equalOrContains, equal_string, compare?]

theorem compares_iff_accepts {value operand : Json} {o : Ordering}
    (h : compare? value operand = some o) (op : Operator) :
    compares op value operand = true ↔ op.Accepts o := by
  cases op with
  | eq =>
      have hkind := (sameKind_iff value operand).mpr ⟨o, h⟩
      rw [compares, equalOrContains_of_sameKind hkind, h, Option.some.injEq, Operator.Accepts]
  | lt | gt =>
      simp [compares, h, Operator.Accepts, Ordering.isLT_iff_eq_lt, Ordering.isGT_iff_eq_gt]
  | lte | gte => simp [compares, h, Operator.Accepts]

theorem compares_of_compare?_eq_none {value operand : Json} (h : compare? value operand = none)
    {op : Operator} (hop : op ≠ .eq) : compares op value operand = false := by
  cases op with
  | eq => exact absurd rfl hop
  | lt | lte | gt | gte => simp [compares, h]

theorem isLE_compare_string {s t : String} (h : s ≤ t) : (compare s t).isLE = true :=
  (isLE_compareOfLessAndEq String.le_antisymm String.not_le String.le_total).mpr h

/-- Lowering the operand keeps what is above it, and raising it keeps what is below it. -/
theorem accepts_mono {α : Type} {cmp : α → α → Ordering} [Std.TransCmp cmp] {lower upper : α}
    (h : (cmp lower upper).isLE = true) (x : α) :
    (∀ op ∈ [Operator.gt, .gte], op.Accepts (cmp x upper) → op.Accepts (cmp x lower)) ∧
      ∀ op ∈ [Operator.lt, .lte], op.Accepts (cmp x lower) → op.Accepts (cmp x upper) := by
  have hge : (cmp upper lower).isGE = true := Std.OrientedCmp.isGE_iff_isLE.mpr h
  simp only [List.forall_mem_cons, List.not_mem_nil, false_implies, implies_true, and_true,
    Operator.Accepts]
  refine ⟨⟨?_, ?_⟩, ?_, ?_⟩
  · exact fun hgt => Std.TransCmp.gt_of_gt_of_isGE hgt hge
  · exact fun hle => Std.TransCmp.isGE_trans hle hge
  · exact fun hlt => Std.TransCmp.lt_of_lt_of_isLE hlt h
  · exact fun hle => Std.TransCmp.isLE_trans hle h

theorem compares_mono {value lower upper : Json} (hkind : SameKind value upper)
    (h : AtMost lower upper) :
    (∀ op ∈ [Operator.gt, .gte], compares op value upper = true → compares op value lower = true) ∧
      ∀ op ∈ [Operator.lt, .lte],
        compares op value lower = true → compares op value upper = true := by
  cases h with
  | numbers h =>
      cases hkind with
      | numbers x y =>
          have hcompare : ∀ z, compare? (.number x) (.number z) = some (x.compareValue z) :=
            fun _ => rfl
          simp only [compares_iff_accepts (hcompare _)]
          exact accepts_mono (Std.isLE_compare.mpr h) x.toBinary64.position
  | texts h =>
      cases hkind with
      | texts s t =>
          have hcompare : ∀ t, compare? (.string s) (.string t) = some (compare s t) :=
            fun _ => rfl
          simp only [compares_iff_accepts (hcompare _)]
          exact accepts_mono (isLE_compare_string h) s

theorem compareForSort_eq_lt_iff {value operand : Json} (h : SameKind value operand) :
    compareForSort (some value) (some operand) = .lt ↔
      compares .lt value operand = true ∨ ZerosApart value operand := by
  cases h with
  | numbers x y =>
      rw [compares_iff_accepts rfl]
      simp [compareForSort, Json.Number.compareTotal, Binary64.compareTotal, Operator.Accepts,
        Json.Number.compareValue, Binary64.compareValue, ZerosApart, Int.compare_eq_lt,
        Binary64.rank_lt_rank_iff]
  | texts s t =>
      rw [compares_iff_accepts rfl]
      simp [compareForSort, Operator.Accepts, ZerosApart]

/-- Whether a document meets a condition with one operator. -/
def Satisfies (document : Json) (field : String) (op : Operator) (operand : Json) : Prop :=
  (Filter.Predicate.equals field (.object [(op.storeKey, operand)])).selects document = true

/-- What the comparisons of a document's value with an operand say together. -/
structure Agreement (document : Json) (field : String) (value operand : Json) : Prop where
  one : ∃! op, op ∈ [Operator.lt, .eq, .gt] ∧ Satisfies document field op operand
  lte_iff : Satisfies document field .lte operand ↔
    Satisfies document field .lt operand ∨ Satisfies document field .eq operand
  gte_iff : Satisfies document field .gte operand ↔
    Satisfies document field .gt operand ∨ Satisfies document field .eq operand
  mono : ∀ lower, AtMost lower operand →
    (∀ op ∈ [Operator.gt, .gte],
      Satisfies document field op operand → Satisfies document field op lower) ∧
    ∀ op ∈ [Operator.lt, .lte],
      Satisfies document field op lower → Satisfies document field op operand
  before_iff : ∀ other, lookup? other field = some operand →
    (compareAt field document other = .lt ↔
      Satisfies document field .lt operand ∨ ZerosApart value operand)

section

variable {document : Json} {field : String} (hpath : IsPath field)

include hpath

theorem satisfies_iff (op : Operator) (operand : Json) :
    Satisfies document field op operand ↔
      (lookup? document field).any (compares op · operand) = true := by
  rw [Satisfies, Filter.Predicate.selects_equals, selectsEntry_field _ _ hpath.1 hpath.2,
    meets_operator]

theorem agreement {value operand : Json} (hvalue : lookup? document field = some value)
    (hkind : SameKind value operand) : Agreement document field value operand := by
  have hsatisfies : ∀ op other, Satisfies document field op other ↔
      compares op value other = true := by
    intro op other
    rw [satisfies_iff hpath, hvalue, Option.any_some]
  obtain ⟨o, ho⟩ := (sameKind_iff value operand).mp hkind
  have haccepts := fun op => (hsatisfies op operand).trans (compares_iff_accepts ho op)
  constructor
  · cases o with
    | lt => exact ⟨.lt, by simp [haccepts, Operator.Accepts]⟩
    | eq => exact ⟨.eq, by simp [haccepts, Operator.Accepts]⟩
    | gt => exact ⟨.gt, by simp [haccepts, Operator.Accepts]⟩
  · cases o <;> simp [haccepts, Operator.Accepts]
  · cases o <;> simp [haccepts, Operator.Accepts]
  · intro lower h
    simp only [hsatisfies]
    exact compares_mono hkind h
  · intro other hother
    rw [hsatisfies, compareAt, hvalue, hother]
    exact compareForSort_eq_lt_iff hkind

end

/-- On two numbers and on two texts the operators, equality and sorting agree, and the operators are
monotone in their operand; the exact values of numbers may be compared as well as those that they
stand at. Where the document has no value or one of another kind, no comparison of order holds. -/
theorem selects_comparisons (document : Json) {field : String} (hpath : IsPath field) :
    (∀ value operand, lookup? document field = some value → SameKind value operand →
      Agreement document field value operand) ∧
    (∀ operand, (∀ value, lookup? document field = some value → ¬ SameKind value operand) →
      ∀ op, op ≠ .eq → ¬ Satisfies document field op operand) ∧
    ∀ x y : Json.Number, x.exactUnits ≤ y.exactUnits → AtMost (.number x) (.number y) := by
  refine ⟨fun value operand => agreement hpath, ?_, fun x y h => .numbers ?_⟩
  · intro operand hkinds op hop
    rw [satisfies_iff hpath]
    cases hvalue : lookup? document field with
    | none => simp
    | some value =>
        have hnone : compare? value operand = none := by
          rw [Option.eq_none_iff_forall_ne_some]
          intro o ho
          exact hkinds value hvalue ((sameKind_iff value operand).mpr ⟨o, ho⟩)
        simp [compares_of_compare?_eq_none hnone hop]
  · exact Json.Number.position_le_of_exactUnits_le h

/-- Negative zero is level with the integer zero and yet sorted before it. -/
theorem selects_comparisons_zeros :
    let zero : Json := .number (.integer 0 (by decide))
    let negativeZero : Json := .number (.decimal (.zero true))
    let document := Json.object [("traits", .object [("score", negativeZero)])]
    let other := Json.object [("traits.score", zero)]
    (IsPath "traits.score" ∧ lookup? document "traits.score" = some negativeZero ∧
      SameKind negativeZero zero) ∧
    ¬ Satisfies document "traits.score" .lt zero ∧
      compareAt "traits.score" document other = .lt ∧
      ¬ Satisfies document "traits.score" .gte (.string "") := by
  intro zero negativeZero document other
  have hpath : IsPath "traits.score" := ⟨by decide, by decide⟩
  have hvalue : lookup? document "traits.score" = some negativeZero := rfl
  have hkind : SameKind negativeZero zero := .numbers _ _
  have hzeros : ZerosApart negativeZero zero := ⟨_, _, rfl, rfl, rfl, by decide +kernel⟩
  obtain ⟨hagree, hother, -⟩ := selects_comparisons document hpath
  have hagreement := hagree negativeZero zero hvalue hkind
  refine ⟨⟨hpath, hvalue, hkind⟩, ?_, (hagreement.before_iff other rfl).mpr (.inr hzeros), ?_⟩
  · have hlevel : Satisfies document "traits.score" .eq zero := by
      rw [Satisfies]
      decide +kernel
    intro hbelow
    obtain ⟨op, -, hunique⟩ := hagreement.one
    have heq := (hunique .lt ⟨by decide, hbelow⟩).trans (hunique .eq ⟨by decide, hlevel⟩).symm
    cases heq
  · refine hother (.string "") ?_ .gte (by decide)
    intro value h hkind
    rw [hvalue] at h
    cases h
    obtain ⟨o, ho⟩ := (sameKind_iff _ _).mp hkind
    cases ho

end Query
end DocumentCatalog
