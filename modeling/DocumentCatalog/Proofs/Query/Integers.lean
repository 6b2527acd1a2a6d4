import DocumentCatalog.Proofs.Filter.Meaning
import DocumentCatalog.Proofs.Number.Rounding

/-!
Integers in documents and in conditions. Conditions and sorting compare them by their nearest
binary numbers, which is the order of the integers unless two different ones share the nearest
number; those count as equal.
-/

namespace DocumentCatalog

/-- The integers that numbers of documents keep exactly. -/
abbrev Json.Whole : Type :=
  { i : Int // -0x8000000000000000 ≤ i ∧ i < 0x10000000000000000 }

def Json.whole (i : Json.Whole) : Json :=
  .number (.integer i.1 i.2)

/-- Whether two integers stand to each other as the operator says. -/
def Filter.Operator.Orders : Filter.Operator → Int → Int → Prop
  | .eq, i, j => i = j
  | .lt, i, j => i < j
  | .lte, i, j => i ≤ j
  | .gt, i, j => j < i
  | .gte, i, j => j ≤ i

theorem Json.Whole.natAbs_le (i : Json.Whole) : i.1.natAbs ≤ 2 ^ 64 := by
  obtain ⟨i, hlow, hhigh⟩ := i
  simp only
  omega

namespace Query

open Binary64 (Separates)
open DocumentCatalog.Filter (IsPath Operator)
open Json (Whole whole)

theorem relates_ofInt {x y : Whole} (h : Separates x.1 y.1) (op : Operator) :
    op.Relates (.ofInt x.1) (.ofInt y.1) ↔ op.Orders x.1 y.1 := by
  have heq := Binary64.position_ofInt_eq_iff x.natAbs_le y.natAbs_le h
  have hlt := Binary64.position_ofInt_lt_iff x.natAbs_le y.natAbs_le h
  cases op with
  | eq => exact heq
  | lt => exact hlt
  | lte | gt | gte => simp only [Operator.Relates, Operator.Orders]; omega

theorem relates_self (x : Binary64) (i : Int) (op : Operator) :
    op.Relates x x ↔ op.Orders i i := by
  cases op <;> simp [Operator.Relates, Operator.Orders]

theorem equalOrContains_whole (x y : Whole) :
    equalOrContains (whole x) (whole y) = true ↔
      Operator.eq.Relates (.ofInt x.1) (.ofInt y.1) := by
  simp [equalOrContains, whole, equal_number, Json.Number.toBinary64]

theorem compares_whole (op : Operator) (x y : Whole) :
    compares op (whole x) (whole y) = true ↔ op.Relates (.ofInt x.1) (.ofInt y.1) := by
  by_cases hop : op = .eq
  · rw [hop]
    exact equalOrContains_whole x y
  · simp [whole, compares_number op _ _ hop, Json.Number.toBinary64]

theorem meets_among (value : Option Json) (candidates : List Json) :
    meets value (.object [("$in", .array candidates)]) =
      value.any fun v => candidates.any (equalOrContains v ·) := by
  have hlists : listsTests [("$in", .array candidates)] = true := by
    simp [listsTests, isTestKey]
  have hamong : Test.ofKey "$in" = .among := by decide
  rw [meets_object, if_pos hlists]
  cases value <;> simp [hamong, Test.holds, isAmong]

section At

variable {document : Json} {field : String} {x : Whole}
  (hx : lookup? document field = some (whole x))

include hx

theorem selects_operator_whole (hpath : IsPath field) (op : Operator) (y : Whole) :
    (Filter.Predicate.equals field (.object [(op.storeKey, whole y)])).selects document = true ↔
      op.Relates (.ofInt x.1) (.ofInt y.1) := by
  rw [Filter.Predicate.selects_equals, selectsEntry_field _ _ hpath.1 hpath.2, hx, meets_operator]
  exact compares_whole op x y

theorem selects_literal_whole (hpath : IsPath field) (y : Whole) :
    (Filter.Predicate.equals field (whole y)).selects document = true ↔
      Operator.eq.Relates (.ofInt x.1) (.ofInt y.1) := by
  rw [Filter.Predicate.selects_equals, selectsEntry_field _ _ hpath.1 hpath.2, hx,
    meets_value _ _ rfl]
  simp [← equalOrContains_iff, equalOrContains_whole]

theorem selects_among_whole (hpath : IsPath field) (ys : List Whole) :
    (Filter.Predicate.equals field (.object [("$in", .array (ys.map whole))])).selects document =
        true ↔
      ∃ y ∈ ys, Operator.eq.Relates (.ofInt x.1) (.ofInt y.1) := by
  rw [Filter.Predicate.selects_equals, selectsEntry_field _ _ hpath.1 hpath.2, hx, meets_among,
    Option.any_some, List.any_eq_true]
  constructor
  · rintro ⟨_, hmem, hequal⟩
    obtain ⟨y, hy, rfl⟩ := List.mem_map.mp hmem
    exact ⟨y, hy, (equalOrContains_whole x y).mp hequal⟩
  · rintro ⟨y, hy, hrelates⟩
    exact ⟨_, List.mem_map_of_mem hy, (equalOrContains_whole x y).mpr hrelates⟩

theorem compareAt_whole {other : Json} {y : Whole} (hy : lookup? other field = some (whole y)) :
    compareAt field document other = (Binary64.ofInt x.1).compareTotal (.ofInt y.1) := by
  rw [compareAt, hx, hy]
  rfl

end At

/-- A document's integer in conditions and in sorting: it compares as an integer with those that do
not share its nearest number, and with the others as with itself. No two integers of at most 53 bits
share it. -/
theorem selects_integers (document : Json) (field : String) (x : Whole)
    (hx : lookup? document field = some (whole x)) :
    (∀ y : Whole, Separates x.1 y.1 →
      (IsPath field →
        (∀ op : Operator, (Filter.Predicate.equals field
          (.object [(op.storeKey, whole y)])).selects document = true ↔ op.Orders x.1 y.1) ∧
        ((Filter.Predicate.equals field (whole y)).selects document = true ↔ x = y)) ∧
      ∀ other, lookup? other field = some (whole y) →
        compareAt field document other = compare x.1 y.1) ∧
    (∀ ys : List Whole, (∀ y ∈ ys, Separates x.1 y.1) → IsPath field →
      ((Filter.Predicate.equals field (.object [("$in", .array (ys.map whole))])).selects document =
        true ↔ x ∈ ys)) ∧
    (∀ y : Whole, Binary64.ofInt x.1 = .ofInt y.1 →
      (IsPath field →
        (∀ op : Operator, (Filter.Predicate.equals field
          (.object [(op.storeKey, whole y)])).selects document = true ↔ op.Orders x.1 x.1) ∧
        (Filter.Predicate.equals field (whole y)).selects document = true ∧
        ∀ ys : List Whole, y ∈ ys → (Filter.Predicate.equals field
          (.object [("$in", .array (ys.map whole))])).selects document = true) ∧
      ∀ other, lookup? other field = some (whole y) → compareAt field document other = .eq) ∧
    ∀ y : Whole, x.1.natAbs ≤ 2 ^ 53 → y.1.natAbs ≤ 2 ^ 53 → Separates x.1 y.1 := by
  have hequal : ∀ {y : Whole}, Separates x.1 y.1 →
      (Operator.eq.Relates (.ofInt x.1) (.ofInt y.1) ↔ x = y) := by
    intro y hy
    rw [relates_ofInt hy, Subtype.ext_iff]
    rfl
  refine ⟨?_, ?_, ?_, fun _ => Binary64.separates_of_le⟩
  · intro y hy
    refine ⟨fun hpath => ⟨fun op => ?_, ?_⟩, fun other hother => ?_⟩
    · rw [selects_operator_whole hx hpath, relates_ofInt hy]
    · rw [selects_literal_whole hx hpath, hequal hy]
    · rw [compareAt_whole hx hother, Binary64.compareTotal_ofInt x.natAbs_le y.natAbs_le hy]
  · intro ys hys hpath
    rw [selects_among_whole hx hpath]
    constructor
    · rintro ⟨y, hy, hrelates⟩
      rwa [(hequal (hys y hy)).mp hrelates]
    · intro hmem
      exact ⟨x, hmem, (hequal fun _ => rfl).mpr rfl⟩
  · intro y hy
    have hself : ∀ op : Operator, op.Relates (.ofInt x.1) (.ofInt y.1) ↔ op.Orders x.1 x.1 := by
      intro op
      rw [← hy]
      exact relates_self _ x.1 op
    refine ⟨fun hpath => ⟨fun op => ?_, ?_, fun ys hmem => ?_⟩, fun other hother => ?_⟩
    · rw [selects_operator_whole hx hpath, hself]
    · exact (selects_literal_whole hx hpath y).mpr ((hself .eq).mpr rfl)
    · exact (selects_among_whole hx hpath ys).mpr ⟨y, hmem, (hself .eq).mpr rfl⟩
    · rw [compareAt_whole hx hother, ← hy,
        Binary64.compareTotal_ofInt x.natAbs_le x.natAbs_le fun _ => rfl]
      exact Std.ReflCmp.compare_self

/-- The greatest integers that the format tells apart, and two that it does not. -/
theorem selects_integers_greatest :
    let integer : ∀ i : Int, (-0x8000000000000000 ≤ i ∧ i < 0x10000000000000000) → Whole :=
      fun i h => ⟨i, h⟩
    let x := integer 0xFFFFFFFFFFFFF800 (by decide)
    let y := integer 0xFFFFFFFFFFFFF000 (by decide)
    let z := integer 0xFFFFFFFFFFFFF801 (by decide)
    let document := fun i : Whole => Json.object [("tokenid", whole i)]
    (lookup? (document x) "tokenid" = some (whole x) ∧ IsPath "tokenid" ∧
      Separates x.1 y.1 ∧ Binary64.ofInt x.1 = .ofInt z.1) ∧
    ((Filter.Predicate.equals "tokenid" (.object [("$gt", whole y)])).selects (document x) = true ∧
      compareAt "tokenid" (document x) (document y) = .gt ∧
      (Filter.Predicate.equals "tokenid" (whole z)).selects (document x) = true) := by
  intro integer x y z document
  have hx : lookup? (document x) "tokenid" = some (whole x) := rfl
  have hpath : IsPath "tokenid" := ⟨by decide, by decide⟩
  have hapart : Separates x.1 y.1 := by
    intro h
    exact absurd h (by decide +kernel)
  have hgt : y.1 < x.1 := by decide
  have hshared : Binary64.ofInt x.1 = .ofInt z.1 := by decide +kernel
  obtain ⟨hseparate, -, hsame, -⟩ := selects_integers (document x) "tokenid" x hx
  exact ⟨⟨hx, hpath, hapart, hshared⟩, (((hseparate y hapart).1 hpath).1 .gt).mpr hgt,
    (hseparate y hapart).2 (document y) rfl, ((hsame z hshared).1 hpath).2.1⟩

/-- The first integer of 54 bits that is odd is taken for the one below it. -/
theorem not_selects_integer_iff :
    ¬ ∀ (document : Json) (field : String) (x y : Whole), IsPath field →
      lookup? document field = some (whole x) →
        ((Filter.Predicate.equals field (whole y)).selects document = true ↔ x = y) := by
  intro h
  have hfalse := h (.object [("tokenid", whole ⟨9007199254740993, by decide⟩)]) "tokenid"
    ⟨9007199254740993, by decide⟩ ⟨9007199254740992, by decide⟩ ⟨by decide, by decide⟩ rfl
  exact absurd (hfalse.mp (by decide +kernel)) (by decide)

end Query
end DocumentCatalog
