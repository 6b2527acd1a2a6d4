import DocumentCatalog.Proofs.Query.Missing
import DocumentCatalog.Proofs.Query.Reading

/-!
Exchanging a value inside a predicate. What a predicate selects stays the same when the value means
the same as the other one at its place: as an operand of a test, as a condition under a key, or as
one of the predicates of a list.
-/

namespace DocumentCatalog
namespace Query

/-- A test looks at the list that it stands in for the flags of a pattern alone. -/
theorem holds_congr_tests {tests others : Entries Json}
    (h : patternFlags (Entries.get? tests "$options") =
      patternFlags (Entries.get? others "$options"))
    (test : Test) (value : Option Json) (operand : Json) :
    test.holds tests value operand = test.holds others value operand := by
  cases value with
  | none => cases test <;> rfl
  | some value => cases test <;> simp only [Test.holds, h]

section Member

variable {x y : Json} (before after : Entries Json) (key : String)

theorem patternFlags_get?_congr (h : patternFlags (some x) = patternFlags (some y)) :
    patternFlags (Entries.get? (before ++ (key, x) :: after) "$options") =
      patternFlags (Entries.get? (before ++ (key, y) :: after) "$options") := by
  rw [Entries.get?_append, Entries.get?_append, Entries.get?_cons, Entries.get?_cons]
  cases Entries.get? before "$options" with
  | some _ => rfl
  | none => by_cases hkey : key = "$options" <;> simp [hkey, h]

theorem listsTests_member :
    listsTests (before ++ (key, x) :: after) = listsTests (before ++ (key, y) :: after) := by
  cases before <;> simp [listsTests]

/-- A condition with another operand of one of its tests, or another value to be equal to. -/
theorem meets_member_congr (value : Option Json)
    (hflags : patternFlags (some x) = patternFlags (some y))
    (htest : listsTests (before ++ (key, x) :: after) = true → ∀ tests,
      (Test.ofKey key).holds tests value x = (Test.ofKey key).holds tests value y)
    (hequal : listsTests (before ++ (key, x) :: after) = false → ∀ v,
      equalOrContains v (.object (before ++ (key, x) :: after)) =
        equalOrContains v (.object (before ++ (key, y) :: after))) :
    meets value (.object (before ++ (key, x) :: after)) =
      meets value (.object (before ++ (key, y) :: after)) := by
  have htests := holds_congr_tests (patternFlags_get?_congr before after key hflags)
  have hsame : listsTests (before ++ (key, y) :: after) = listsTests (before ++ (key, x) :: after) :=
    listsTests_member before after key
  rw [meets_object, meets_object, hsame]
  cases hlists : listsTests (before ++ (key, x) :: after) with
  | true => simp only [if_true, htests, List.all_append, List.all_cons, htest hlists]
  | false =>
      cases value with
      | none => rfl
      | some v => exact hequal hlists v

end Member

variable (document : Json)

theorem selectsEntry_object_congr {members others : Entries Json}
    (h : ∀ value, meets value (.object members) = meets value (.object others)) (key : String) :
    selectsEntry document key (.object members) = selectsEntry document key (.object others) := by
  by_cases hcombining : key = Filter.andKey ∨ key = Filter.orKey
  · simp [selectsEntry, hcombining]
  · simp [selectsEntry, hcombining, h]

/-- Whether two values are the same to a document among the predicates of a list. -/
def SameInList (x y : Json) : Prop :=
  selectsEach document [x] = selectsEach document [y] ∧
    selectsSome document [x] = selectsSome document [y]

theorem selectsEach_append_cons (before : List Json) (item : Json) (after : List Json) :
    selectsEach document (before ++ item :: after) =
      (selectsEach document before && (selectsEach document [item] && selectsEach document after)) := by
  induction before with
  | nil => cases item <;> simp [selectsEach]
  | cons first rest ih => cases first <;> simp [selectsEach, ih, Bool.and_assoc]

theorem selectsSome_append_cons (before : List Json) (item : Json) (after : List Json) :
    selectsSome document (before ++ item :: after) =
      (selectsSome document before || (selectsSome document [item] || selectsSome document after)) := by
  induction before with
  | nil => cases item <;> simp [selectsSome]
  | cons first rest ih => cases first <;> simp [selectsSome, ih, Bool.or_assoc]

theorem selectsEntry_item_congr {x y : Json} (before after : List Json) {key : String}
    (hlist : key = Filter.andKey ∨ key = Filter.orKey → SameInList document x y)
    (hmeets : ¬ (key = Filter.andKey ∨ key = Filter.orKey) → ∀ value,
      meets value (.array (before ++ x :: after)) = meets value (.array (before ++ y :: after))) :
    selectsEntry document key (.array (before ++ x :: after)) =
      selectsEntry document key (.array (before ++ y :: after)) := by
  by_cases hand : key = Filter.andKey
  · obtain ⟨heach, -⟩ := hlist (.inl hand)
    rw [hand, selectsEntry_and, selectsEntry_and, selectsEach_append_cons, selectsEach_append_cons,
      heach]
  · by_cases hor : key = Filter.orKey
    · obtain ⟨-, hsome⟩ := hlist (.inr hor)
      rw [hor, selectsEntry_or, selectsEntry_or, selectsSome_append_cons, selectsSome_append_cons,
        hsome]
    · rw [selectsEntry_field _ _ hand hor, selectsEntry_field _ _ hand hor,
        hmeets (not_or.mpr ⟨hand, hor⟩)]

theorem sameInList_object {members others : Entries Json}
    (h : selects document members = selects document others) :
    SameInList document (.object members) (.object others) := by
  simp [SameInList, selectsEach, selectsSome, h]

theorem selects_member_congr {x y : Json} (before after : Entries Json) (key : String)
    (h : selectsEntry document key x = selectsEntry document key y) :
    selects document (before ++ (key, x) :: after) =
      selects document (before ++ (key, y) :: after) := by
  simp only [selects_append, selects, h]

theorem fieldConditions_append (conditions more : Entries Json) :
    fieldConditions (conditions ++ more) = fieldConditions conditions ++ fieldConditions more := by
  induction conditions with
  | nil => rfl
  | cons entry rest ih => simp only [List.cons_append, fieldConditions, ih, List.append_assoc]

theorem fieldConditionsEach_append_cons (before : List Json) (item : Json) (after : List Json) :
    fieldConditionsEach (before ++ item :: after) =
      fieldConditionsEach before ++ (fieldConditionsEach [item] ++ fieldConditionsEach after) := by
  induction before with
  | nil => cases item <;> simp [fieldConditionsEach]
  | cons first rest ih => cases first <;> simp [fieldConditionsEach, ih]

end Query
end DocumentCatalog
