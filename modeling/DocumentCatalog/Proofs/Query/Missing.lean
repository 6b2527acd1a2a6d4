import DocumentCatalog.Proofs.Query.Condition
import DocumentCatalog.Proofs.Query.Selection

/-!
Conditions on fields that a document does not have. Such a condition fails whatever it asks for;
only the options of a pattern, which are no test of their own, succeed without a value when they
stand alone, and then it is as if the condition were not there.
-/

namespace DocumentCatalog
namespace Query

/-- Whether a condition lists options of a pattern and nothing else. -/
def isOptionsAlone : Json → Bool
  | .object members => !members.isEmpty && members.all (·.1 == "$options")
  | _ => false

theorem ofKey_eq_options_iff (key : String) : Test.ofKey key = .options ↔ key = "$options" := by
  by_cases hkey : key = "$options"
  · subst hkey
    decide
  · simp only [Test.ofKey, hkey, if_false, iff_false]
    repeat' split
    all_goals simp

theorem holds_none (key : String) (tests : Entries Json) (operand : Json) :
    (Test.ofKey key).holds tests none operand = (key == "$options") := by
  have hkey := ofKey_eq_options_iff key
  cases htest : Test.ofKey key with
  | options => simp [Test.holds, hkey.mp htest]
  | comparison _ | among | pattern | unknown =>
      have hne : key ≠ "$options" := by simp [← hkey, htest]
      simp [Test.holds, hne]

theorem meets_none (condition : Json) : meets none condition = isOptionsAlone condition := by
  cases condition with
  | null | bool _ | number _ | string _ | array _ => rfl
  | object members =>
      have hkeys : members.all (·.1 == "$options") = true →
          members.all (isTestKey ·.1) = true := by
        simp only [List.all_eq_true, beq_iff_eq]
        intro h member hmember
        rw [h member hmember]
        decide
      rw [meets_object, isOptionsAlone]
      by_cases hlists : listsTests members = true
      · simp only [if_pos hlists, holds_none]
        simp [(Bool.and_eq_true_iff.mp hlists).1]
      · have hoptions : ¬ (!members.isEmpty && members.all (·.1 == "$options")) = true := by
          simp only [listsTests, Bool.and_eq_true] at hlists ⊢
          exact fun h => hlists ⟨h.1, hkeys h.2⟩
        rw [if_neg hlists]
        exact (Bool.eq_false_iff.mpr hoptions).symm

theorem selects_append (document : Json) (conditions more : Entries Json) :
    selects document (conditions ++ more) =
      (selects document conditions && selects document more) := by
  induction conditions with
  | nil => rfl
  | cons entry rest ih => simp only [List.cons_append, selects, ih, Bool.and_assoc]

theorem selectsEntry_missing {document : Json} {key : String} (hand : key ≠ Filter.andKey)
    (hor : key ≠ Filter.orKey) (hmissing : lookup? document key = none) (condition : Json) :
    selectsEntry document key condition = isOptionsAlone condition := by
  rw [selectsEntry_field document condition hand hor, hmissing, meets_none]

/-- A document without a field is selected by no conditions of which one is on that field, whatever
it asks for, unless that one lists nothing but options; the others decide then. -/
theorem selects_missing (document : Json) {key : String} (hand : key ≠ Filter.andKey)
    (hor : key ≠ Filter.orKey) (hmissing : lookup? document key = none) :
    (∀ conditions condition, (key, condition) ∈ conditions → isOptionsAlone condition = false →
      selects document conditions = false) ∧
    ∀ before after condition, isOptionsAlone condition = true →
      selects document (before ++ (key, condition) :: after) =
        selects document (before ++ after) := by
  have hentry := selectsEntry_missing hand hor hmissing
  constructor
  · intro conditions condition hmem hoptions
    apply Bool.eq_false_iff.mpr
    intro hselects
    have hmeets := (selects_iff document conditions).mp hselects _ hmem
    rw [hentry, hoptions] at hmeets
    cases hmeets
  · intro before after condition hoptions
    simp only [selects_append, selects, hentry, hoptions, Bool.true_and]

/-- A pattern on a path that ends at a number, and options without a pattern. -/
theorem selects_missing_path :
    let document : Json := .object [("traits", .number (.decimal (.ofInt 3)))]
    let options : String × Json := ("$options", .string "i")
    let conditions : Entries Json :=
      [("traits.hat", .object [("$regex", .string "a"), options])]
    ("traits.hat" ≠ Filter.andKey ∧ "traits.hat" ≠ Filter.orKey ∧
      lookup? document "traits.hat" = none) ∧
    selects document conditions = false ∧
      selects document ([] ++ ("traits.hat", .object [options]) :: conditions) =
        selects document ([] ++ conditions) := by
  intro document options conditions
  have hkeys : "traits.hat" ≠ Filter.andKey ∧ "traits.hat" ≠ Filter.orKey := by decide
  have hmissing : lookup? document "traits.hat" = none := rfl
  obtain ⟨hfails, hignored⟩ := selects_missing document hkeys.1 hkeys.2 hmissing
  exact ⟨⟨hkeys.1, hkeys.2, hmissing⟩, hfails conditions _ List.mem_cons_self (by decide),
    hignored [] conditions _ (by decide)⟩

/-- Options alone are met by a document without the field. -/
theorem not_missing_never_selects :
    ¬ ∀ (document : Json) (key : String), key ≠ Filter.andKey → key ≠ Filter.orKey →
      lookup? document key = none → ∀ conditions condition, (key, condition) ∈ conditions →
        selects document conditions = false := by
  intro h
  have hfalse := h (.object []) "x" (by decide) (by decide) rfl
    [("x", .object [("$options", .string "i")])] _ List.mem_cons_self
  exact absurd hfalse (by decide +kernel)

end Query
end DocumentCatalog
