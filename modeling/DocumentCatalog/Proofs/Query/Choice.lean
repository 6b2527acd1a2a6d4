import DocumentCatalog.Proofs.Filter.Dropping
import DocumentCatalog.Proofs.Query.Find
import DocumentCatalog.Proofs.Query.Integers

/-!
Asking for one of several values. One test that lists them, alternatives of which each tests for
one, and alternatives of which each is one of them select the same documents, so the choice that a
filter compiles to is the test that lists its values.
-/

namespace DocumentCatalog
namespace Query

open DocumentCatalog.Filter (IsPath Operator Predicate)

/-- Asks with a single test for a value that is equal to one of the candidates. -/
def among (field : String) (candidates : List Json) : Predicate :=
  .equals field (.object [("$in", .array candidates)])

/-- Asks for a value that is equal to the candidate, with a test whatever the candidate is. -/
def equalTo (field : String) (candidate : Json) : Predicate :=
  .equals field (.object [("$eq", candidate)])

/-- Asks for one of some predicates, also when there are less than two or empty ones. -/
def either (predicates : List Predicate) : Predicate :=
  .equals Filter.orKey (.array (predicates.map (·.toJson)))

/-- Whether a condition is read as a list of tests: an object with members, the key of each of which
starts with a dollar sign. -/
def IsTestList (condition : Json) : Prop :=
  ∃ members, condition = .object members ∧ members ≠ [] ∧
    ∀ member ∈ members, member.1.toList.head? = some '$'

theorem tests?_eq_none_iff (condition : Json) :
    tests? condition = none ↔ ¬ IsTestList condition := by
  cases condition with
  | null | bool _ | number _ | string _ | array _ => simp [tests?, IsTestList]
  | object members =>
      have hlists : IsTestList (.object members) ↔ listsTests members = true := by
        simp [listsTests, isTestKey, IsTestList]
      rw [tests?_object, hlists]
      cases listsTests members <;> simp

theorem selects_either (predicates : List Predicate) (document : Json) :
    (either predicates).selects document = predicates.any (·.selects document) := by
  rw [either, Predicate.selects_equals, selectsEntry_or]
  induction predicates with
  | nil => rfl
  | cons p rest ih =>
      rw [List.map_cons, List.any_cons, ← ih]
      rfl

section

variable {field : String} (hpath : IsPath field) (document : Json)

include hpath

theorem selects_among (candidates : List Json) :
    (among field candidates).selects document =
      (lookup? document field).any fun value => candidates.any (equalOrContains value ·) := by
  rw [among, Predicate.selects_equals, selectsEntry_field _ _ hpath.1 hpath.2, meets_among]

theorem selects_equalTo (candidate : Json) :
    (equalTo field candidate).selects document =
      (lookup? document field).any (equalOrContains · candidate) := by
  rw [equalTo, Predicate.selects_equals, selectsEntry_field _ _ hpath.1 hpath.2]
  exact meets_operator _ .eq candidate

/-- Only a list of tests is not asked for as it stands. -/
theorem selects_literal {candidate : Json} (h : ¬ IsTestList candidate) :
    (Predicate.equals field candidate).selects document =
      (equalTo field candidate).selects document := by
  rw [selects_equalTo hpath, Predicate.selects_equals, selectsEntry_field _ _ hpath.1 hpath.2,
    meets, (tests?_eq_none_iff candidate).mpr h]

theorem selects_among_eq_either (candidates : List Json) :
    (among field candidates).selects document =
      (either (candidates.map (equalTo field))).selects document := by
  rw [selects_among hpath, selects_either, List.any_map]
  cases hvalue : lookup? document field with
  | none => simp [Function.comp_def, selects_equalTo hpath, hvalue]
  | some value => simp [Function.comp_def, selects_equalTo hpath, hvalue]

end

theorem compile_multiple {c : Filter.Compiler} {filter field : String} {values : List String}
    (h : c.expressions filter = [.multiple field values]) :
    c.compile filter =
      either (values.map fun value => .equals field (Filter.equalityValue value)) := by
  apply Predicate.eq_of_entries
  rw [Filter.Compiler.entries_compile, h, either, List.map_map]
  rfl

/-- The ways of asking for one of several values agree on every document. A filter whose only
expression is a choice has the answers of the test that lists the values of the choice. -/
theorem selects_choice {field : String} (hpath : IsPath field) :
    (∀ document candidates, (among field candidates).selects document =
      (either (candidates.map (equalTo field))).selects document) ∧
    (∀ document candidate, ¬ IsTestList candidate →
      (Predicate.equals field candidate).selects document =
        (equalTo field candidate).selects document) ∧
    ∀ (c : Filter.Compiler) (filter : String) (values : List String),
      c.expressions filter = [.multiple field values] → ∀ documents options,
        find documents (c.compile filter) options =
          find documents (among field (values.map Filter.equalityValue)) options := by
  refine ⟨selects_among_eq_either hpath, fun document _ => selects_literal hpath document, ?_⟩
  intro c filter values hexpressions documents options
  apply find_congr
  intro document _
  have hliteral : ∀ value, (Predicate.equals field (Filter.equalityValue value)).selects document =
      (equalTo field (Filter.equalityValue value)).selects document := by
    intro value
    apply selects_literal hpath
    exact (tests?_eq_none_iff _).mp (Filter.tests?_equalityValue value)
  rw [compile_multiple hexpressions, selects_among_eq_either hpath, selects_either, selects_either,
    List.map_map, List.any_map, List.any_map]
  simp only [Function.comp_def, hliteral]

/-- The empty object is no list of tests, and neither is one with a single key that is no test. The
document has the second value of the choice in an array, after substitution. -/
theorem selects_choice_array :
    let field := "traits.hat"
    let c := Filter.Compiler.standard
    let filter := "x_eq;Traits.Hat_lt_true_Bow and Arrow"
    let mixed : Json := .object [("$eq", .null), ("size", .null)]
    let document : Json :=
      .object [("traits", .object [("hat", .array [.string "Bow & Arrow", mixed])])]
    (IsPath field ∧ ¬ IsTestList mixed ∧
      c.expressions filter = [.multiple field ["true", "Bow & Arrow"]]) ∧
    (either [equalTo field (.string "red"), equalTo field mixed]).selects document = true ∧
      (Predicate.equals field mixed).selects document = true ∧
      find [.null, document] (c.compile filter) {} =
        find [.null, document] (among field [.bool true, .string "Bow & Arrow"]) {} := by
  intro field c filter mixed document
  have hpath : IsPath field := ⟨by decide, by decide⟩
  have hmixed : ¬ IsTestList mixed := (tests?_eq_none_iff mixed).mp (by rfl)
  have hexpressions : c.expressions filter = [.multiple field ["true", "Bow & Arrow"]] := by
    decide +kernel
  obtain ⟨heither, hliteral, hfind⟩ := selects_choice hpath
  refine ⟨⟨hpath, hmixed, hexpressions⟩, ?_, ?_, hfind c filter _ hexpressions _ _⟩
  · have hamong := heither document [.string "red", mixed]
    rw [List.map_cons, List.map_cons, List.map_nil] at hamong
    rw [← hamong]
    decide +kernel
  · rw [hliteral document mixed hmixed]
    decide +kernel

end Query
end DocumentCatalog
