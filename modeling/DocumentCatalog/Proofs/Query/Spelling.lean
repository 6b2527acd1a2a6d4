import DocumentCatalog.Proofs.Json.Spelling
import DocumentCatalog.Proofs.Query.Exchange

/-!
What the spelling of an integer, with or without a fraction, means to a predicate: nothing where a
number is compared with a number, whatever values the document holds around them. Inside an array or
object that a value is to be equal to it counts, and a value that was equal no longer is.
-/

namespace DocumentCatalog
namespace Query

open Json (Respelled)
open Relation (ReflTransGen)

/-- Whether a value is a number or has no numbers in it. -/
def isPlain : Json → Bool
  | .number _ => true
  | operand => operand.numberless

/-- What a test asks a value to be equal to. -/
def Test.operands : Test → Json → List Json
  | .comparison .eq, operand => [operand]
  | .among, .array candidates => candidates
  | _, _ => []

/-- What a condition asks a value to be equal to. -/
def operands (condition : Json) : List Json :=
  match tests? condition with
  | some tests => tests.flatMap fun test => (Test.ofKey test.1).operands test.2
  | none => [condition]

/-- Whether no value is to be equal to an array or object with numbers in it. -/
def Plain (conditions : List (String × Json)) : Prop :=
  ∀ condition ∈ conditions, ∀ operand ∈ operands condition.2, isPlain operand = true

section Value

variable {x y : Json} (h : Respelled x y)

include h

theorem equal_respelled {operand : Json} (hplain : isPlain operand = true) :
    equal x operand = equal y operand := by
  cases operand with
  | number n =>
      cases h with
      | number h =>
          simp only [equal, Json.Number.sameValue, Binary64.sameValue, h.position_eq]
      | member _ _ _ _ | item _ _ _ => rfl
  | null | bool _ | string _ | array _ | object _ =>
      have hsame := h.same hplain
      cases h <;> exact hsame

theorem equalOrContains_respelled {operand : Json} (hplain : isPlain operand = true) :
    equalOrContains x operand = equalOrContains y operand := by
  have hequal := equal_respelled h hplain
  cases h with
  | number _ | member _ _ _ _ => simp [equalOrContains, hequal]
  | item before after h => simp [equalOrContains, hequal, equal_respelled h hplain]

theorem compare?_respelled (operand : Json) : compare? x operand = compare? y operand := by
  cases h with
  | number h =>
      cases operand <;>
        simp [compare?, Json.Number.compareValue, Binary64.compareValue, h.position_eq]
  | member _ _ _ _ | item _ _ _ => rfl

theorem holds_respelled (test : Test) (tests : Entries Json) {operand : Json}
    (hplain : ∀ o ∈ test.operands operand, isPlain o = true) :
    test.holds tests (some x) operand = test.holds tests (some y) operand := by
  cases test with
  | comparison operator =>
      cases operator with
      | eq => exact equalOrContains_respelled h (hplain operand List.mem_cons_self)
      | lt | lte | gt | gte => simp [Test.holds, compares, compare?_respelled h]
  | among =>
      cases operand with
      | array candidates =>
          simp only [Test.holds, isAmong]
          rw [Bool.eq_iff_iff, List.any_eq_true, List.any_eq_true]
          exact exists_congr fun c => and_congr_right fun hc => by
            rw [equalOrContains_respelled h (hplain c hc)]
      | _ => rfl
  | pattern => cases h <;> rfl
  | options | unknown => rfl

theorem meets_respelled {condition : Json} (hplain : ∀ o ∈ operands condition, isPlain o = true) :
    meets (some x) condition = meets (some y) condition := by
  unfold meets
  unfold operands at hplain
  cases htests : tests? condition with
  | none =>
      rw [htests] at hplain
      exact equalOrContains_respelled h (hplain condition List.mem_cons_self)
  | some tests =>
      rw [htests, List.forall_mem_flatMap] at hplain
      rw [Bool.eq_iff_iff, List.all_eq_true, List.all_eq_true]
      exact forall₂_congr fun test hmem => by rw [holds_respelled h _ tests (hplain test hmem)]

end Value

theorem meets_respelled_many {v w : Option Json} (h : Option.Rel (ReflTransGen Respelled) v w)
    {condition : Json} (hplain : ∀ o ∈ operands condition, isPlain o = true) :
    meets v condition = meets w condition := by
  cases h with
  | none => rfl
  | some h =>
      induction h with
      | refl => rfl
      | tail _ hstep ih => exact ih.trans (meets_respelled hstep hplain)

theorem selects_respelled_document {document other : Json}
    (h : ReflTransGen Respelled document other) {conditions : Entries Json}
    (hplain : Plain (fieldConditions conditions)) :
    selects document conditions = selects other conditions := by
  apply selects_congr_of_meets
  intro condition hmem
  exact meets_respelled_many (resolve?_rel Json.member?_respelled h _) (hplain condition hmem)

section Operand

variable {x y : Json} (h : Respelled x y)

include h

/-- Only a number can be spelled in another way where nothing is compared by structure. -/
theorem respelled_plain (hplain : isPlain x = true) :
    ∃ m n : Json.Number, x = .number m ∧ y = .number n ∧
      m.toBinary64.position = n.toBinary64.position := by
  have hnumbers := h.not_numberless.1
  cases h with
  | number h => exact ⟨_, _, rfl, rfl, h.position_eq⟩
  | member _ _ _ _ | item _ _ _ => exact absurd hplain (by simp [isPlain, hnumbers])

theorem isPlain_respelled (hplain : isPlain x = true) : isPlain y = true := by
  obtain ⟨_, _, _, rfl, _⟩ := respelled_plain h hplain
  rfl

theorem equalOrContains_respelled_right (hplain : isPlain x = true) (v : Json) :
    equalOrContains v x = equalOrContains v y := by
  obtain ⟨m, n, rfl, rfl, hposition⟩ := respelled_plain h hplain
  have hequal : ∀ v, equal v (.number m) = equal v (.number n) := by
    intro v
    cases v <;> simp [equal, Json.same, Json.Number.sameValue, Binary64.sameValue, hposition]
  simp only [equalOrContains, hequal]

theorem compare?_respelled_right (v : Json) : compare? v x = compare? v y := by
  cases h with
  | number h =>
      cases v <;> simp [compare?, Json.Number.compareValue, Binary64.compareValue, h.position_eq]
  | member _ _ _ _ | item _ _ _ => cases v <;> rfl

theorem patternFlags_respelled : patternFlags (some x) = patternFlags (some y) := by
  cases h <;> rfl

/-- A test asks for the same with its operand in another spelling, which stays plain. -/
theorem holds_respelled_right (test : Test) (hplain : ∀ o ∈ test.operands x, isPlain o = true) :
    (∀ tests value, test.holds tests value x = test.holds tests value y) ∧
      ∀ o ∈ test.operands y, isPlain o = true := by
  cases test with
  | comparison operator =>
      cases operator with
      | eq =>
          have hx := hplain x List.mem_cons_self
          refine ⟨fun tests value => ?_, List.forall_mem_singleton.mpr (isPlain_respelled h hx)⟩
          cases value with
          | none => rfl
          | some v => exact equalOrContains_respelled_right h hx v
      | lt | lte | gt | gte =>
          refine ⟨fun tests value => ?_, fun _ ho => absurd ho List.not_mem_nil⟩
          cases value <;> simp [Test.holds, compares, compare?_respelled_right h]
  | among =>
      cases h with
      | number _ | member _ _ _ _ =>
          exact ⟨fun _ value => by cases value <;> rfl, fun _ ho => absurd ho List.not_mem_nil⟩
      | item before after h =>
          simp only [Test.operands, List.forall_mem_append, List.forall_mem_cons] at hplain ⊢
          refine ⟨fun tests value => ?_, hplain.1, isPlain_respelled h hplain.2.1, hplain.2.2⟩
          cases value with
          | none => rfl
          | some v =>
              simp [Test.holds, isAmong, equalOrContains_respelled_right h hplain.2.1]
  | pattern =>
      refine ⟨fun tests value => ?_, fun _ ho => absurd ho List.not_mem_nil⟩
      cases value with
      | none => rfl
      | some v => cases h <;> cases v <;> rfl
  | options | unknown =>
      exact ⟨fun _ value => by cases value <;> rfl, fun _ ho => absurd ho List.not_mem_nil⟩

end Operand

theorem operands_object (members : Entries Json) :
    operands (.object members) =
      if listsTests members then members.flatMap fun test => (Test.ofKey test.1).operands test.2
      else [.object members] := by
  rw [operands, tests?_object]
  cases listsTests members <;> rfl

/-- A condition asks for the same in another spelling, as long as it compares nothing by structure
that has numbers in it. -/
theorem meets_respelled_right {x y : Json} (h : Respelled x y)
    (hplain : ∀ o ∈ operands x, isPlain o = true) :
    (∀ value, meets value x = meets value y) ∧ ∀ o ∈ operands y, isPlain o = true := by
  cases h with
  | number h =>
      refine ⟨fun value => ?_, List.forall_mem_singleton.mpr rfl⟩
      cases value with
      | none => rfl
      | some v => exact equalOrContains_respelled_right (.number h) rfl v
  | item before after h =>
      obtain ⟨_, _, hnumber, _⟩ :=
        respelled_plain (.item before after h) (hplain _ List.mem_cons_self)
      cases hnumber
  | @member x y before after key h =>
      have hsame : listsTests (before ++ (key, y) :: after) =
          listsTests (before ++ (key, x) :: after) := listsTests_member before after key
      rw [operands_object] at hplain ⊢
      rw [hsame]
      cases hlists : listsTests (before ++ (key, x) :: after) with
      | false =>
          rw [hlists] at hplain
          obtain ⟨_, _, hnumber, _⟩ :=
            respelled_plain (.member before after key h) (hplain _ List.mem_cons_self)
          cases hnumber
      | true =>
          simp only [hlists, if_true, List.flatMap_append, List.flatMap_cons,
            List.forall_mem_append] at hplain ⊢
          obtain ⟨hholds, hoperands⟩ := holds_respelled_right h (Test.ofKey key) hplain.2.1
          refine ⟨fun value => ?_, hplain.1, hoperands, hplain.2.2⟩
          apply meets_member_congr before after key value (patternFlags_respelled h)
          · exact fun _ tests => hholds tests value
          · intro hfalse
            rw [hlists] at hfalse
            cases hfalse

section Entry

variable {x y : Json} (document : Json)

theorem plain_append {conditions more : List (String × Json)} :
    Plain (conditions ++ more) ↔ Plain conditions ∧ Plain more :=
  List.forall_mem_append

theorem plain_nil : Plain [] :=
  fun _ h => absurd h List.not_mem_nil

theorem selectsEntry_respelled_field (h : Respelled x y) {key : String}
    (hfield : ¬ (key = Filter.andKey ∨ key = Filter.orKey))
    (hplain : Plain (fieldConditionsEntry key x)) :
    selectsEntry document key x = selectsEntry document key y ∧
      Plain (fieldConditionsEntry key y) := by
  obtain ⟨hand, hor⟩ := not_or.mp hfield
  rw [fieldConditionsEntry_field _ hand hor, Plain, List.forall_mem_singleton] at hplain ⊢
  obtain ⟨hmeets, hoperands⟩ := meets_respelled_right h hplain
  rw [selectsEntry_field _ _ hand hor, selectsEntry_field _ _ hand hor, hmeets]
  exact ⟨rfl, hoperands⟩

/-- In another spelling a value means the same under a key and among the predicates of a list, and
what was plain there stays plain. -/
theorem selectsEntry_respelled (h : Respelled x y) :
    (∀ key, Plain (fieldConditionsEntry key x) →
      selectsEntry document key x = selectsEntry document key y ∧
        Plain (fieldConditionsEntry key y)) ∧
    (Plain (fieldConditionsEach [x]) →
      SameInList document x y ∧ Plain (fieldConditionsEach [y])) := by
  -- plainness is carried along, as the next number is respelled in what came out of this one
  induction h with
  | number h =>
      refine ⟨fun key hplain => ?_, fun _ => ⟨⟨rfl, rfl⟩, plain_nil⟩⟩
      by_cases hcombining : key = Filter.andKey ∨ key = Filter.orKey
      · simp [selectsEntry, fieldConditionsEntry, hcombining, plain_nil]
      · exact selectsEntry_respelled_field document (.number h) hcombining hplain
  | member before after inner h ih =>
      constructor
      · intro key hplain
        by_cases hcombining : key = Filter.andKey ∨ key = Filter.orKey
        · simp [selectsEntry, fieldConditionsEntry, hcombining, plain_nil]
        · exact selectsEntry_respelled_field document (.member before after inner h) hcombining
            hplain
      · intro hplain
        simp only [fieldConditionsEach, List.append_nil, fieldConditions_append, fieldConditions,
          plain_append] at hplain ⊢
        obtain ⟨hentry, hstays⟩ := ih.1 inner hplain.2.1
        exact ⟨sameInList_object document (selects_member_congr document before after inner hentry),
          hplain.1, hstays, hplain.2.2⟩
  | item before after h ih =>
      refine ⟨fun key hplain => ?_, fun _ => ⟨⟨rfl, rfl⟩, plain_nil⟩⟩
      by_cases hcombining : key = Filter.andKey ∨ key = Filter.orKey
      · simp only [fieldConditionsEntry, hcombining, if_true, plain_append,
          fieldConditionsEach_append_cons] at hplain ⊢
        obtain ⟨hlist, hstays⟩ := ih.2 hplain.2.1
        exact ⟨selectsEntry_item_congr document before after (fun _ => hlist)
          fun hfield => absurd hcombining hfield, hplain.1, hstays, hplain.2.2⟩
      · exact selectsEntry_respelled_field document (.item before after h) hcombining hplain

theorem sameInList_respelled_many (h : ReflTransGen Respelled x y)
    (hplain : Plain (fieldConditionsEach [x])) :
    SameInList document x y ∧ Plain (fieldConditionsEach [y]) := by
  induction h with
  | refl => exact ⟨⟨rfl, rfl⟩, hplain⟩
  | tail _ hstep ih =>
      obtain ⟨hsame, hmiddle⟩ := ih
      obtain ⟨hnext, hstays⟩ := (selectsEntry_respelled document hstep).2 hmiddle
      exact ⟨⟨hsame.1.trans hnext.1, hsame.2.trans hnext.2⟩, hstays⟩

end Entry

/-- Where no value is to be equal to an array or object with numbers in it, it makes no difference
how the integers of at most 53 bits are spelled, neither those of the document nor those of the
predicate. The others are compared by structure, and a value that is equal to one of them is not
once a number in it is spelled the other way. -/
theorem selects_respelled (document : Json) (conditions : Entries Json) :
    (Plain (fieldConditions conditions) → ∀ other others,
      ReflTransGen Respelled document other →
      ReflTransGen Respelled (.object conditions) (.object others) →
        selects document conditions = selects other others) ∧
    ∀ value respelled operand, Respelled value respelled → isPlain operand = false →
      equal value operand = true → equal respelled operand = false := by
  constructor
  · intro hplain other others hdocument hconditions
    have hlist : Plain (fieldConditionsEach [.object conditions]) := by
      simpa [fieldConditionsEach] using hplain
    obtain ⟨hsame, hstays⟩ := sameInList_respelled_many document hconditions hlist
    have hpredicate : selects document conditions = selects document others := by
      simpa [SameInList, selectsEach, selectsSome] using hsame
    rw [hpredicate]
    exact selects_respelled_document hdocument (by simpa [fieldConditionsEach] using hstays)
  · intro value respelled operand h hplain hequal
    have hstructure : ∀ v, equal v operand = v.same operand := by
      intro v
      cases operand with
      | number _ => cases hplain
      | _ => cases v <;> rfl
    rw [hstructure] at hequal ⊢
    exact h.not_same hequal

/-- Numbers in an array that is searched, below it, and among the candidates for a field. -/
theorem selects_respelled_nested :
    let one : Json := .number (.integer 1 (by decide))
    let greatest : Json := .number (.integer 9007199254740992 (by decide))
    let one' : Json := .number (.decimal (.ofInt 1))
    let greatest' : Json := .number (.decimal (.ofInt 9007199254740992))
    let document : Json → Json → Json := fun m n =>
      .object [("tags", .array [m, .object [("id", .array [n])]])]
    let conditions : Json → Entries Json := fun m =>
      [("$or", .array [.object [("id", .null)], .object [("tags", .object [("$in", .array [m])])]])]
    (Plain (fieldConditions (conditions one)) ∧
      ReflTransGen Respelled (document one greatest) (document one' greatest') ∧
      ReflTransGen Respelled (.object (conditions one)) (.object (conditions one')) ∧
      Respelled (.array [one]) (.array [one']) ∧ isPlain (.array [one]) = false) ∧
    selects (document one' greatest') (conditions one') = true ∧
      equal (.array [one']) (.array [one]) = false := by
  intro one greatest one' greatest' document conditions
  have hone : Respelled one one' :=
    .number (.withFraction (by decide) (by decide) (Binary64.represents_ofInt (by decide)))
  have hgreatest : Respelled greatest greatest' :=
    .number (.withFraction (by decide) (by decide) (Binary64.represents_ofInt (by decide)))
  have hplain : Plain (fieldConditions (conditions one)) := by
    unfold Plain
    decide
  have hdocument : ReflTransGen Respelled (document one greatest) (document one' greatest') :=
    .tail (.single (.member [] [] "tags" (.item [] _ hone)))
      (.member [] [] "tags" (.item [one'] [] (.member [] [] "id" (.item [] [] hgreatest))))
  have hconditions : ReflTransGen Respelled (.object (conditions one)) (.object (conditions one')) :=
    .single (.member [] [] "$or" (.item [_] []
      (.member [] [] "tags" (.member [] [] "$in" (.item [] [] hone)))))
  have hitem : Respelled (.array [one]) (.array [one']) := .item [] [] hone
  have hselects : selects (document one greatest) (conditions one) = true := by decide +kernel
  obtain ⟨hsame, hapart⟩ := selects_respelled (document one greatest) (conditions one)
  refine ⟨⟨hplain, hdocument, hconditions, hitem, rfl⟩, ?_, ?_⟩
  · rw [← hsame hplain _ _ hdocument hconditions, hselects]
  · exact hapart _ _ _ hitem rfl (by decide +kernel)

/-- An array of one number to be equal to, in its two spellings. -/
theorem not_selects_respelled :
    ¬ ∀ (document other : Json) (conditions others : Entries Json),
      ReflTransGen Respelled document other →
      ReflTransGen Respelled (.object conditions) (.object others) →
        selects document conditions = selects other others := by
  intro h
  let field : Json.Number → Entries Json := fun n => [("x", .array [.number n])]
  let one := field (.integer 1 (by decide))
  let one' := field (.decimal (.ofInt 1))
  have hrespelled : Respelled (.object one) (.object one') :=
    .member [] [] "x" (.item [] [] (.number
      (.withFraction (by decide) (by decide) (Binary64.represents_ofInt (by decide)))))
  have hsame := h (.object one) (.object one) one one' .refl (.single hrespelled)
  have hselected : selects (.object one) one = true := by decide +kernel
  have hmissed : selects (.object one) one' = false := by decide +kernel
  rw [hselected, hmissed] at hsame
  cases hsame

end Query
end DocumentCatalog
