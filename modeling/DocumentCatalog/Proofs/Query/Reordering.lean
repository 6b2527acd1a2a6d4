import DocumentCatalog.Proofs.Query.Exchange
import Mathlib

/-!
The order of members has no influence on what is selected: neither that of a document nor that of a
predicate, in which objects stand for lists of conditions, for tests and for values to be equal to.
-/

namespace DocumentCatalog
namespace Query

open Json (Alike)

section Operand

variable {x y : Json} (h : Alike x y)

include h

theorem equal_alike_right (value : Json) : equal value x = equal value y := by
  rcases h.shape with rfl | ⟨members, others, rfl, rfl⟩ | ⟨items, others, rfl, rfl⟩
  · rfl
  · cases value <;> exact h.same_right _
  · cases value <;> exact h.same_right _

theorem equalOrContains_alike_right (value : Json) :
    equalOrContains value x = equalOrContains value y := by
  cases value <;> simp [equalOrContains, equal_alike_right h]

theorem compare?_alike_right (value : Json) : compare? value x = compare? value y := by
  rcases h.shape with rfl | ⟨members, others, rfl, rfl⟩ | ⟨items, others, rfl, rfl⟩
  · rfl
  · cases value <;> rfl
  · cases value <;> rfl

theorem compares_alike_right (operator : Filter.Operator) (value : Json) :
    compares operator value x = compares operator value y := by
  cases operator with
  | eq => exact equalOrContains_alike_right h value
  | lt | lte | gt | gte => simp [compares, compare?_alike_right h]

theorem isAmong_alike_right (value : Json) : isAmong value x = isAmong value y := by
  induction h with
  | refl x => rfl
  | trans _ _ ihxy ihyz => exact ihxy.trans ihyz
  | reorder _ _ | member _ _ _ _ _ => rfl
  | item before after h _ => simp [isAmong, equalOrContains_alike_right h]

theorem matchesPattern_alike_right (flags : Pattern.Flags) (value : Json) :
    matchesPattern flags value x = matchesPattern flags value y := by
  rcases h.shape with rfl | ⟨members, others, rfl, rfl⟩ | ⟨items, others, rfl, rfl⟩
  · rfl
  · cases value <;> rfl
  · cases value <;> rfl

theorem patternFlags_alike : patternFlags (some x) = patternFlags (some y) := by
  rcases h.shape with rfl | ⟨members, others, rfl, rfl⟩ | ⟨items, others, rfl, rfl⟩ <;> rfl

theorem holds_alike_right (test : Test) (tests : Entries Json) (value : Option Json) :
    test.holds tests value x = test.holds tests value y := by
  cases value with
  | none => cases test <;> rfl
  | some value =>
      cases test with
      | comparison operator => exact compares_alike_right h operator value
      | among => exact isAmong_alike_right h value
      | pattern => exact matchesPattern_alike_right h _ value
      | options | unknown => rfl

theorem meets_alike_right (value : Option Json) : meets value x = meets value y := by
  induction h with
  | refl x => rfl
  | trans _ _ ihxy ihyz => exact ihxy.trans ihyz
  | reorder hdistinct hperm =>
      -- the tests of a list know of each other by the flags alone, which are looked up by their key
      have hflags := congrArg patternFlags (Entries.get?_perm hdistinct hperm "$options")
      have hequal := equalOrContains_alike_right (.reorder hdistinct hperm)
      have hlists : listsTests _ = listsTests _ :=
        congrArg₂ (!· && ·) hperm.isEmpty_eq hperm.all_eq
      rw [meets_object, meets_object, hlists, hperm.all_eq]
      simp only [holds_congr_tests hflags, hequal]
  | member before after key h _ =>
      exact meets_member_congr before after key value (patternFlags_alike h)
        (fun _ tests => holds_alike_right h _ tests value)
        (fun _ => equalOrContains_alike_right (.member before after key h))
  | item before after h _ =>
      have hequal := equalOrContains_alike_right (.item before after h)
      cases value with
      | none => rfl
      | some v => exact hequal v

end Operand

/-- Alike values mean the same under a key, and as predicates of a list. -/
theorem selectsEntry_alike_right {x y : Json} (h : Alike x y) (document : Json) :
    (∀ key, selectsEntry document key x = selectsEntry document key y) ∧
      SameInList document x y := by
  induction h with
  | refl x => exact ⟨fun _ => rfl, rfl, rfl⟩
  | trans _ _ ihxy ihyz =>
      exact ⟨fun key => (ihxy.1 key).trans (ihyz.1 key), ihxy.2.1.trans ihyz.2.1,
        ihxy.2.2.trans ihyz.2.2⟩
  | reorder hdistinct hperm =>
      refine ⟨selectsEntry_object_congr document (meets_alike_right (.reorder hdistinct hperm)),
        sameInList_object document ?_⟩
      rw [Bool.eq_iff_iff, selects_iff, selects_iff]
      simp only [hperm.mem_iff]
  | member before after inner h ih =>
      exact ⟨selectsEntry_object_congr document (meets_alike_right (.member before after inner h)),
        sameInList_object document (selects_member_congr document before after inner (ih.1 inner))⟩
  | item before after h ih =>
      exact ⟨fun key => selectsEntry_item_congr document before after (fun _ => ih.2)
        fun _ => meets_alike_right (.item before after h), rfl, rfl⟩

/-- Selecting does not depend on the order of members, at whatever depth of the document and of the
predicate they are put in another order. -/
theorem selects_reordered {document other : Json} {conditions others : Entries Json}
    (hdocument : Alike document other) (hconditions : Alike (.object conditions) (.object others)) :
    selects document conditions = selects other others := by
  -- the conditions are the only predicate of a list
  have hpredicate : selects document conditions = selects document others := by
    simpa [selectsEach] using (selectsEntry_alike_right hconditions document).2.1
  rw [hpredicate]
  exact selects_congr others fun path _ => alikeAt hdocument path

/-- An object inside an array to be equal to, a pattern behind its options, and the conditions
themselves. -/
theorem selects_reordered_nested :
    let hat : String × Json := ("hat", .string "red")
    let eyes : String × Json := ("eyes", .array [.null, .bool true])
    let pattern : String × Json := ("$regex", .string "É")
    let options : String × Json := ("$options", .string "i")
    let name : String × Json := ("name", .string "café")
    let document : Json := .object [name, ("traits", .array [.object [hat, eyes]])]
    let other : Json := .object [("traits", .array [.object [eyes, hat]]), name]
    let traits : Entries Json → Json := fun wanted =>
      .array [.object [("traits", .object wanted)]]
    let conditions : Entries Json :=
      [("$or", traits [hat, eyes]), ("name", .object [pattern, options])]
    let others : Entries Json :=
      [("name", .object [options, pattern]), ("$or", traits [eyes, hat])]
    Alike document other ∧ Alike (.object conditions) (.object others) ∧
      selects document conditions = true ∧ selects other others = true := by
  intro hat eyes pattern options name document other traits conditions others
  have hdocument : Alike document other :=
    .trans (.member [name] [] "traits" (.item [] [] (.reorder (by decide) (.swap _ _ _))))
      (.reorder (by decide) (.swap _ _ _))
  have htraits : Alike (traits [hat, eyes]) (traits [eyes, hat]) :=
    .item [] [] (.member [] [] "traits" (.reorder (by decide) (.swap _ _ _)))
  have hname : Alike (.object [pattern, options]) (.object [options, pattern]) :=
    .reorder (by decide) (.swap _ _ _)
  have hconditions : Alike (.object conditions) (.object others) :=
    .trans (.member [] _ "$or" htraits)
      (.trans (.member [("$or", traits [eyes, hat])] [] "name" hname)
        (.reorder (by decide) (.swap _ _ _)))
  have hselects : selects document conditions = true := by cbv
  exact ⟨hdocument, hconditions, hselects, selects_reordered hdocument hconditions ▸ hselects⟩

end Query
end DocumentCatalog
