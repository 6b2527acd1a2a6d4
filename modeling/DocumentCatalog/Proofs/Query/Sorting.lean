import DocumentCatalog.Proofs.Query.Order
import DocumentCatalog.Query.Find

/-!
What sorting relies on. Comparing by the value at a path, and by any keys, is a total preorder on
all documents, whatever they hold there, so a sorted list never falls.
-/

namespace DocumentCatalog
namespace Query

variable (keys : List SortKey) (documents : List Json)

/-- What a sort asks of a comparison, where documents that are level may still be different. -/
structure Preorders (cmp : Json → Json → Ordering) : Prop where
  reversed : ∀ x y, cmp x y = (cmp y x).swap
  level_self : ∀ x, cmp x x = .eq
  trans : ∀ x y z, (cmp x y).isLE = true → (cmp y z).isLE = true → (cmp x z).isLE = true
  congr : ∀ x y z, cmp x y = .eq → cmp x z = cmp y z ∧ cmp z x = cmp z y

theorem preorders_of_transCmp (cmp : Json → Json → Ordering) [Std.TransCmp cmp] :
    Preorders cmp where
  reversed _ _ := Std.OrientedCmp.eq_swap
  level_self _ := Std.ReflCmp.compare_self
  trans _ _ _ := Std.TransCmp.isLE_trans
  congr _ _ _ h := ⟨Std.TransCmp.congr_left h, Std.TransCmp.congr_right h⟩

theorem compareAt_of_kindRank_lt {path : String} {x y : Json}
    (h : kindRank (lookup? x path) < kindRank (lookup? y path)) : compareAt path x y = .lt := by
  have hkind : compareOn kindRank (lookup? x path) (lookup? y path) = .lt :=
    Nat.compare_eq_lt.mpr h
  rw [compareAt, compareForSort_eq, compareLex, hkind]
  rfl

theorem sorted_perm : (sorted keys documents).Perm documents :=
  List.mergeSort_perm _ _

theorem pairwise_sorted :
    (sorted keys documents).Pairwise fun x y => (compareByKeys keys x y).isLE = true :=
  List.pairwise_mergeSort (fun _ _ _ => Std.TransCmp.isLE_trans) isLE_compareByKeys_total documents

/-- The comparison at a path and the comparison by keys are total preorders. The first puts kinds of
values in a fixed order, a missing value with the nulls; the second is decided by the first key that
tells two documents apart, so sorting by it keeps all documents and nowhere falls. -/
theorem preorders_compareByKeys :
    (∀ path, Preorders (compareAt path) ∧
      ∀ x y, kindRank (lookup? x path) < kindRank (lookup? y path) → compareAt path x y = .lt) ∧
    ∀ keys, Preorders (compareByKeys keys) ∧
      (∀ x y, (compareByKeys keys x y = .lt ↔ Precedes keys x y) ∧
        (compareByKeys keys x y = .eq ↔ Level keys x y)) ∧
      ∀ documents, (sorted keys documents).Perm documents ∧
        (sorted keys documents).Pairwise fun x y => (compareByKeys keys x y).isLE = true := by
  constructor
  · intro path
    exact ⟨preorders_of_transCmp (compareAt path), fun _ _ => compareAt_of_kindRank_lt⟩
  · intro keys
    refine ⟨preorders_of_transCmp (compareByKeys keys), fun x y => ?_, fun documents => ?_⟩
    · exact ⟨compareByKeys_eq_lt_iff, compareByKeys_eq_eq_iff⟩
    · exact ⟨sorted_perm keys documents, pairwise_sorted keys documents⟩

end Query
end DocumentCatalog
