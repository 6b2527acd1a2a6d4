import DocumentCatalog.Query.Order

/-!
The order of sorting. Values compare by their kind first and then by their amount or their letters,
so comparing them is a total preorder, and so is comparing documents by any number of keys: the
first key on which two documents are not level decides.
-/

namespace DocumentCatalog
namespace Query

/-- The place of a number or a truth value among its kind. -/
def amount : Option Json → Int
  | some (.number x) => x.toBinary64.rank
  | some (.bool b) => if b then 1 else 0
  | _ => 0

/-- The place of a text among its kind. -/
def letters : Option Json → String
  | some (.string s) => s
  | _ => ""

theorem compare_bool (x y : Bool) :
    compare x y = compare (if x then (1 : Int) else 0) (if y then (1 : Int) else 0) := by
  cases x <;> cases y <;> rfl

theorem compareForSort_eq (x y : Option Json) :
    compareForSort x y =
      compareLex (compareOn kindRank) (compareLex (compareOn amount) (compareOn letters)) x y := by
  cases x with
  | none =>
      cases y with
      | none => rfl
      | some y => cases y <;> rfl
  | some x =>
      cases y with
      | none => cases x <;> rfl
      | some y =>
          cases x <;> cases y <;>
            simp [compareForSort, compareLex, compareOn, kindRank, amount, letters, compare_bool,
              Json.Number.compareTotal, Binary64.compareTotal] <;> rfl

instance transCmp_compareForSort : Std.TransCmp compareForSort := by
  have heq : compareForSort =
      compareLex (compareOn kindRank) (compareLex (compareOn amount) (compareOn letters)) := by
    funext x y
    exact compareForSort_eq x y
  rw [heq]
  infer_instance

instance transCmp_compareAt (path : String) : Std.TransCmp (compareAt path) where
  eq_swap := by
    intro x y
    change compareForSort _ _ = (compareForSort _ _).swap
    exact Std.OrientedCmp.eq_swap
  isLE_trans := by
    intro x y z
    change (compareForSort _ _).isLE = true → (compareForSort _ _).isLE = true →
      (compareForSort _ _).isLE = true
    exact Std.TransCmp.isLE_trans

instance transCmp_sortKey (key : SortKey) : Std.TransCmp key.compare := by
  obtain ⟨field, direction⟩ := key
  cases direction with
  | ascending => exact transCmp_compareAt field
  | descending =>
      have heq : (SortKey.mk field .descending).compare = fun x y => compareAt field y x := by
        funext x y
        have hswap : compareAt field y x = (compareAt field x y).swap := Std.OrientedCmp.eq_swap
        exact hswap.symm
      rw [heq]
      exact Std.TransCmp.opposite

instance transCmp_compareByKeys (keys : List SortKey) : Std.TransCmp (compareByKeys keys) := by
  induction keys with
  | nil => exact { eq_swap := rfl, isLE_trans := fun _ _ => rfl }
  | cons key keys ih =>
      have heq : compareByKeys (key :: keys) = compareLex key.compare (compareByKeys keys) := rfl
      rw [heq]
      infer_instance

theorem compareByKeys_swap (keys : List SortKey) (x y : Json) :
    compareByKeys keys x y = (compareByKeys keys y x).swap :=
  Std.OrientedCmp.eq_swap

theorem isLE_compareByKeys_total {keys : List SortKey} (x y : Json) :
    ((compareByKeys keys x y).isLE || (compareByKeys keys y x).isLE) = true := by
  rw [compareByKeys_swap]
  cases compareByKeys keys y x <;> rfl

/-- Whether a key puts the first document before the second. -/
def SortKey.Before (key : SortKey) (x y : Json) : Prop :=
  match key.direction with
  | .ascending => compareAt key.field x y = .lt
  | .descending => compareAt key.field x y = .gt

/-- Whether no key tells the documents apart. -/
def Level (keys : List SortKey) (x y : Json) : Prop :=
  ∀ key ∈ keys, compareAt key.field x y = .eq

/-- Whether some key puts the first document before the second, and no key before it tells them
apart. -/
def Precedes (keys : List SortKey) (x y : Json) : Prop :=
  ∃ first key rest, keys = first ++ key :: rest ∧ Level first x y ∧ key.Before x y

variable {key : SortKey} {keys : List SortKey} {x y : Json}

theorem SortKey.compare_eq_lt_iff : key.compare x y = .lt ↔ key.Before x y := by
  obtain ⟨field, direction⟩ := key
  cases direction with
  | ascending => rfl
  | descending => exact Ordering.swap_eq_lt

theorem SortKey.compare_eq_eq_iff : key.compare x y = .eq ↔ compareAt key.field x y = .eq := by
  obtain ⟨field, direction⟩ := key
  cases direction with
  | ascending => rfl
  | descending => exact Ordering.swap_eq_eq

theorem compareByKeys_eq_eq_iff : compareByKeys keys x y = .eq ↔ Level keys x y := by
  induction keys with
  | nil => simp [compareByKeys, Level]
  | cons key keys ih =>
      rw [compareByKeys, Ordering.then_eq_eq, SortKey.compare_eq_eq_iff, ih]
      simp [Level]

theorem Level.symm (h : Level keys x y) : Level keys y x := by
  rw [← compareByKeys_eq_eq_iff] at h ⊢
  exact Std.OrientedCmp.eq_symm h

theorem Level.trans {z : Json} (hxy : Level keys x y) (hyz : Level keys y z) : Level keys x z := by
  rw [← compareByKeys_eq_eq_iff] at hxy hyz ⊢
  exact Std.TransCmp.eq_trans hxy hyz

theorem level_refl (keys : List SortKey) (x : Json) : Level keys x x :=
  compareByKeys_eq_eq_iff.mp Std.ReflCmp.compare_self

theorem precedes_nil : ¬ Precedes [] x y := by
  rintro ⟨first, key, rest, hkeys, _⟩
  simp at hkeys

theorem precedes_cons :
    Precedes (key :: keys) x y ↔
      key.Before x y ∨ compareAt key.field x y = .eq ∧ Precedes keys x y := by
  constructor
  · rintro ⟨first, other, rest, hkeys, hlevel, hbefore⟩
    cases first with
    | nil =>
        cases hkeys
        exact .inl hbefore
    | cons head first =>
        cases hkeys
        refine .inr ⟨hlevel _ List.mem_cons_self, first, other, rest, rfl, ?_, hbefore⟩
        intro k hk
        exact hlevel k (List.mem_cons_of_mem _ hk)
  · rintro (hbefore | ⟨heq, first, other, rest, rfl, hlevel, hbefore⟩)
    · exact ⟨[], key, keys, rfl, by simp [Level], hbefore⟩
    · exact ⟨key :: first, other, rest, rfl, List.forall_mem_cons.mpr ⟨heq, hlevel⟩, hbefore⟩

theorem compareByKeys_eq_lt_iff : compareByKeys keys x y = .lt ↔ Precedes keys x y := by
  induction keys with
  | nil => simp [compareByKeys, precedes_nil]
  | cons key keys ih =>
      rw [compareByKeys, Ordering.then_eq_lt, SortKey.compare_eq_lt_iff, SortKey.compare_eq_eq_iff,
        ih, precedes_cons]

theorem isLE_compareByKeys_iff :
    (compareByKeys keys x y).isLE = true ↔ Precedes keys x y ∨ Level keys x y := by
  rw [Ordering.isLE_iff_eq_lt_or_eq_eq, compareByKeys_eq_lt_iff, compareByKeys_eq_eq_iff]

theorem Precedes.asymm (h : Precedes keys x y) : ¬ (Precedes keys y x ∨ Level keys y x) := by
  rw [← compareByKeys_eq_lt_iff] at h
  rw [← isLE_compareByKeys_iff, compareByKeys_swap, h]
  decide

end Query
end DocumentCatalog
