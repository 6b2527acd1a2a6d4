import DocumentCatalog.Filter.Predicate
import DocumentCatalog.Proofs.Entries
import Mathlib.Data.Finset.Card

/-!
Predicates as ordered maps. A predicate is known from the order of its keys and from what they hold,
so merging, in which the later values count and the earlier places, is associative. Whatever changes
made a predicate, it holds what was written last, in the order in which it was written first.
-/

namespace DocumentCatalog
namespace Filter
namespace Predicate

theorem eq_of_entries {p q : Predicate} (h : p.entries = q.entries) : p = q := by
  cases p
  cases q
  cases h
  rfl

theorem eq_of_get? {p q : Predicate} (hkeys : p.keys = q.keys)
    (hget : ∀ key, p.get? key = q.get? key) : p = q :=
  eq_of_entries (Entries.eq_of_get? p.distinct hkeys hget)

theorem keys_merge (p q : Predicate) :
    (p.merge q).keys = p.keys ++ q.keys.filter fun key => decide (key ∉ p.keys) :=
  Entries.keys_merge p.entries q.distinct

theorem get?_merge (p q : Predicate) (key : String) :
    (p.merge q).get? key = (q.get? key).or (p.get? key) :=
  Entries.get?_merge_of_nodup p.entries q.distinct key

theorem merge_assoc (p q r : Predicate) : (p.merge q).merge r = p.merge (q.merge r) := by
  apply eq_of_get?
  · simp only [keys_merge, List.filter_append, List.filter_filter, List.append_assoc]
    congr 2
    apply List.filter_congr
    intro key _
    by_cases hp : key ∈ p.keys <;> simp [hp]
  · intro key
    simp only [get?_merge, Option.or_assoc]

theorem empty_merge (p : Predicate) : empty.merge p = p :=
  eq_of_entries (Entries.merge_nil_of_nodup p.distinct)

theorem merge_self (p : Predicate) : p.merge p = p := by
  apply eq_of_get?
  · rw [keys_merge, List.filter_eq_nil_iff.mpr (by simp), List.append_nil]
  · intro key
    rw [get?_merge, Option.or_self]

/-- One entry is set, or all those of another predicate are. -/
inductive Change where
  | put (key : String) (value : Json)
  | merge (other : Predicate)

namespace Change

def apply (p : Predicate) : Change → Predicate
  | .put key value => (p.put key value).2
  | .merge other => p.merge other

/-- The entries that a change writes, one after the other. -/
def writes : Change → Entries Json
  | .put key value => [(key, value)]
  | .merge other => other.entries

theorem entries_apply (p : Predicate) (change : Change) :
    (change.apply p).entries = Entries.merge p.entries change.writes := by
  cases change with
  | put key value => rfl
  | merge other => rfl

end Change

/-- The predicate that some changes make of the empty one. -/
def ofChanges (changes : List Change) : Predicate :=
  changes.foldl Change.apply empty

theorem entries_foldl_apply (p : Predicate) (changes : List Change) :
    (changes.foldl Change.apply p).entries =
      Entries.merge p.entries (changes.flatMap Change.writes) := by
  induction changes generalizing p with
  | nil => rfl
  | cons change changes ih =>
      rw [List.foldl_cons, ih, Change.entries_apply, List.flatMap_cons, Entries.merge_append]

section Written
variable (changes : List Change)

theorem entries_ofChanges :
    (ofChanges changes).entries = Entries.merge [] (changes.flatMap Change.writes) :=
  entries_foldl_apply empty changes

theorem keys_ofChanges :
    (ofChanges changes).keys = (Entries.keys (changes.flatMap Change.writes)).eraseDups := by
  rw [keys, entries_ofChanges, Entries.keys_merge_nil]

theorem get?_ofChanges (key : String) :
    (ofChanges changes).get? key = Entries.get? (changes.flatMap Change.writes).reverse key := by
  rw [get?, entries_ofChanges, Entries.get?_merge, Entries.get?_nil, Option.or_none]

theorem get?_ofChanges_eq_none_iff (key : String) :
    (ofChanges changes).get? key = none ↔
      key ∉ Entries.keys (changes.flatMap Change.writes) := by
  rw [get?_ofChanges, Entries.get?_eq_none_iff, Entries.keys, List.map_reverse, List.mem_reverse]
  rfl

theorem put_ofChanges (key : String) (value : Json) :
    (ofChanges changes).put key value =
      ((ofChanges changes).get? key, ofChanges (changes ++ [.put key value])) := by
  apply Prod.ext
  · exact Entries.fst_put key value (ofChanges changes).entries
  · rw [ofChanges, ofChanges, List.foldl_concat]
    rfl

theorem size_ofChanges :
    (ofChanges changes).size = (Entries.keys (changes.flatMap Change.writes)).toFinset.card := by
  have hsize : (ofChanges changes).size = (ofChanges changes).keys.length := by
    rw [size, keys, Entries.keys, List.length_map]
  have hkeys : (ofChanges changes).keys.toFinset =
      (Entries.keys (changes.flatMap Change.writes)).toFinset := by
    ext key
    rw [keys_ofChanges, List.mem_toFinset, List.mem_toFinset, List.mem_eraseDups]
  rw [hsize, ← hkeys]
  exact (List.toFinset_card_of_nodup (ofChanges changes).distinct).symm

end Written

/-- Merging does not depend on how it is bracketed, has the empty predicate as its unit and leaves a
predicate that is merged with itself as it is. A predicate made by changes has every key that was
written once, in the order of the first writes, with the value of the last one, and setting a key
returns what it held. -/
theorem merge_laws (p q r : Predicate) (changes : List Change) :
    let made := ofChanges changes
    let written := changes.flatMap Change.writes
    (p.merge q).merge r = p.merge (q.merge r) ∧
    empty.merge p = p ∧ p.merge empty = p ∧ p.merge p = p ∧
    (∀ key, (p.merge q).get? key = (q.get? key).or (p.get? key)) ∧
    made.keys.Nodup ∧ made.keys = (Entries.keys written).eraseDups ∧
    (∀ key value, made.get? key = some value ↔
      ∃ before after, written = before ++ (key, value) :: after ∧ key ∉ Entries.keys after) ∧
    (∀ key, made.get? key = none ↔ key ∉ Entries.keys written) ∧
    (∀ key, made.contains key = true ↔ key ∈ Entries.keys written) ∧
    (∀ key value, made.put key value =
      (made.get? key, ofChanges (changes ++ [.put key value]))) ∧
    made.size = (Entries.keys written).toFinset.card := by
  intro made written
  refine ⟨merge_assoc p q r, empty_merge p, rfl, merge_self p, get?_merge p q, made.distinct,
    keys_ofChanges changes, ?_, get?_ofChanges_eq_none_iff changes, ?_, put_ofChanges changes,
    size_ofChanges changes⟩
  · intro key value
    rw [get?_ofChanges]
    exact Entries.get?_reverse_eq_some_iff written key value
  · intro key
    rw [contains, Option.isSome_iff_ne_none, ne_eq, get?_ofChanges_eq_none_iff, Classical.not_not]

example :
    (ofChanges [.put "hat" (.string "red"), .put "name" .null,
      .merge (ofEntries [("age", .null), ("hat", .string "blue")])]).entries =
      [("hat", .string "blue"), ("name", .null), ("age", .null)] := by
  rfl

end Predicate
end Filter
end DocumentCatalog
