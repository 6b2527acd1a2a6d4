import DocumentCatalog.Proofs.Query.Sorting
import DocumentCatalog.Service.Paging
import Mathlib.Data.List.Pairwise

/-!
Answers that do not depend on the order in which documents are stored. If one of the keys tells all
documents apart, there is only one way to sort them. The keys of a request always include the
default field; where it is asked for already, naming it once more would change nothing.
-/

namespace DocumentCatalog

namespace Query

variable {keys : List SortKey}

theorem compareByKeys_append (keys more : List SortKey) (x y : Json) :
    compareByKeys (keys ++ more) x y = (compareByKeys keys x y).then (compareByKeys more x y) := by
  induction keys with
  | nil => rfl
  | cons key keys ih =>
      rw [List.cons_append, compareByKeys, compareByKeys, ih, Ordering.then_assoc]

/-- A key that is reached only by documents which it does not tell apart is of no use. -/
theorem compareByKeys_concat {key other : SortKey} (hmem : other ∈ keys)
    (hfield : other.field = key.field) : compareByKeys (keys ++ [key]) = compareByKeys keys := by
  funext x y
  rw [compareByKeys_append]
  cases hlevel : compareByKeys keys x y with
  | lt | gt => rfl
  | eq =>
      have heq : key.compare x y = .eq := by
        rw [SortKey.compare_eq_eq_iff, ← hfield]
        exact compareByKeys_eq_eq_iff.mp hlevel other hmem
      simp [compareByKeys, heq]

/-- Sorted by a key that tells all documents apart, they stand in one order whatever their order was
before. -/
theorem sorted_eq_of_perm {key : SortKey} {documents other : List Json} (hmem : key ∈ keys)
    (hapart : documents.Pairwise fun x y => compareAt key.field x y ≠ .eq)
    (hperm : other.Perm documents) : sorted keys other = sorted keys documents := by
  have hsame : (sorted keys other).Perm documents := (sorted_perm keys other).trans hperm
  refine List.Perm.eq_of_pairwise ?_ (pairwise_sorted keys other) (pairwise_sorted keys documents)
    (hsame.trans (sorted_perm keys documents).symm)
  intro x y hx hy hxy hyx
  have hlevel : Level keys x y :=
    compareByKeys_eq_eq_iff.mp (Std.OrientedCmp.isLE_antisymm hxy hyx)
  have : Std.Symm fun x y => compareAt key.field x y ≠ .eq :=
    ⟨fun _ _ hne heq => hne (Std.OrientedCmp.eq_symm heq)⟩
  by_contra hne
  exact hapart.forall (hsame.mem_iff.mp hx) (List.mem_mergeSort.mp hy) hne (hlevel key hmem)

theorem find_eq_of_perm {key : SortKey} {documents other : List Json} (p : Filter.Predicate)
    {options : Options} (hmem : key ∈ options.sort)
    (hapart : documents.Pairwise fun x y => compareAt key.field x y ≠ .eq)
    (hperm : other.Perm documents) : find other p options = find documents p options := by
  unfold find
  rw [sorted_eq_of_perm hmem (hapart.filter _) (hperm.filter _)]

theorem find_congr_sort (documents : List Json) (p : Filter.Predicate) (options : Options)
    {keys : List SortKey} (h : compareByKeys keys = compareByKeys options.sort) :
    find documents p { options with sort := keys } = find documents p options := by
  simp only [find, sorted, h]

end Query

namespace Service

theorem exists_mem_sortKeys (field : Option String) (direction : Query.Direction)
    (defaultField : String) :
    ∃ key ∈ sortKeys field direction defaultField, key.field = defaultField := by
  unfold sortKeys
  split
  · exact ⟨_, List.mem_singleton_self _, rfl⟩
  · split
    · next heq => exact ⟨_, List.mem_singleton_self _, heq⟩
    · exact ⟨_, List.mem_cons_of_mem _ (List.mem_singleton_self _), rfl⟩

theorem sortKeys_default (direction : Query.Direction) (defaultField : String) :
    sortKeys (some defaultField) direction defaultField = [⟨defaultField, direction⟩] := by
  unfold sortKeys
  split
  · rfl
  · next field hfield =>
      have heq : field = defaultField := (Option.some.inj (Option.filter_eq_some_iff.mp hfield).1).symm
      rw [if_pos heq, heq]

/-- Where the default field tells all documents apart, every request has the same answer in whatever
order they are stored; and asking for the default field alone sorts any documents as if it were the
last key too. -/
theorem find_arrangement (params : Parameters) (config : Config) (p : Filter.Predicate)
    (documents : List Json) :
    let options := findOptions params config
    (documents.Pairwise (fun x y => Query.compareAt config.defaultSortField x y ≠ .eq) →
      ∀ other, other.Perm documents →
        Query.find other p options = Query.find documents p options) ∧
    (params.sortField = some config.defaultSortField →
      Query.find documents p options =
        Query.find documents p
          { options with
            sort := [⟨config.defaultSortField, direction params.sortDirection⟩,
              ⟨config.defaultSortField, .ascending⟩] }) := by
  intro options
  constructor
  · intro hapart other hperm
    obtain ⟨key, hmem, hfield⟩ :=
      exists_mem_sortKeys params.sortField (direction params.sortDirection) config.defaultSortField
    exact Query.find_eq_of_perm p hmem (hfield ▸ hapart) hperm
  · intro hfield
    have hsort : options.sort = [⟨config.defaultSortField, direction params.sortDirection⟩] := by
      simp only [options, findOptions, hfield, sortKeys_default]
    refine (Query.find_congr_sort documents p options ?_).symm
    rw [hsort]
    exact Query.compareByKeys_concat (List.mem_singleton_self _) rfl

/-- Four documents that have a token of one kind or another or none, by their rarity and by their
token. -/
theorem find_arrangement_mixed :
    let document : List (String × Json) → Json := .object
    let rare : String × Json := ("rarity", .number (.decimal (.ofInt 5)))
    let documents := [document [("tokenid", .string "b")], document [rare],
      document [("tokenid", .bool true)], document [("tokenid", .string "a"), rare]]
    let byRarity : Parameters :=
      { take := some "3", sortField := some "rarity", sortDirection := some "desc" }
    let byToken : Parameters := { sortField := some "tokenid", sortDirection := some "desc" }
    (documents.Pairwise (fun x y => Query.compareAt "tokenid" x y ≠ .eq) ∧
        byToken.sortField = some ({} : Config).defaultSortField) ∧
      Query.find documents.reverse .empty (findOptions byRarity {}) =
        Query.find documents .empty (findOptions byRarity {}) ∧
      Query.find documents .empty (findOptions byToken {}) =
        Query.find documents .empty
          { findOptions byToken {} with
            sort := [⟨"tokenid", .descending⟩, ⟨"tokenid", .ascending⟩] } := by
  intro document rare documents byRarity byToken
  have hapart : documents.Pairwise fun x y => Query.compareAt "tokenid" x y ≠ .eq := by
    decide +kernel
  exact ⟨⟨hapart, rfl⟩,
    (find_arrangement byRarity {} .empty documents).1 hapart _ documents.reverse_perm,
    (find_arrangement byToken {} .empty documents).2 rfl⟩

end Service
end DocumentCatalog
