import DocumentCatalog.Query.Find

/-!
Selecting, sorting and paging move documents about without looking into them otherwise, so they can
be done on anything that stands for the documents.
-/

namespace DocumentCatalog
namespace Query

theorem exists_page {α : Type} (skip : Nat) (limit : Option Nat) (items : List α) :
    ∃ kept, kept ⊆ items ∧ ∀ f : α → Json, page skip limit (items.map f) = kept.map f := by
  cases limit with
  | none => exact ⟨items.drop skip, List.drop_subset _ _, fun f => by rw [page, List.map_drop]⟩
  | some limit =>
      refine ⟨(items.drop skip).take limit, ?_, fun f => by rw [page, List.map_take, List.map_drop]⟩
      exact List.Subset.trans (List.take_subset _ _) (List.drop_subset _ _)

/-- Sorting and selecting the images of some items by what the items say of them. -/
theorem sorted_filter_map {α : Type} (p : Filter.Predicate) (keys : List SortKey) (items : List α)
    (f : α → Json) (selected : α → Bool) (le : α → α → Bool)
    (hselected : ∀ item ∈ items, p.selects (f item) = selected item)
    (hle : ∀ item ∈ items, ∀ other ∈ items,
      (compareByKeys keys (f item) (f other)).isLE = le item other) :
    sorted keys ((items.map f).filter p.selects) =
      ((items.filter selected).mergeSort le).map f := by
  have hfilter : (items.map f).filter p.selects = (items.filter selected).map f := by
    rw [List.filter_map]
    exact congrArg _ (List.filter_congr hselected)
  rw [hfilter, sorted]
  symm
  apply List.map_mergeSort
  intro item hitem other hother
  exact (hle item (List.mem_filter.mp hitem).1 other (List.mem_filter.mp hother).1).symm

/-- Predicates that select the same documents have the same answers. -/
theorem find_congr {documents : List Json} {p q : Filter.Predicate}
    (h : ∀ document ∈ documents, p.selects document = q.selects document) (options : Options) :
    find documents p options = find documents q options := by
  unfold find
  rw [List.filter_congr h]

theorem without_nil : without [] = id := by
  funext document
  cases document <;> rfl

/-- An answer of which nothing is left out is all that was selected, sorted. -/
theorem find_whole (documents : List Json) (p : Filter.Predicate) (keys : List SortKey) :
    find documents p { sort := keys } = sorted keys (documents.filter p.selects) := by
  rw [find, without_nil, List.map_id, page, List.drop_zero]

theorem mem_find {documents : List Json} {p : Filter.Predicate} {options : Options} {result : Json}
    (h : result ∈ find documents p options) :
    ∃ document ∈ documents, without options.exclude document = result := by
  obtain ⟨kept, hsubset, hkept⟩ := exists_page options.skip options.limit
    (sorted options.sort (documents.filter p.selects))
  have hpage := hkept id
  rw [List.map_id, List.map_id] at hpage
  rw [find, hpage] at h
  obtain ⟨document, hdocument, hresult⟩ := List.mem_map.mp h
  exact ⟨document, (List.mem_filter.mp (List.mem_mergeSort.mp (hsubset hdocument))).1, hresult⟩

end Query
end DocumentCatalog
