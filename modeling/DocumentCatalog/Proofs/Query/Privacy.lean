import DocumentCatalog.Proofs.Query.Find
import DocumentCatalog.Proofs.Query.Projection
import DocumentCatalog.Proofs.Query.Reading
import DocumentCatalog.Proofs.Text.Split
import Mathlib.Data.List.Forall2

/-!
The fields that are left out of an answer. Removing members of a document changes nothing for the
paths that do not read them, so an answer can be computed from the documents without these members:
what they hold has no influence on it.
-/

namespace DocumentCatalog
namespace Query

open Json (Alike)

/-- Whether looking up a path asks a document for the member of a key. -/
def Reads (path key : String) : Prop :=
  key = path ∨ '.' ∈ path.toList ∧ key = (Text.splitFirst '.' path).1

instance (path key : String) : Decidable (Reads path key) :=
  inferInstanceAs (Decidable (_ ∨ _ ∧ _))

variable {x y : Json} {exclude : List String} {path : String}

/-- Looking up a path asks a document for two members at most. -/
theorem lookup?_congr (h : ∀ key, Reads path key → x.member? key = y.member? key) :
    lookup? x path = lookup? y path := by
  have hhead := Text.head?_split '.' path
  have hjoin := Text.join_split '.' path
  have hfirst : x.member? (Text.splitFirst '.' path).1 =
      y.member? (Text.splitFirst '.' path).1 := by
    by_cases hpoint : '.' ∈ path.toList
    · exact h _ (.inr ⟨hpoint, rfl⟩)
    · rw [Text.split_of_not_mem hpoint] at hhead
      exact h _ (.inl (Option.some.inj hhead).symm)
  unfold lookup?
  cases hsplit : Text.split '.' path with
  | nil => rfl
  | cons first rest =>
      rw [hsplit] at hhead hjoin
      cases hhead
      rw [resolve?_cons, resolve?_cons, hjoin, h path (.inl rfl), hfirst]

theorem lookup?_without (h : x.Distinct) (hpath : ∀ key ∈ exclude, ¬ Reads path key) :
    lookup? (without exclude x) path = lookup? x path := by
  apply lookup?_congr
  intro key hreads
  rw [member?_without h, if_neg fun hkey => hpath key hkey hreads]

theorem alikeAt_of_without (hx : x.Distinct) (hy : y.Distinct)
    (h : Alike (without exclude x) (without exclude y))
    (hpath : ∀ key ∈ exclude, ¬ Reads path key) : AlikeAt x y path := by
  unfold AlikeAt
  rw [← lookup?_without hx hpath, ← lookup?_without hy hpath]
  exact alikeAt h path

/-- The answers from two lists of documents that selecting and sorting do not tell apart come from
the same places. -/
theorem exists_answer (p : Filter.Predicate) (options : Options) (pairs : List (Json × Json))
    (hselects : ∀ pair ∈ pairs, p.selects pair.1 = p.selects pair.2)
    (hcompare : ∀ pair ∈ pairs, ∀ other ∈ pairs,
      compareByKeys options.sort pair.1 other.1 = compareByKeys options.sort pair.2 other.2) :
    ∃ answer, answer ⊆ pairs ∧
      find (pairs.map (·.1)) p options = answer.map (without options.exclude ·.1) ∧
      find (pairs.map (·.2)) p options = answer.map (without options.exclude ·.2) := by
  obtain ⟨answer, hsubset, hanswer⟩ := exists_page options.skip options.limit
    ((pairs.filter fun pair => p.selects pair.1).mergeSort fun pair other =>
      (compareByKeys options.sort pair.1 other.1).isLE)
  refine ⟨answer, ?_, ?_, ?_⟩
  · intro pair hpair
    exact (List.mem_filter.mp (List.mem_mergeSort.mp (hsubset hpair))).1
  · rw [find, sorted_filter_map p options.sort pairs (·.1) _ _ (fun _ _ => rfl)
      (fun _ _ _ _ => rfl), hanswer, List.map_map]
    rfl
  · rw [find, sorted_filter_map p options.sort pairs (·.2) _ _
      (fun pair hpair => (hselects pair hpair).symm)
      (fun pair hpair other hother =>
        (congrArg Ordering.isLE (hcompare pair hpair other hother)).symm),
      hanswer, List.map_map]
    rfl

/-- A relation between the public parts of documents, finer than being alike, holds between the
answers. -/
theorem forall₂_find {documents others : List Json} {p : Filter.Predicate} {options : Options}
    {r : Json → Json → Prop} (hr : ∀ x y, r x y → Alike x y)
    (hdocuments : ∀ document ∈ documents, document.Distinct)
    (hothers : ∀ document ∈ others, document.Distinct)
    (hpublic : ∀ path ∈ paths p.entries ++ options.sort.map (·.field),
      ∀ key ∈ options.exclude, ¬ Reads path key)
    (h : List.Forall₂ r (documents.map (without options.exclude))
      (others.map (without options.exclude))) :
    List.Forall₂ r (find documents p options) (find others p options) := by
  -- Both lists are taken as one list of pairs, so that a single order serves the two answers.
  rw [List.forall₂_map_left_iff, List.forall₂_map_right_iff, List.forall₂_iff_zip] at h
  obtain ⟨hlength, hrelated⟩ := h
  have hat : ∀ pair ∈ documents.zip others,
      ∀ path ∈ paths p.entries ++ options.sort.map (·.field), AlikeAt pair.1 pair.2 path := by
    intro pair hpair path hpath
    have hmem := List.of_mem_zip hpair
    exact alikeAt_of_without (hdocuments _ hmem.1) (hothers _ hmem.2) (hr _ _ (hrelated hpair))
      (hpublic path hpath)
  have hfields : ∀ pair ∈ documents.zip others, ∀ key ∈ options.sort,
      AlikeAt pair.1 pair.2 key.field := by
    intro pair hpair key hkey
    exact hat pair hpair _ (List.mem_append_right _ (List.mem_map_of_mem hkey))
  obtain ⟨answer, hsubset, hfirst, hsecond⟩ := exists_answer p options (documents.zip others)
    (fun pair hpair => selects_congr p.entries fun path hpath =>
      hat pair hpair path (List.mem_append_left _ hpath))
    (fun pair hpair other hother => compareByKeys_congr options.sort (hfields pair hpair)
      (hfields other hother))
  rw [List.map_fst_zip hlength.le] at hfirst
  rw [List.map_snd_zip hlength.ge] at hsecond
  rw [hfirst, hsecond, List.forall₂_map_left_iff, List.forall₂_map_right_iff, List.forall₂_same]
  intro pair hpair
  exact hrelated (hsubset hpair)

/-- Where no condition and no sort key reads a field that is left out, documents that are the same
without these fields give the same answer, also where the same is meant up to the order of members.
Whatever is read, no object of an answer has a field that is left out. -/
theorem find_private (documents : List Json) (p : Filter.Predicate) (options : Options)
    (hdocuments : ∀ document ∈ documents, document.Distinct) :
    (∀ others : List Json, (∀ document ∈ others, document.Distinct) →
      (∀ path ∈ paths p.entries ++ options.sort.map (·.field),
        ∀ key ∈ options.exclude, ¬ Reads path key) →
      (documents.map (without options.exclude) = others.map (without options.exclude) →
        find documents p options = find others p options) ∧
      (List.Forall₂ Alike (documents.map (without options.exclude))
          (others.map (without options.exclude)) →
        List.Forall₂ Alike (find documents p options) (find others p options))) ∧
    ∀ members, .object members ∈ find documents p options →
      ∀ key ∈ options.exclude, key ∉ Entries.keys members := by
  constructor
  · intro others hothers hpublic
    constructor
    · intro hsame
      rw [← List.forall₂_eq_eq_eq] at hsame ⊢
      refine forall₂_find ?_ hdocuments hothers hpublic hsame
      rintro x _ rfl
      exact .refl x
    · exact forall₂_find (fun _ _ halike => halike) hdocuments hothers hpublic
  · intro members hmembers key hkey
    obtain ⟨document, hdocument, hwithout⟩ := mem_find hmembers
    exact not_mem_keys_without (hdocuments document hdocument) hwithout hkey

/-- Two collections that differ in the identifiers of their documents, which are left out. -/
theorem find_private_identifiers :
    let document : String → String → Int → Json := fun id hat n =>
      .object [("_id", .string id), ("traits", .object [("hat", .string hat)]),
        ("tokenid", .number (.decimal (.ofInt n)))]
    let documents := [document "a" "red" 1, document "b" "blue" 2, document "c" "red" 3]
    let others := [document "x" "red" 1, document "y" "blue" 2, document "z" "red" 3]
    let p := Filter.Predicate.ofEntries
      [("$or", .array [.object [("traits.hat", .string "red")], .object [("hat", .string "red")]])]
    let options : Options := { sort := [⟨"tokenid", .descending⟩], exclude := ["_id"] }
    documents ≠ others ∧ documents.map (without ["_id"]) = others.map (without ["_id"]) ∧
      find documents p options = find others p options ∧
      ∀ members, .object members ∈ find documents p options → "_id" ∉ Entries.keys members := by
  intro document documents others p options
  have hdocuments : ∀ document ∈ documents, document.Distinct := by decide
  have hothers : ∀ document ∈ others, document.Distinct := by decide
  have hpublic : ∀ path ∈ paths p.entries ++ options.sort.map (·.field),
      ∀ key ∈ options.exclude, ¬ Reads path key := by decide
  have hsame : documents.map (without ["_id"]) = others.map (without ["_id"]) := rfl
  obtain ⟨hfind, hkeys⟩ := find_private documents p options hdocuments
  refine ⟨?_, hsame, (hfind others hothers hpublic).1 hsame, ?_⟩
  · simp [documents, others, document]
  · intro members hmembers
    exact hkeys members hmembers "_id" List.mem_cons_self

end Query
end DocumentCatalog
