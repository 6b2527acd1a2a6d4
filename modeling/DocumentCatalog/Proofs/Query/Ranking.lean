import DocumentCatalog.Proofs.Query.Find
import DocumentCatalog.Proofs.Query.Order
import Mathlib.Logic.ExistsUnique

/-!
The order of an answer. Of all ways to put the selected documents in order there is one in which the
keys never fall and documents that the keys do not tell apart keep their places; an answer is a
piece of it.
-/

namespace DocumentCatalog
namespace Query

variable (documents : List Json) (p : Filter.Predicate) (keys : List SortKey)

/-- The positions of the documents that the predicate selects. -/
def matching : List (Fin documents.length) :=
  (List.finRange documents.length).filter fun i => p.selects (documents.get i)

/-- The positions of the selected documents in the order of the keys, and in their own order where
the keys are level. -/
structure Ranking (positions : List (Fin documents.length)) : Prop where
  perm : positions.Perm (matching documents p)
  sorted : positions.Pairwise fun i j =>
    Precedes keys (documents.get i) (documents.get j) ∨
      Level keys (documents.get i) (documents.get j)
  stable : positions.Pairwise fun i j =>
    Level keys (documents.get i) (documents.get j) → i < j

/-- The positions of the selected documents as they are sorted. -/
def ranked : List (Fin documents.length) :=
  (matching documents p).mergeSort fun i j =>
    (compareByKeys keys (documents.get i) (documents.get j)).isLE

theorem map_get_ranked :
    (ranked documents p keys).map documents.get = sorted keys (documents.filter p.selects) := by
  have hall : (List.finRange documents.length).map documents.get = documents := by
    apply List.ext_getElem <;> simp
  conv => rhs; rw [← hall]
  exact (sorted_filter_map p keys _ documents.get _ _ (fun _ _ => rfl) fun _ _ _ _ => rfl).symm

theorem pairwise_lt_matching : (matching documents p).Pairwise (· < ·) :=
  (List.pairwise_lt_finRange documents.length).filter _

theorem isLE_trans (i j k : Fin documents.length)
    (hij : (compareByKeys keys (documents.get i) (documents.get j)).isLE = true)
    (hjk : (compareByKeys keys (documents.get j) (documents.get k)).isLE = true) :
    (compareByKeys keys (documents.get i) (documents.get k)).isLE = true :=
  Std.TransCmp.isLE_trans hij hjk

theorem isLE_total (i j : Fin documents.length) :
    ((compareByKeys keys (documents.get i) (documents.get j)).isLE ||
      (compareByKeys keys (documents.get j) (documents.get i)).isLE) = true :=
  isLE_compareByKeys_total _ _

theorem ranked_perm : (ranked documents p keys).Perm (matching documents p) :=
  List.mergeSort_perm _ _

/-- Whether the keys are level on the documents at two positions. -/
def levelAt (i j : Fin documents.length) : Bool :=
  compareByKeys keys (documents.get i) (documents.get j) == .eq

theorem levelAt_iff {i j : Fin documents.length} :
    levelAt documents keys i j = true ↔ Level keys (documents.get i) (documents.get j) := by
  rw [levelAt, beq_iff_eq, compareByKeys_eq_eq_iff]

/-- Sorting changes nothing among the documents that are level with a given one. -/
theorem filter_level_ranked (i : Fin documents.length) :
    (ranked documents p keys).filter (levelAt documents keys i) =
      (matching documents p).filter (levelAt documents keys i) := by
  have hlevel : ((matching documents p).filter (levelAt documents keys i)).Pairwise fun j k =>
      (compareByKeys keys (documents.get j) (documents.get k)).isLE = true := by
    rw [List.pairwise_iff_forall_sublist]
    intro j k hsub
    have hmem : ∀ l ∈ [j, k], Level keys (documents.get i) (documents.get l) :=
      fun l hl => (levelAt_iff documents keys).mp (List.mem_filter.mp (hsub.mem hl)).2
    have hj := hmem j List.mem_cons_self
    have hk := hmem k (List.mem_cons_of_mem _ List.mem_cons_self)
    exact isLE_compareByKeys_iff.mpr (.inr (hj.symm.trans hk))
  have hsub := List.sublist_mergeSort (isLE_trans documents keys) (isLE_total documents keys) hlevel
    List.filter_sublist
  have hkept := hsub.filter (levelAt documents keys i)
  rw [List.filter_filter] at hkept
  simp only [Bool.and_self] at hkept
  have hlength := ((ranked_perm documents p keys).filter (levelAt documents keys i)).length_eq
  exact (hkept.eq_of_length hlength.symm).symm

theorem ranking_ranked : Ranking documents p keys (ranked documents p keys) := by
  refine ⟨ranked_perm documents p keys, ?_, ?_⟩
  · exact (List.pairwise_mergeSort (isLE_trans documents keys) (isLE_total documents keys) _).imp
      isLE_compareByKeys_iff.mp
  · rw [List.pairwise_iff_forall_sublist]
    intro i j hsub hlevel
    have hi := (levelAt_iff documents keys).mpr (level_refl keys (documents.get i))
    have hj := (levelAt_iff documents keys).mpr hlevel
    have hkept := hsub.filter (levelAt documents keys i)
    rw [filter_level_ranked, List.filter_cons_of_pos hi, List.filter_cons_of_pos hj,
      List.filter_nil] at hkept
    exact List.pairwise_iff_forall_sublist.mp (pairwise_lt_matching documents p)
      (hkept.trans List.filter_sublist)

variable {documents p keys}

theorem Ranking.unique {positions other : List (Fin documents.length)}
    (h : Ranking documents p keys positions) (h' : Ranking documents p keys other) :
    other = positions := by
  refine List.Perm.eq_of_pairwise ?_ (h'.sorted.and h'.stable) (h.sorted.and h.stable)
    (h'.perm.trans h.perm.symm)
  rintro i j - - ⟨hij, hbefore⟩ ⟨hji, hafter⟩
  rcases hij with hij | hij
  · exact absurd hji hij.asymm
  · exact absurd (hbefore hij) (Nat.lt_asymm (hafter hij.symm))

theorem ranking_iff {positions : List (Fin documents.length)} :
    Ranking documents p keys positions ↔
      positions.Perm (matching documents p) ∧
      positions.Pairwise (fun i j =>
        (compareByKeys keys (documents.get i) (documents.get j)).isLE = true) ∧
      positions.Pairwise (fun i j =>
        compareByKeys keys (documents.get i) (documents.get j) = .eq → i < j) := by
  simp only [isLE_compareByKeys_iff, compareByKeys_eq_eq_iff]
  constructor
  · intro h
    exact ⟨h.perm, h.sorted, h.stable⟩
  · rintro ⟨hperm, hsorted, hstable⟩
    exact ⟨hperm, hsorted, hstable⟩

instance (positions : List (Fin documents.length)) :
    Decidable (Ranking documents p keys positions) :=
  decidable_of_iff' _ ranking_iff

theorem ranking_nil : Ranking documents p [] (matching documents p) := by
  refine ⟨List.Perm.refl _, (pairwise_lt_matching documents p).imp ?_,
    (pairwise_lt_matching documents p).imp ?_⟩
  · intro i j _
    exact .inr (by simp [Level])
  · intro i j hlt _
    exact hlt

variable (documents p)

/-- There is exactly one ranking of the selected documents, the one in their own order if there are
no keys; and an answer without hidden fields is the piece of it that the options ask for. -/
theorem find_ranked (options : Options) (hexclude : options.exclude = []) :
    (∃! positions, Ranking documents p options.sort positions) ∧
    ∀ positions, Ranking documents p options.sort positions →
      (options.limit = none →
        find documents p options = (positions.drop options.skip).map documents.get) ∧
      (∀ limit, options.limit = some limit →
        find documents p options =
          ((positions.drop options.skip).take limit).map documents.get) ∧
      (options.sort = [] → positions = matching documents p) := by
  have hranked := ranking_ranked documents p options.sort
  refine ⟨⟨_, hranked, fun _ => hranked.unique⟩, ?_⟩
  intro positions hpositions
  have hkeep : without [] = id := by
    funext document
    cases document <;> rfl
  have hfind : find documents p options =
      page options.skip options.limit (positions.map documents.get) := by
    rw [hranked.unique hpositions, map_get_ranked, find, hexclude, hkeep, List.map_id]
  refine ⟨?_, ?_, ?_⟩
  · intro hlimit
    rw [hfind, hlimit, page, List.map_drop]
  · intro limit hlimit
    rw [hfind, hlimit, page, List.map_take, List.map_drop]
  · intro hsort
    rw [hsort] at hpositions
    exact ranking_nil.unique hpositions

/-- Four documents of which one is missing the field and two are level, the greatest first. -/
theorem find_ranked_level :
    let document : Int → List (String × Json) → Json := fun n more =>
      .object (("tokenid", .number (.decimal (.ofInt n))) :: more)
    let rarity : Int → List (String × Json) := fun n => [("rarity", .number (.decimal (.ofInt n)))]
    let documents := [document 1 (rarity 5), document 2 (rarity 8), document 3 [],
      document 4 (rarity 5)]
    let position : ∀ i, i < 4 → Fin documents.length := fun i h => ⟨i, h⟩
    let positions := [position 1 (by decide), position 0 (by decide), position 3 (by decide),
      position 2 (by decide)]
    let options : Options :=
      { limit := some 2, skip := 1, sort := [⟨"rarity", .descending⟩] }
    options.exclude = [] ∧ Ranking documents .empty options.sort positions ∧
      find documents .empty options = [document 1 (rarity 5), document 4 (rarity 5)] := by
  intro document rarity documents position positions options
  have hranking : Ranking documents .empty options.sort positions := by decide +kernel
  exact ⟨rfl, hranking, ((find_ranked documents .empty options rfl).2 _ hranking).2.1 2 rfl⟩

end Query
end DocumentCatalog
