import DocumentCatalog.Proofs.Query.Ranking
import DocumentCatalog.Proofs.Query.Sorting
import DocumentCatalog.Proofs.Service.Constraints

/-!
Answers to narrower questions. Demanding more of documents leaves some of them out of the sorted
answer and moves no other one, whether the keys tell them apart or not; so a request that is given
one more demand has a part of the answer that it had.
-/

namespace DocumentCatalog
namespace Query

open DocumentCatalog.Filter (Predicate)

variable (documents : List Json) (p q : Predicate) (keys : List SortKey)

theorem matching_allOf :
    matching documents (.allOf [p, q]) =
      (matching documents p).filter fun i => q.selects (documents.get i) := by
  rw [matching, matching, List.filter_filter]
  apply List.filter_congr
  intro i _
  rw [Bool.eq_iff_iff, Predicate.selects_allOf_iff]
  simp [and_comm]

variable {documents p keys}

/-- Leaving positions out keeps the order of the others, and which of two level ones is first. -/
theorem Ranking.narrow {positions : List (Fin documents.length)}
    (h : Ranking documents p keys positions) :
    Ranking documents (.allOf [p, q]) keys
      (positions.filter fun i => q.selects (documents.get i)) where
  perm := by
    rw [matching_allOf]
    exact h.perm.filter _
  sorted := h.sorted.filter _
  stable := h.stable.filter _

variable (documents p keys)

theorem sorted_allOf :
    sorted keys (documents.filter (Predicate.allOf [p, q]).selects) =
      (sorted keys (documents.filter p.selects)).filter q.selects := by
  -- equal documents have different positions, so of positions there is only one ranking
  have hranked := (ranking_ranked documents p keys).narrow q
  rw [← map_get_ranked, ← map_get_ranked, hranked.unique (ranking_ranked documents _ keys),
    List.filter_map]
  rfl

/-- The answer to two demands is cut from the sorted answer to the first one. -/
theorem find_allOf (options : Options) :
    find documents (.allOf [p, q]) options =
      (page options.skip options.limit
        ((find documents p { sort := options.sort }).filter q.selects)).map
          (without options.exclude) := by
  rw [find_whole, ← sorted_allOf]
  rfl

theorem find_find :
    find (find documents p { sort := keys }) q { sort := keys } =
      (find documents p { sort := keys }).filter q.selects := by
  have hsorted : sorted keys ((sorted keys (documents.filter p.selects)).filter q.selects) =
      (sorted keys (documents.filter p.selects)).filter q.selects :=
    List.mergeSort_of_pairwise ((pairwise_sorted keys _).filter _)
  rw [find_whole, find_whole, hsorted]

end Query

namespace Service

open DocumentCatalog.Filter (Predicate)

variable {params : Parameters} {config : Config}

/-- What one parameter of a request asks of documents, if it asks anything. -/
def demand? (params : Parameters) (config : Config) : Parameter → Option Predicate
  | .filter => filterDemand? params
  | .ids => idsDemand? params config
  | .search => searchDemand? params config
  | .page | .take | .sortField | .sortDirection => none

theorem selects_allOf_more {predicates others more : List Predicate}
    (h : ∀ p, p ∈ predicates ↔ p ∈ others ∨ p ∈ more) (document : Json) :
    (Predicate.allOf predicates).selects document =
      (Predicate.allOf [.allOf others, .allOf more]).selects document := by
  rw [Bool.eq_iff_iff]
  simp [Predicate.selects_allOf_iff, h, or_imp, forall_and]

theorem selects_requestPredicate_set {parameter : Parameter}
    (habsent : params.get? parameter = none) (text : String) (document : Json) :
    (requestPredicate (params.set text parameter) config).selects document =
      (Predicate.allOf [requestPredicate params config,
        .allOf (demand? (params.set text parameter) config parameter).toList]).selects
          document := by
  rw [requestPredicate_eq, requestPredicate_eq]
  apply selects_allOf_more
  intro p
  simp only [List.mem_append, Option.mem_toList]
  cases parameter with
  | page | take | sortField | sortDirection =>
      simp only [demand?, reduceCtorEq, or_false]
      rfl
  | filter =>
      have hids : idsDemand? (params.set text .filter) config = idsDemand? params config := rfl
      have hsearch : searchDemand? (params.set text .filter) config = searchDemand? params config :=
        rfl
      rw [hids, hsearch, filterDemand?_of_absent params habsent, demand?]
      simp only [reduceCtorEq, false_or]
      exact or_assoc.trans or_comm
  | ids =>
      have hfilter : filterDemand? (params.set text .ids) = filterDemand? params := rfl
      have hsearch : searchDemand? (params.set text .ids) config = searchDemand? params config :=
        rfl
      rw [hfilter, hsearch, idsDemand?_of_absent params config habsent, demand?]
      simp only [reduceCtorEq, or_false]
      exact or_right_comm
  | search =>
      have hfilter : filterDemand? (params.set text .search) = filterDemand? params := rfl
      have hids : idsDemand? (params.set text .search) config = idsDemand? params config := rfl
      rw [hfilter, hids, searchDemand?_of_absent params config habsent, demand?]
      simp only [reduceCtorEq, or_false]

/-- Demanding two things has the sorted answer to the first of them, without the documents that do
not meet the second; it is the same to ask for the second among those of the first. In particular a
request that is given one more parameter has a part of the answer that it had, in the same order. -/
theorem find_narrowed (documents : List Json) (keys : List Query.SortKey) :
    let answer : Predicate → List Json := fun p => Query.find documents p { sort := keys }
    (∀ p q, answer (.allOf [p, q]) = (answer p).filter q.selects ∧
      answer (.allOf [p, q]) = Query.find (answer p) q { sort := keys }) ∧
    ∀ (params : Parameters) (config : Config) (parameter : Parameter) (text : String),
      params.get? parameter = none →
        answer (requestPredicate (params.set text parameter) config) =
          (answer (requestPredicate params config)).filter
            (Predicate.allOf
              (demand? (params.set text parameter) config parameter).toList).selects := by
  intro answer
  have hnarrow : ∀ p q, answer (.allOf [p, q]) = (answer p).filter q.selects := by
    intro p q
    simp only [answer, Query.find_allOf, Query.page, Query.without_nil, List.map_id, List.drop_zero]
  constructor
  · intro p q
    exact ⟨hnarrow p q, (hnarrow p q).trans (Query.find_find documents p q keys).symm⟩
  · intro params config parameter text habsent
    rw [← hnarrow]
    apply Query.find_congr
    intro document _
    exact selects_requestPredicate_set habsent text document

/-- Documents that the key does not all tell apart, and a request that is given a list of ids. -/
theorem find_narrowed_ids :
    let document : String → String → Json := fun id hat =>
      .object [("tokenid", .string id), ("hat", .string hat)]
    let documents := [document "d" "yellow", document "b" "red", document "a" "red",
      document "c" "blue"]
    let keys : List Query.SortKey := [⟨"hat", .descending⟩]
    let answer : Predicate → List Json := fun p => Query.find documents p { sort := keys }
    let params : Parameters := { filter := some "hat_or_red_blue" }
    params.get? .ids = none ∧
      answer (requestPredicate params {}) =
        [document "b" "red", document "a" "red", document "c" "blue"] ∧
      answer (requestPredicate (params.set "a, b, d" .ids) {}) =
        [document "b" "red", document "a" "red"] := by
  intro document documents keys answer params
  have habsent : params.get? .ids = none := rfl
  have hfilter : requestPredicate params {} = .ofEntries [("$or",
      .array [.object [("hat", .string "red")], .object [("hat", .string "blue")]])] := rfl
  have hids : (demand? (params.set "a, b, d" .ids) {} .ids).toList = [.equals "tokenid"
      (.object [("$in", .array [.string "a", .string "b", .string "d"])])] := rfl
  have hanswer : answer (requestPredicate params {}) =
      [document "b" "red", document "a" "red", document "c" "blue"] := by
    rw [hfilter]
    refine (Query.find_whole documents _ keys).trans ?_
    exact List.mergeSort_of_pairwise (by decide)
  obtain ⟨-, hrequest⟩ := find_narrowed documents keys
  refine ⟨habsent, hanswer, ?_⟩
  refine (hrequest params {} .ids "a, b, d" habsent).trans ?_
  rw [hids]
  exact congrArg (List.filter _) hanswer

end Service
end DocumentCatalog
