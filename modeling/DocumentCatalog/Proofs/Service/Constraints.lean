import DocumentCatalog.Proofs.Filter.Token
import DocumentCatalog.Proofs.Query.Selection
import DocumentCatalog.Proofs.Text.Split
import DocumentCatalog.Service.Constraints

/-!
What a request asks of documents. Its filter, its ids and its free text are demanded side by side:
a document is selected exactly when it meets each of them, and a parameter of which nothing is left
changes nothing.
-/

namespace DocumentCatalog
namespace Filter

/-- Blanks separate nothing, so a blank filter is a single token of a single part. -/
theorem isEmpty_compile_of_blank {filter : String} (h : Text.trim filter = "") :
    (Compiler.standard.compile filter).isEmpty = true := by
  have hblank := (Text.trim_eq_empty_iff filter).mp h
  have htokens : Compiler.standard.tokens filter = [filter] :=
    Text.split_of_not_mem fun hmem => absurd (hblank ';' hmem) (by decide)
  have hparts : Compiler.standard.parts filter = [filter] :=
    Text.split_of_not_mem fun hmem => absurd (hblank '_' hmem) (by decide)
  have hexpressions : Compiler.standard.expressions filter = [] := by
    rw [List.eq_nil_iff_forall_not_mem]
    intro e he
    obtain ⟨token, htoken, hclass⟩ := Compiler.mem_expressions_iff.mp he
    rw [htokens, List.mem_singleton] at htoken
    subst htoken
    rw [Compiler.classify, hparts, Compiler.classifyParts_few _ _ (by simp)] at hclass
    cases hclass
  unfold Compiler.compile Compiler.run
  rw [hexpressions]
  rfl

end Filter

namespace Service

open DocumentCatalog.Filter (Predicate Compiler)

/-- What each parameter of a request asks of a document. -/
structure Demands (params : Parameters) (config : Config) (document : Json) : Prop where
  filter : ∀ filter, params.filter = some filter →
    (Compiler.standard.compile filter).selects document = true
  ids : ∀ ids, params.ids = some ids → ∀ p, idsPredicate? (Text.trim ids) config.idField = some p →
    p.selects document = true
  search : ∀ search, params.search = some search → Text.trim search ≠ "" →
    ∀ p, searchPredicate? (Text.trim search) config.searchableFields = some p →
      p.selects document = true

/-- Whether nothing is left to demand of a parameter with this text. -/
def Idle (config : Config) : Parameter → String → Prop
  | .filter, text => Text.trim text = "" ∨ (Compiler.standard.compile text).isEmpty = true
  | .ids, text => idsPredicate? (Text.trim text) config.idField = none
  | .search, text =>
      Text.trim text = "" ∨ searchPredicate? (Text.trim text) config.searchableFields = none
  | .page, _ | .take, _ | .sortField, _ | .sortDirection, _ => True

def filterDemand? (params : Parameters) : Option Predicate :=
  (compiledFilter? params).map (·.predicate)

def idsDemand? (params : Parameters) (config : Config) : Option Predicate :=
  (nonBlank? params.ids).bind (idsPredicate? · config.idField)

def searchDemand? (params : Parameters) (config : Config) : Option Predicate :=
  (nonBlank? params.search).bind (searchPredicate? · config.searchableFields)

variable {params : Parameters} {config : Config} {p : Predicate}

theorem requestPredicate_eq (params : Parameters) (config : Config) :
    requestPredicate params config = .allOf ((filterDemand? params).toList ++
      (idsDemand? params config).toList ++ (searchDemand? params config).toList) :=
  rfl

theorem nonBlank?_eq_some_iff {text : Option String} {trimmed : String} :
    nonBlank? text = some trimmed ↔ ∃ s, text = some s ∧ trimmed ≠ "" ∧ Text.trim s = trimmed := by
  unfold nonBlank?
  cases text with
  | none => simp
  | some s => simp [Option.filter_eq_some_iff, and_comm]

theorem filterDemand?_eq_some_iff :
    filterDemand? params = some p ↔ ∃ filter, params.filter = some filter ∧
      Text.trim filter ≠ "" ∧ Compiler.standard.compile filter = p := by
  unfold filterDemand? compiledFilter?
  cases params.filter with
  | none => simp
  | some filter => simp [Option.filter_eq_some_iff, Compiler.compile, and_assoc]

theorem idsDemand?_eq_some_iff :
    idsDemand? params config = some p ↔ ∃ ids, params.ids = some ids ∧
      idsPredicate? (Text.trim ids) config.idField = some p := by
  unfold idsDemand?
  rw [Option.bind_eq_some_iff]
  constructor
  · rintro ⟨_, htrimmed, hp⟩
    obtain ⟨ids, hids, _, rfl⟩ := nonBlank?_eq_some_iff.mp htrimmed
    exact ⟨ids, hids, hp⟩
  · rintro ⟨ids, hids, hp⟩
    refine ⟨Text.trim ids, nonBlank?_eq_some_iff.mpr ⟨ids, hids, ?_, rfl⟩, hp⟩
    intro hblank
    rw [hblank] at hp
    cases hp

theorem searchDemand?_eq_some_iff :
    searchDemand? params config = some p ↔ ∃ search, params.search = some search ∧
      Text.trim search ≠ "" ∧
      searchPredicate? (Text.trim search) config.searchableFields = some p := by
  unfold searchDemand?
  rw [Option.bind_eq_some_iff]
  constructor
  · rintro ⟨_, htrimmed, hp⟩
    obtain ⟨search, hsearch, hne, rfl⟩ := nonBlank?_eq_some_iff.mp htrimmed
    exact ⟨search, hsearch, hne, hp⟩
  · rintro ⟨search, hsearch, hne, hp⟩
    exact ⟨Text.trim search, nonBlank?_eq_some_iff.mpr ⟨search, hsearch, hne, rfl⟩, hp⟩

theorem selects_iff_demands (params : Parameters) (config : Config) (document : Json) :
    (requestPredicate params config).selects document = true ↔ Demands params config document := by
  rw [requestPredicate_eq, Predicate.selects_allOf_iff]
  simp only [List.mem_append, Option.mem_toList]
  constructor
  · intro h
    refine ⟨?_, ?_, ?_⟩
    · intro filter hfilter
      by_cases hblank : Text.trim filter = ""
      · exact Predicate.selects_of_isEmpty (Filter.isEmpty_compile_of_blank hblank) document
      · exact h _ (.inl (.inl (filterDemand?_eq_some_iff.mpr ⟨filter, hfilter, hblank, rfl⟩)))
    · intro ids hids p hp
      exact h p (.inl (.inr (idsDemand?_eq_some_iff.mpr ⟨ids, hids, hp⟩)))
    · intro search hsearch hne p hp
      exact h p (.inr (searchDemand?_eq_some_iff.mpr ⟨search, hsearch, hne, hp⟩))
  · rintro h p ((hp | hp) | hp)
    · obtain ⟨filter, hfilter, _, rfl⟩ := filterDemand?_eq_some_iff.mp hp
      exact h.filter filter hfilter
    · obtain ⟨ids, hids, hp⟩ := idsDemand?_eq_some_iff.mp hp
      exact h.ids ids hids p hp
    · obtain ⟨search, hsearch, hne, hp⟩ := searchDemand?_eq_some_iff.mp hp
      exact h.search search hsearch hne p hp

theorem isEmpty_of_filterDemand? {text : String} (h : params.filter = some text)
    (hidle : Idle config .filter text) (hp : filterDemand? params = some p) :
    p.isEmpty = true := by
  obtain ⟨filter, hfilter, hne, rfl⟩ := filterDemand?_eq_some_iff.mp hp
  rw [h] at hfilter
  cases hfilter
  exact hidle.resolve_left hne

theorem idsDemand?_of_idle {text : String} (h : params.ids = some text)
    (hidle : Idle config .ids text) : idsDemand? params config = none := by
  rw [Option.eq_none_iff_forall_ne_some]
  intro p hp
  obtain ⟨ids, hids, hp⟩ := idsDemand?_eq_some_iff.mp hp
  rw [h] at hids
  cases hids
  rw [show idsPredicate? _ _ = none from hidle] at hp
  cases hp

theorem searchDemand?_of_idle {text : String} (h : params.search = some text)
    (hidle : Idle config .search text) : searchDemand? params config = none := by
  rw [Option.eq_none_iff_forall_ne_some]
  intro p hp
  obtain ⟨search, hsearch, hne, hp⟩ := searchDemand?_eq_some_iff.mp hp
  rw [h] at hsearch
  cases hsearch
  rw [hidle.resolve_left hne] at hp
  cases hp

section Absent

variable (params config)

theorem filterDemand?_of_absent (h : params.filter = none) : filterDemand? params = none := by
  simp [filterDemand?, compiledFilter?, h]

theorem idsDemand?_of_absent (h : params.ids = none) : idsDemand? params config = none := by
  simp [idsDemand?, nonBlank?, h]

theorem searchDemand?_of_absent (h : params.search = none) :
    searchDemand? params config = none := by
  simp [searchDemand?, nonBlank?, h]

end Absent

/-- A parameter of which nothing is left can be left out. -/
theorem requestPredicate_of_idle {parameter : Parameter} {text : String}
    (habsent : params.get? parameter = none) (hidle : Idle config parameter text) :
    requestPredicate (params.set text parameter) config = requestPredicate params config := by
  rw [requestPredicate_eq, requestPredicate_eq]
  cases parameter with
  | page | take | sortField | sortDirection => rfl
  | filter =>
      have hids : idsDemand? (params.set text .filter) config = idsDemand? params config := rfl
      have hsearch : searchDemand? (params.set text .filter) config = searchDemand? params config :=
        rfl
      rw [hids, hsearch, filterDemand?_of_absent params habsent]
      cases hfilter : filterDemand? (params.set text .filter) with
      | none => rfl
      | some p =>
          have hempty := isEmpty_of_filterDemand? rfl hidle hfilter
          exact Predicate.combine_cons_of_isEmpty hempty Filter.andKey _
  | ids =>
      have hfilter : filterDemand? (params.set text .ids) = filterDemand? params := rfl
      have hsearch : searchDemand? (params.set text .ids) config = searchDemand? params config :=
        rfl
      rw [hfilter, hsearch, idsDemand?_of_absent params config habsent,
        idsDemand?_of_idle rfl hidle]
  | search =>
      have hfilter : filterDemand? (params.set text .search) = filterDemand? params := rfl
      have hids : idsDemand? (params.set text .search) config = idsDemand? params config := rfl
      rw [hfilter, hids, searchDemand?_of_absent params config habsent,
        searchDemand?_of_idle rfl hidle]

/-- A document is selected by a request exactly when it meets every demand of its own. A filter only
adds to the ids and the search, whatever its keys are; and a parameter of which nothing is left
leaves the predicate as it is. -/
theorem selects_requestPredicate_iff (params : Parameters) (config : Config) (document : Json) :
    ((requestPredicate params config).selects document = true ↔ Demands params config document) ∧
    (params.filter = none → ∀ filter,
      ((requestPredicate (params.set filter .filter) config).selects document = true ↔
        (Compiler.standard.compile filter).selects document = true ∧
          (requestPredicate params config).selects document = true)) ∧
    ∀ parameter text, params.get? parameter = none → Idle config parameter text →
      requestPredicate (params.set text parameter) config = requestPredicate params config := by
  refine ⟨selects_iff_demands params config document, ?_, fun _ _ => requestPredicate_of_idle⟩
  intro hnone filter
  rw [selects_iff_demands, selects_iff_demands]
  constructor
  · intro h
    refine ⟨h.filter filter rfl, ?_, h.ids, h.search⟩
    intro other hother
    rw [hnone] at hother
    cases hother
  · rintro ⟨hfilter, h⟩
    refine ⟨?_, h.ids, h.search⟩
    rintro _ ⟨⟩
    exact hfilter

/-- A filter on the field of the ids, which another id meets, and a search for blanks. -/
theorem selects_requestPredicate_iff_shared_field :
    let params : Parameters := { ids := some "7" }
    let document : Json := .object [("tokenid", .string "9")]
    (params.filter = none ∧ params.get? .search = none ∧ Idle {} .search " ") ∧
      (Compiler.standard.compile "tokenid_eq_9").selects document = true ∧
      ¬ (requestPredicate (params.set "tokenid_eq_9" .filter) {}).selects document = true ∧
      requestPredicate (params.set " " .search) {} = requestPredicate params {} := by
  intro params document
  have hidle : Idle {} .search " " := .inl (by decide)
  have hfilter : (Compiler.standard.compile "tokenid_eq_9").selects document = true := by
    decide +kernel
  obtain ⟨hdemands, hadds, hleaves⟩ := selects_requestPredicate_iff params {} document
  refine ⟨⟨rfl, rfl, hidle⟩, hfilter, ?_, hleaves .search " " rfl hidle⟩
  intro hselects
  have hseven : idsPredicate? (Text.trim "7") "tokenid" = some (.equals "tokenid"
      (.object [("$in", .array [.number (.integer 7 (by decide))])])) := rfl
  have hids := (hdemands.mp ((hadds rfl _).mp hselects).2).ids "7" rfl _ hseven
  exact absurd hids (by decide +kernel)

end Service
end DocumentCatalog
