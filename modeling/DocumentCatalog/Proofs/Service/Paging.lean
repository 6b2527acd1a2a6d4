import DocumentCatalog.Proofs.Text.Numeral
import DocumentCatalog.Service.Paging

/-!
Pages are consecutive pieces of one list, the answer to the same request without a limit. No page
loses a document and no document stands on two of them, also where the number of skipped documents
is more than a word can say.
-/

namespace DocumentCatalog
namespace Query

/-- What a page is cut from. -/
def Options.whole (options : Options) : Options :=
  { options with limit := none, skip := 0 }

theorem find_limit (documents : List Json) (p : Filter.Predicate) (options : Options) (limit : Nat)
    (h : options.limit = some limit) :
    find documents p options = ((find documents p options.whole).drop options.skip).take limit := by
  simp only [find, page, Options.whole, h, List.map_take, List.map_drop, List.drop_zero]

theorem length_find_whole_le (documents : List Json) (p : Filter.Predicate) (options : Options) :
    (find documents p options.whole).length ≤ documents.length := by
  have hfilter := List.length_filter_le p.selects documents
  simpa [find, page, Options.whole, sorted] using hfilter

end Query

namespace Service

open Query (Options)

theorem word?_numeral {n : Nat} (h : n ≤ Text.greatestWord) :
    word? (some (Text.numeral n)) = some n := by
  have hread : Text.readWord (Text.numeral n) = .ok n := Text.readNat_numeral h
  simp [word?, Text.trim_numeral, hread, Except.toOption]

theorem pageSize_numeral {size limit : Nat} (hsize : 1 ≤ size) (hlimit : size ≤ limit)
    (hword : limit ≤ Text.greatestWord) : pageSize (some (Text.numeral size)) limit = size := by
  unfold pageSize
  rw [word?_numeral (Nat.le_trans hlimit hword)]
  exact if_pos ⟨hsize, hlimit⟩

theorem pageNumber_numeral {number : Nat} (hnumber : 1 ≤ number)
    (hword : number ≤ Text.greatestWord) : pageNumber (some (Text.numeral number)) = number := by
  unfold pageNumber
  rw [word?_numeral hword]
  exact if_pos hnumber

/-- The options of a request for a page of some size, both written in decimal. -/
def pageOptions (params : Parameters) (config : Config) (size number : Nat) : Options :=
  findOptions
    { params with take := some (Text.numeral size), page := some (Text.numeral number) } config

theorem pageOptions_whole (params : Parameters) (config : Config) (size number : Nat) :
    (pageOptions params config size number).whole = (findOptions params config).whole := by
  simp only [pageOptions, findOptions, Options.whole]

/-- A number of documents that is cut down to a bound skips all of a list that keeps the bound, as
it would have done before. -/
theorem drop_min {α : Type} {items : List α} {bound : Nat} (h : items.length ≤ bound) (count : Nat) :
    items.drop (min count bound) = items.drop count := by
  rcases Nat.le_total count bound with hle | hle
  · rw [Nat.min_eq_left hle]
  · rw [Nat.min_eq_right hle, List.drop_eq_nil_of_le h,
      List.drop_eq_nil_of_le (Nat.le_trans h hle)]

theorem take_mul_eq_flatMap {α : Type} (items : List α) (size count : Nat) :
    items.take (count * size) =
      (List.range count).flatMap fun i => items.extract (i * size) ((i + 1) * size) := by
  induction count with
  | zero => simp
  | succ count ih =>
      rw [List.range_succ, List.flatMap_append, ← ih, Nat.succ_mul, List.take_add]
      simp [List.extract_eq_take_drop, Nat.succ_mul]

variable (documents : List Json) (p : Filter.Predicate) (params : Parameters) (config : Config)

/-- A page is the piece of the whole answer between its first position and that of the next page. -/
theorem find_page (hdocuments : documents.length ≤ Text.greatestWord) {size number : Nat}
    (hsize : 1 ≤ size) (hlimit : size ≤ config.resultsLimit)
    (hconfig : config.resultsLimit ≤ Text.greatestWord)
    (hnumber : 1 ≤ number) (hword : number ≤ Text.greatestWord) :
    Query.find documents p (pageOptions params config size number) =
      (Query.find documents p (findOptions params config).whole).extract
        ((number - 1) * size) (number * size) := by
  have hpageSize := pageSize_numeral hsize hlimit hconfig
  have hpageNumber := pageNumber_numeral hnumber hword
  have hlimit' : (pageOptions params config size number).limit = some size :=
    congrArg some hpageSize
  have hskip : (pageOptions params config size number).skip =
      min ((number - 1) * size) Text.greatestWord := by
    simp only [pageOptions, findOptions, hpageSize, hpageNumber, skipped]
  have hlength := Query.length_find_whole_le documents p (findOptions params config)
  have hspan : number * size - (number - 1) * size = size := by
    rw [← Nat.sub_mul, Nat.sub_sub_self hnumber, Nat.one_mul]
  rw [Query.find_limit documents p _ size hlimit', pageOptions_whole, hskip,
    drop_min (Nat.le_trans hlength hdocuments), List.extract_eq_take_drop, hspan]

/-- Every page is its piece of the whole answer, pages behind its end are empty, and the pages up to
the end are together the whole answer. -/
theorem pages_partition (hdocuments : documents.length ≤ Text.greatestWord) {size : Nat}
    (hsize : 1 ≤ size) (hlimit : size ≤ config.resultsLimit)
    (hconfig : config.resultsLimit ≤ Text.greatestWord) :
    let whole := Query.find documents p (findOptions params config).whole
    let page := fun number => Query.find documents p (pageOptions params config size number)
    (∀ number, 1 ≤ number → number ≤ Text.greatestWord →
      page number = whole.extract ((number - 1) * size) (number * size) ∧
      (whole.length ≤ (number - 1) * size ∨ Text.greatestWord < (number - 1) * size →
        page number = [])) ∧
    ∀ count, count ≤ Text.greatestWord → whole.length ≤ count * size →
      (List.range count).flatMap (fun i => page (i + 1)) = whole := by
  intro whole page
  have hpage : ∀ number, 1 ≤ number → number ≤ Text.greatestWord →
      page number = whole.extract ((number - 1) * size) (number * size) :=
    fun number hnumber hword =>
      find_page documents p params config hdocuments hsize hlimit hconfig hnumber hword
  refine ⟨fun number hnumber hword => ⟨hpage number hnumber hword, ?_⟩, ?_⟩
  · intro hbehind
    have hwhole : whole.length ≤ Text.greatestWord :=
      Nat.le_trans (Query.length_find_whole_le documents p _) hdocuments
    have hend : whole.length ≤ (number - 1) * size := by
      rcases hbehind with h | h
      · exact h
      · exact Nat.le_trans hwhole (Nat.le_of_lt h)
    rw [hpage number hnumber hword, List.extract_eq_take_drop, List.drop_eq_nil_of_le hend,
      List.take_nil]
  · intro count hcount hend
    have hpieces : ∀ i ∈ List.range count,
        page (i + 1) = whole.extract (i * size) ((i + 1) * size) := by
      intro i hi
      have hlt : i < count := List.mem_range.mp hi
      exact hpage (i + 1) (Nat.succ_pos i) (Nat.le_trans hlt hcount)
    calc (List.range count).flatMap (fun i => page (i + 1))
        = (List.range count).flatMap fun i => whole.extract (i * size) ((i + 1) * size) := by
          rw [List.flatMap_def, List.flatMap_def, List.map_congr_left hpieces]
      _ = whole.take (count * size) := (take_mul_eq_flatMap whole size count).symm
      _ = whole := List.take_of_length_le hend

/-- Three documents on pages of two, and a page whose documents no word can count. -/
theorem pages_partition_three :
    let documents : List Json :=
      [.object [("tokenid", .string "c")], .object [("tokenid", .string "a")],
        .object [("tokenid", .string "b")]]
    let whole := Query.find documents .empty (findOptions {} {}).whole
    let page := fun number => Query.find documents .empty (pageOptions {} {} 2 number)
    (documents.length ≤ Text.greatestWord ∧ 2 ≤ ({} : Config).resultsLimit ∧
      ({} : Config).resultsLimit ≤ Text.greatestWord) ∧
      page 1 ++ page 2 = whole ∧ page Text.greatestWord = [] := by
  intro documents whole page
  have hdocuments : documents.length ≤ Text.greatestWord := by decide
  have hlimit : 2 ≤ ({} : Config).resultsLimit := by decide
  have hconfig : ({} : Config).resultsLimit ≤ Text.greatestWord := by decide
  have hlength : whole.length ≤ 3 := Query.length_find_whole_le documents .empty _
  obtain ⟨hpage, hpages⟩ :=
    pages_partition documents .empty {} {} hdocuments (by decide) hlimit hconfig
  refine ⟨⟨hdocuments, hlimit, hconfig⟩, ?_, ?_⟩
  · have htwo := hpages 2 (by decide) (Nat.le_trans hlength (by decide))
    simpa [List.range, List.range.loop] using htwo
  · exact (hpage Text.greatestWord (by decide) (Nat.le_refl _)).2 (.inr (by decide))

end Service
end DocumentCatalog
