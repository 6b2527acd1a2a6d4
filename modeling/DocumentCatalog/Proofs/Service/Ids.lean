import DocumentCatalog.Json.Printer
import DocumentCatalog.Proofs.Query.Integers
import DocumentCatalog.Proofs.Text.Numeral
import DocumentCatalog.Service.Constraints

/-!
What the ids of a request find. A document whose id is an integer is found by the text of that
integer wherever it stands in the list, as long as the integer is one of 64 bits in two's
complement; the text of a greater one asks for a text.
-/

namespace DocumentCatalog

open Json (Whole whole)

namespace Text

/-- Whether a text is one of the comma-separated texts of a list, with blanks around it or none. -/
def Lists (list entry : String) : Prop :=
  ∃ pieces left right, list = join ',' pieces ∧
    String.ofList (left ++ entry.toList ++ right) ∈ pieces ∧
    ∀ c ∈ left ++ right, Unicode.isBlank c = true

theorem mem_entries_of_lists {list entry : String} (hlists : Lists list entry) (hne : entry ≠ "")
    (hcomma : ',' ∉ entry.toList) (hblank : ∀ c ∈ entry.toList, Unicode.isBlank c = false) :
    entry ∈ entries list := by
  obtain ⟨pieces, left, right, rfl, hpiece, hpadding⟩ := hlists
  obtain ⟨hleft, hright⟩ := List.forall_mem_append.mp hpadding
  have hnot : ∀ cs : List Char, (∀ c ∈ cs, Unicode.isBlank c = true) → ',' ∉ cs :=
    fun cs hcs hmem => absurd (hcs ',' hmem) (by decide)
  have hone : split ',' (String.ofList (left ++ entry.toList ++ right)) =
      [String.ofList (left ++ entry.toList ++ right)] :=
    split_of_not_mem (by simp [hnot left hleft, hcomma, hnot right hright])
  have hsplit : String.ofList (left ++ entry.toList ++ right) ∈ split ',' (join ',' pieces) := by
    rw [split_join_flatMap (List.ne_nil_of_mem hpiece)]
    exact List.mem_flatMap.mpr ⟨_, hpiece, hone ▸ List.mem_cons_self⟩
  have htrim : trim (String.ofList (left ++ entry.toList ++ right)) = entry := by
    rw [trim, String.toList_ofList, trimChars_padded hleft (trimmed_of_no_blank hblank) hright,
      String.ofList_toList]
  rw [entries, List.mem_filter]
  exact ⟨htrim ▸ List.mem_map_of_mem hsplit, by simpa using hne⟩

end Text

theorem Json.compact_whole (x : Whole) :
    (whole x).compact =
      if x.1 < 0 then String.ofList ('-' :: Nat.toDigits 10 x.1.natAbs)
      else Text.numeral x.1.natAbs := by
  by_cases hnegative : x.1 < 0 <;>
    simp [compact, whole, compactChars, Number.chars, Decimal.natChars, Text.numeral, hnegative]

namespace Service

open DocumentCatalog.Filter (IsPath Operator)
open Query (equalOrContains lookup?)

/-- The text of an integer is read as that integer unless it is too great. -/
theorem readInteger?_compact (x : Whole) :
    Text.readInteger? (whole x).compact = if x.1 < 2 ^ 63 then some x.1 else none := by
  obtain ⟨i, hlow, hhigh⟩ := x
  rw [Json.compact_whole]
  simp only
  by_cases hnegative : i < 0
  · rw [if_pos hnegative, Text.readInteger?_minus, if_pos (by omega), if_pos (by omega)]
    exact congrArg some (by omega)
  · rw [if_neg hnegative, Text.readInteger?_numeral]
    by_cases hfits : i < 2 ^ 63
    · rw [if_pos hfits, if_pos (by omega)]
      exact congrArg some (by omega)
    · rw [if_neg hfits, if_neg (by omega)]

theorem mem_entries_compact {ids : String} {x : Whole} (h : Text.Lists ids (whole x).compact) :
    (whole x).compact ∈ Text.entries ids := by
  have hchars : ∀ c ∈ (whole x).compact.toList, c = '-' ∨ c.isDigit = true := by
    intro c hc
    rw [Json.compact_whole] at hc
    split at hc
    · rw [String.toList_ofList] at hc
      exact (List.mem_cons.mp hc).imp id Text.isDigit_of_mem_toDigits
    · rw [Text.numeral, String.toList_ofList] at hc
      exact .inr (Text.isDigit_of_mem_toDigits hc)
  apply Text.mem_entries_of_lists h
  · rw [Json.compact_whole]
    split <;> simp [Text.numeral]
  · intro hcomma
    rcases hchars ',' hcomma with hdash | hdigit
    · exact absurd hdash (by decide)
    · exact absurd hdigit (by decide)
  · intro c hc
    rcases hchars c hc with rfl | hdigit
    · decide
    · exact Text.isBlank_of_isDigit hdigit

theorem relates_ofInt_eq_iff (x y : Whole) :
    Operator.eq.Relates (.ofInt x.1) (.ofInt y.1) ↔ Binary64.ofInt x.1 = .ofInt y.1 := by
  constructor
  · exact Binary64.eq_of_position_eq (Binary64.magnitude_pos_of_negative x.natAbs_le)
      (Binary64.magnitude_pos_of_negative y.natAbs_le)
  · exact congrArg Binary64.position

/-- An id is a number to documents when it reads as an integer, and else a text. -/
theorem idValue_cases (id : String) :
    (∃ y : Whole, Text.readInteger? id = some y.1 ∧ idValue id = whole y) ∨
      Text.readInteger? id = none ∧ idValue id = .string id := by
  unfold idValue
  cases hread : Text.readInteger? id with
  | none => exact .inr ⟨rfl, rfl⟩
  | some i =>
      have hbounds := Text.readInteger?_bounds hread
      have hrange : -0x8000000000000000 ≤ i ∧ i < 0x10000000000000000 := by omega
      refine .inl ⟨⟨i, hrange⟩, rfl, ?_⟩
      simp [Json.Number.ofInt?, hrange, whole]

/-- An integer of a document equals an id that reads as an integer of the same nearest number. -/
theorem equalOrContains_idValue (x : Whole) (id : String) :
    equalOrContains (whole x) (idValue id) = true ↔
      ∃ y : Whole, Text.readInteger? id = some y.1 ∧ Binary64.ofInt x.1 = .ofInt y.1 := by
  rcases idValue_cases id with ⟨y, hread, hvalue⟩ | ⟨hread, hvalue⟩
  · rw [hvalue, Query.equalOrContains_whole, relates_ofInt_eq_iff]
    constructor
    · exact fun h => ⟨y, hread, h⟩
    · rintro ⟨z, hz, h⟩
      rw [hread, Option.some.injEq] at hz
      rwa [hz]
  · rw [hvalue]
    simp [hread, equalOrContains, whole, Query.equal, Json.same]

theorem idsPredicate?_of_ne_nil {ids : String} (h : Text.entries ids ≠ []) (idField : String) :
    idsPredicate? ids idField = some (.equals idField
      (.object [("$in", .array ((Text.entries ids).map idValue))])) := by
  unfold idsPredicate?
  split
  · next hnil => exact absurd hnil h
  · rfl

theorem idsPredicate?_of_mem {ids entry : String} (h : entry ∈ Text.entries ids) (idField : String) :
    idsPredicate? ids idField = some (.equals idField
      (.object [("$in", .array ((Text.entries ids).map idValue))])) :=
  idsPredicate?_of_ne_nil (List.ne_nil_of_mem h) idField

/-- A list of ids with the text of an integer among them always asks for something. It finds the
documents that have this integer when it is one of 64 bits in two's complement; those of a greater
integer only if another entry is such an integer with the same nearest number. -/
theorem selects_idsPredicate?_whole {document : Json} {ids idField : String} {x : Whole}
    (hpath : IsPath idField) (hx : lookup? document idField = some (whole x))
    (hids : Text.Lists ids (whole x).compact) :
    ∃ p, idsPredicate? ids idField = some p ∧
      (x.1 < 2 ^ 63 → p.selects document = true) ∧
      (2 ^ 63 ≤ x.1 → (p.selects document = true ↔
        ∃ entry ∈ Text.entries ids, ∃ y : Whole, y.1 < 2 ^ 63 ∧
          Text.readInteger? entry = some y.1 ∧ Binary64.ofInt x.1 = .ofInt y.1)) := by
  have hmem := mem_entries_compact hids
  have hselects : ∀ p, idsPredicate? ids idField = some p → (p.selects document = true ↔
      ∃ entry ∈ Text.entries ids, ∃ y : Whole,
        Text.readInteger? entry = some y.1 ∧ Binary64.ofInt x.1 = .ofInt y.1) := by
    intro p hp
    rw [idsPredicate?_of_mem hmem] at hp
    cases hp
    rw [Filter.Predicate.selects_equals, Query.selectsEntry_field _ _ hpath.1 hpath.2, hx,
      Query.meets_among, Option.any_some, List.any_map, List.any_eq_true]
    exact exists_congr fun entry => and_congr_right fun _ => equalOrContains_idValue x entry
  refine ⟨_, idsPredicate?_of_mem hmem idField, ?_, ?_⟩
  · intro hfits
    rw [hselects _ (idsPredicate?_of_mem hmem idField)]
    exact ⟨_, hmem, x, by rw [readInteger?_compact, if_pos hfits], rfl⟩
  · intro _
    rw [hselects _ (idsPredicate?_of_mem hmem idField)]
    refine exists_congr fun entry => and_congr_right fun _ => exists_congr fun y => ?_
    constructor
    · intro h
      have hbounds := Text.readInteger?_bounds h.1
      exact ⟨by omega, h⟩
    · exact fun h => h.2

/-- The least integer that documents keep, and one whose own text does not find it but that of its
neighbour does. -/
theorem selects_idsPredicate?_whole_bounds :
    let least : Whole := ⟨-0x8000000000000000, by decide⟩
    let great : Whole := ⟨0x8000000000000000, by decide⟩
    let document : Whole → Json := fun i => .object [("token", .object [("id", whole i)])]
    let ids := "abc,, \t-9223372036854775808 ,7"
    let others := "9223372036854775808,9223372036854775807"
    (IsPath "token.id" ∧ lookup? (document least) "token.id" = some (whole least) ∧
      lookup? (document great) "token.id" = some (whole great) ∧
      Text.Lists ids (whole least).compact ∧ Text.Lists others (whole great).compact) ∧
    (∃ p, idsPredicate? ids "token.id" = some p ∧ p.selects (document least) = true) ∧
      ∃ p, idsPredicate? others "token.id" = some p ∧ p.selects (document great) = true := by
  intro least great document ids others
  have hpath : IsPath "token.id" := ⟨by decide, by decide⟩
  have hleast : lookup? (document least) "token.id" = some (whole least) := rfl
  have hgreat : lookup? (document great) "token.id" = some (whole great) := rfl
  have hids : Text.Lists ids (whole least).compact :=
    ⟨["abc", "", " \t-9223372036854775808 ", "7"], [' ', '\t'], [' '], by decide +kernel,
      by decide +kernel, List.all_eq_true.mp (by decide)⟩
  have hothers : Text.Lists others (whole great).compact :=
    ⟨["9223372036854775808", "9223372036854775807"], [], [], by decide +kernel, by decide +kernel,
      by simp⟩
  refine ⟨⟨hpath, hleast, hgreat, hids, hothers⟩, ?_, ?_⟩
  · obtain ⟨p, hp, hselects, -⟩ := selects_idsPredicate?_whole hpath hleast hids
    exact ⟨p, hp, hselects (by decide)⟩
  · obtain ⟨p, hp, -, hselects⟩ := selects_idsPredicate?_whole hpath hgreat hothers
    refine ⟨p, hp, (hselects (by decide)).mpr ?_⟩
    exact ⟨"9223372036854775807", by decide +kernel, ⟨0x7FFFFFFFFFFFFFFF, by decide⟩, by decide,
      by decide +kernel, by decide +kernel⟩

/-- The least integer of 64 bits is not found by its own text. -/
theorem not_selects_idsPredicate?_whole :
    ¬ ∀ (document : Json) (ids idField : String) (x : Whole), IsPath idField →
      lookup? document idField = some (whole x) → Text.Lists ids (whole x).compact →
        ∃ p, idsPredicate? ids idField = some p ∧ p.selects document = true := by
  intro h
  let x : Whole := ⟨0x8000000000000000, by decide⟩
  have hids : Text.Lists "9223372036854775808" (whole x).compact :=
    ⟨["9223372036854775808"], [], [], by decide +kernel, by decide +kernel, by simp⟩
  obtain ⟨p, hp, hselects⟩ := h (.object [("tokenid", whole x)]) _ "tokenid" x
    ⟨by decide, by decide⟩ rfl hids
  rw [idsPredicate?_of_mem (mem_entries_compact hids)] at hp
  cases hp
  exact absurd hselects (by decide +kernel)

end Service
end DocumentCatalog
