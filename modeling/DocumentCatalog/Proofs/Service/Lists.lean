import DocumentCatalog.Proofs.Service.Bounds
import DocumentCatalog.Proofs.Service.Ids
import DocumentCatalog.Proofs.Text.Separated

/-!
Lists in the configuration and in requests. Both are read as comma-separated texts: a list that was
joined is found again, blanks or not, and what was read can be joined and read again. The ids of a
request become one member each, in their order.
-/

namespace DocumentCatalog
namespace Service

open Json (Whole whole)
open Text (DenotesInteger IsEntry Spaced entries join)

/-- Whether a value is what an id stands for: the integer of its numeral when that is one of 64 bits
in two's complement, and the text itself in every other case. -/
structure HeldAs (id : String) (value : Json) : Prop where
  integer : ∀ x : Whole, x.1 < 2 ^ 63 → DenotesInteger id x.1 → value = whole x
  text : (∀ i, DenotesInteger id i → i < -2 ^ 63 ∨ 2 ^ 63 ≤ i) → value = .string id

theorem out_of_range_of_readInteger? {id : String} (h : Text.readInteger? id = none) (i : Int)
    (hdenotes : DenotesInteger id i) : i < -2 ^ 63 ∨ 2 ^ 63 ≤ i := by
  by_contra hrange
  have hread := (Text.readInteger?_eq_some_iff id i).mpr ⟨hdenotes, by omega⟩
  rw [h] at hread
  cases hread

theorem heldAs_idValue (id : String) : HeldAs id (idValue id) := by
  rcases idValue_cases id with ⟨y, hread, hvalue⟩ | ⟨hread, hvalue⟩
  · obtain ⟨hdenotes, hrange⟩ := (Text.readInteger?_eq_some_iff id y.1).mp hread
    rw [hvalue]
    constructor
    · intro x hx hdenotes'
      have hread' := (Text.readInteger?_eq_some_iff id x.1).mpr ⟨hdenotes', x.2.1, hx⟩
      rw [Subtype.ext (Option.some.inj (hread.symm.trans hread'))]
    · intro hout
      exact absurd (hout y.1 hdenotes) (by omega)
  · rw [hvalue]
    constructor
    · intro x hx hdenotes
      have hlow := x.2.1
      have hout := out_of_range_of_readInteger? hread x.1 hdenotes
      omega
    · exact fun _ => rfl

theorem forall₂_idValue (ids : List String) : List.Forall₂ HeldAs ids (ids.map idValue) :=
  List.forall₂_map_right_iff.mpr (List.forall₂_same.mpr fun id _ => heldAs_idValue id)

theorem idsPredicate?_eq_none_iff {ids idField : String} :
    idsPredicate? ids idField = none ↔ entries ids = [] := by
  constructor
  · intro h
    by_contra hne
    rw [idsPredicate?_of_ne_nil hne] at h
    cases h
  · intro h
    rw [idsPredicate?, h]

/-- Lists of possible entries are read from any text that lays them out, whatever is read from a
text is such a list, and the service reads its own lists and the ids of requests in this way. -/
theorem entries_round_trip :
    (∀ list : List String, (∀ entry ∈ list, IsEntry entry) →
      entries (join ',' list) = list ∧
        ∀ pieces, Spaced list pieces → entries (join ',' pieces) = list) ∧
    (∀ text, (∀ entry ∈ entries text, IsEntry entry) ∧
      entries (join ',' (entries text)) = entries text) ∧
    (∀ (env : Environment) (config : Config) (text : String), Config.ofEnvironment env = .ok config →
      (env.text? "SEARCHABLE_FIELDS" = some text → config.searchableFields = entries text) ∧
        (env.text? "PRIVATE_FIELDS" = some text → config.privateFields = entries text)) ∧
    ∀ ids idField,
      (idsPredicate? ids idField = none ↔ entries ids = []) ∧
        (entries ids ≠ [] → ∃ members, List.Forall₂ HeldAs (entries ids) members ∧
          idsPredicate? ids idField =
            some (.equals idField (.object [("$in", .array members)]))) := by
  have hspaced : ∀ list pieces : List String, (∀ entry ∈ list, IsEntry entry) →
      Spaced list pieces → entries (join ',' pieces) = list :=
    fun _ pieces hlist h => Text.entries_eq_iff.mpr ⟨hlist, pieces, h, rfl⟩
  refine ⟨?_, ?_, ?_, ?_⟩
  · intro list hlist
    exact ⟨hspaced list list hlist (Text.spaced_self list), fun pieces => hspaced list pieces hlist⟩
  · intro text
    have hentries : ∀ entry ∈ entries text, IsEntry entry := fun _ => Text.isEntry_of_mem_entries
    exact ⟨hentries, hspaced _ _ hentries (Text.spaced_self _)⟩
  · intro env config text hconfig
    obtain ⟨-, hsearchable, hprivate⟩ := Config.of_ofEnvironment hconfig
    constructor
    · intro htext
      rw [hsearchable, htext]
      rfl
    · intro htext
      rw [hprivate, htext]
      rfl
  · intro ids idField
    exact ⟨idsPredicate?_eq_none_iff, fun hne =>
      ⟨_, forall₂_idValue (entries ids), idsPredicate?_of_ne_nil hne idField⟩⟩

/-- Blanks of several kinds, a sign with leading zeros, and numerals at the two bounds. -/
theorem entries_round_trip_blanks :
    let list := ["fur color", "+007", "-9223372036854775808", "9223372036854775808"]
    let pieces := ["", "\tfur color ", "+007", "\u2003", " -9223372036854775808",
      "9223372036854775808\u00A0"]
    let members := [.string "fur color", whole ⟨7, by decide⟩,
      whole ⟨-0x8000000000000000, by decide⟩, .string "9223372036854775808"]
    let env : Environment := [("SEARCHABLE_FIELDS", Text.Utf8.encode (join ',' pieces))]
    ((∀ entry ∈ list, IsEntry entry) ∧ Spaced list pieces) ∧
      entries (join ',' list) = list ∧ entries (join ',' pieces) = list ∧
      (∃ config, Config.ofEnvironment env = .ok config ∧ config.searchableFields = list) ∧
      idsPredicate? (join ',' pieces) "tokenid" =
        some (.equals "tokenid" (.object [("$in", .array members)])) := by
  intro list pieces members env
  have hlist : ∀ entry ∈ list, IsEntry entry := by decide +kernel
  have hspaced : Spaced list pieces :=
    .blank (by decide) <| .entry "\t" " " (by decide) (by decide) rfl <|
    .entry "" "" (by decide) (by decide) rfl <| .blank (by decide) <|
    .entry " " "" (by decide) (by decide) rfl <|
    .entry "" "\u00A0" (by decide) (by decide) rfl .nil
  obtain ⟨hlists, -, hconfigs, hids⟩ := entries_round_trip
  obtain ⟨hjoined, hpieces⟩ := hlists list hlist
  have hentries := hpieces pieces hspaced
  refine ⟨⟨hlist, hspaced⟩, hjoined, hentries, ?_, ?_⟩
  · obtain ⟨config, hconfig⟩ : ∃ config, Config.ofEnvironment env = .ok config := ⟨_, rfl⟩
    have htext : env.text? "SEARCHABLE_FIELDS" = some (join ',' pieces) := by decide +kernel
    exact ⟨config, hconfig, ((hconfigs env config _ hconfig).1 htext).trans hentries⟩
  · have hread : ∀ (id : String) (x : Whole), Text.readInteger? id = some x.1 →
        DenotesInteger id x.1 :=
      fun id x h => ((Text.readInteger?_eq_some_iff id x.1).mp h).1
    have hne : entries (join ',' pieces) ≠ [] := by
      rw [hentries]
      exact List.cons_ne_nil _ _
    obtain ⟨found, hfound, hpredicate⟩ := (hids (join ',' pieces) "tokenid").2 hne
    rw [hentries] at hfound
    dsimp only [list] at hfound
    obtain _ | ⟨hname, _ | ⟨hseven, _ | ⟨hleast, _ | ⟨hgreat, _ | _⟩⟩⟩⟩ := hfound
    rw [hpredicate, hname.text (out_of_range_of_readInteger? (by decide)),
      hseven.integer ⟨7, by decide⟩ (by decide) (hread _ _ (by decide)),
      hleast.integer ⟨-0x8000000000000000, by decide⟩ (by decide) (hread _ _ (by decide)),
      hgreat.text (out_of_range_of_readInteger? (by decide))]

end Service
end DocumentCatalog
