import DocumentCatalog.Proofs.Text.Split

/-!
Comma-separated lists. A text has certain entries exactly when it lays them out: they stand in their
order between commas, with blanks around each of them and with blank pieces anywhere. So entries can
be joined and are read again, whatever blanks were added.
-/

namespace DocumentCatalog
namespace Text

/-- Whether a text can be an entry of a list. -/
structure IsEntry (s : String) : Prop where
  ne_empty : s ≠ ""
  no_comma : ',' ∉ s.toList
  trimmed : Trimmed s.toList

instance (s : String) : Decidable (IsEntry s) :=
  decidable_of_iff (s ≠ "" ∧ ',' ∉ s.toList ∧ Trimmed s.toList)
    ⟨fun h => ⟨h.1, h.2.1, h.2.2⟩, fun h => ⟨h.ne_empty, h.no_comma, h.trimmed⟩⟩

def IsBlank (s : String) : Prop :=
  ∀ c ∈ s.toList, Unicode.isBlank c = true

instance (s : String) : Decidable (IsBlank s) :=
  decidable_of_iff (s.toList.all Unicode.isBlank = true) List.all_eq_true

/-- Pieces that lay out a list: its entries in their order, each with blanks around it or none, and
between them blank pieces. -/
inductive Spaced : List String → List String → Prop where
  | nil : Spaced [] []
  | blank {piece : String} {list pieces : List String} : IsBlank piece → Spaced list pieces →
      Spaced list (piece :: pieces)
  | entry {entry piece : String} {list pieces : List String} (left right : String) :
      IsBlank left → IsBlank right → piece = left ++ entry ++ right → Spaced list pieces →
      Spaced (entry :: list) (piece :: pieces)

variable {list pieces : List String}

theorem isBlank_empty : IsBlank "" :=
  fun _ hc => absurd hc List.not_mem_nil

theorem IsBlank.no_comma {s : String} (h : IsBlank s) : ',' ∉ s.toList :=
  fun hcomma => absurd (h ',' hcomma) (by decide)

theorem trim_padded {left right entry : String} (hleft : IsBlank left)
    (h : Trimmed entry.toList) (hright : IsBlank right) : trim (left ++ entry ++ right) = entry := by
  rw [trim, String.toList_append, String.toList_append, trimChars_padded hleft h hright,
    String.ofList_toList]

theorem exists_padded_trim (s : String) :
    ∃ left right, IsBlank left ∧ IsBlank right ∧ s = left ++ trim s ++ right := by
  obtain ⟨left, right, hleft, hright, hs⟩ := exists_padded s.toList
  refine ⟨String.ofList left, String.ofList right, ?_, ?_, ?_⟩
  · rwa [IsBlank, String.toList_ofList]
  · rwa [IsBlank, String.toList_ofList]
  · rw [trim, ← String.ofList_append, ← String.ofList_append, ← hs, String.ofList_toList]

theorem spaced_self (list : List String) : Spaced list list := by
  induction list with
  | nil => exact .nil
  | cons entry list ih => exact .entry "" "" isBlank_empty isBlank_empty (by simp) ih

theorem Spaced.no_comma (h : Spaced list pieces) (hlist : ∀ entry ∈ list, IsEntry entry) :
    ∀ piece ∈ pieces, ',' ∉ piece.toList := by
  induction h with
  | nil => simp
  | blank hblank _ ih => exact List.forall_mem_cons.mpr ⟨hblank.no_comma, ih hlist⟩
  | entry left right hleft hright hpiece _ ih =>
      obtain ⟨hentry, hrest⟩ := List.forall_mem_cons.mp hlist
      refine List.forall_mem_cons.mpr ⟨?_, ih hrest⟩
      simp [hpiece, hleft.no_comma, hentry.no_comma, hright.no_comma]

theorem Spaced.trimmed_pieces (h : Spaced list pieces) (hlist : ∀ entry ∈ list, IsEntry entry) :
    (pieces.map trim).filter (· != "") = list := by
  induction h with
  | nil => rfl
  | blank hblank _ ih =>
      rw [List.map_cons, (trim_eq_empty_iff _).mpr hblank]
      exact ih hlist
  | entry left right hleft hright hpiece _ ih =>
      obtain ⟨hentry, hrest⟩ := List.forall_mem_cons.mp hlist
      rw [List.map_cons, hpiece, trim_padded hleft hentry.trimmed hright,
        List.filter_cons_of_pos (by simpa using hentry.ne_empty), ih hrest]

/-- Whatever the pieces are, they lay out what trimming leaves of them. -/
theorem spaced_trimmed_pieces (pieces : List String) :
    Spaced ((pieces.map trim).filter (· != "")) pieces := by
  induction pieces with
  | nil => exact .nil
  | cons piece pieces ih =>
      rw [List.map_cons]
      by_cases hpiece : trim piece = ""
      · rw [hpiece]
        exact .blank ((trim_eq_empty_iff piece).mp hpiece) ih
      · rw [List.filter_cons_of_pos (by simpa using hpiece)]
        obtain ⟨left, right, hleft, hright, hpadded⟩ := exists_padded_trim piece
        exact .entry left right hleft hright hpadded ih

theorem isEntry_of_mem_entries {text entry : String} (h : entry ∈ entries text) :
    IsEntry entry := by
  obtain ⟨htrimmed, hne⟩ := List.mem_filter.mp h
  obtain ⟨piece, hpiece, rfl⟩ := List.mem_map.mp htrimmed
  refine ⟨by simpa using hne, fun hcomma => ?_, ?_⟩
  · obtain ⟨left, right, -, -, hpadded⟩ := exists_padded_trim piece
    apply not_mem_of_mem_split hpiece
    rw [hpadded]
    simp [hcomma]
  · rw [trim, String.toList_ofList]
    exact trimmed_trimChars piece.toList

/-- The entries of a text are the one list of possible entries that its pieces lay out. -/
theorem entries_eq_iff {text : String} :
    entries text = list ↔
      (∀ entry ∈ list, IsEntry entry) ∧ ∃ pieces, Spaced list pieces ∧ join ',' pieces = text := by
  constructor
  · rintro rfl
    exact ⟨fun _ => isEntry_of_mem_entries, split ',' text, spaced_trimmed_pieces _,
      join_split ',' text⟩
  · rintro ⟨hlist, pieces, hspaced, rfl⟩
    by_cases hne : pieces = []
    · subst hne
      cases hspaced
      rfl
    · rw [entries, split_join hne (hspaced.no_comma hlist), hspaced.trimmed_pieces hlist]

end Text
end DocumentCatalog
