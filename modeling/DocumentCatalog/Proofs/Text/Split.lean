import DocumentCatalog.Text.Split
import Mathlib.Data.List.Basic
import Mathlib.Data.List.DropRight
import Mathlib.Data.List.TakeWhile

/-!
Cutting and trimming texts. Joining the pieces of a text at the same separator gives the text back,
cutting what was joined gives the pieces back if none of them has a separator, and a text of which
trimming leaves nothing holds nothing but blanks.
-/

namespace DocumentCatalog
namespace Text

variable {separator : Char}

theorem head?_splitOn (separator : Char) (cs : List Char) :
    (cs.splitOn separator).head? = some (cs.takeWhile (· != separator)) := by
  induction cs with
  | nil => rfl
  | cons c rest ih =>
      rw [List.splitOn_cons_eq_if_modifyHead]
      by_cases h : c = separator
      · simp [h]
      · simp [h, ih]

theorem length_splitOn (separator : Char) (cs : List Char) :
    (cs.splitOn separator).length = cs.count separator + 1 := by
  induction cs with
  | nil => rfl
  | cons c rest ih =>
      rw [List.splitOn_cons_eq_if_modifyHead, List.count_cons]
      by_cases h : c = separator
      · simp [h, ih]
      · simp [h, ih]

theorem not_mem_of_mem_splitOn {cs piece : List Char} (h : piece ∈ cs.splitOn separator) :
    separator ∉ piece := by
  induction cs generalizing piece with
  | nil =>
      rw [List.splitOn_nil, List.mem_singleton] at h
      simp [h]
  | cons c rest ih =>
      obtain ⟨first, pieces, hrest⟩ := List.exists_cons_of_ne_nil (List.splitOn_ne_nil separator rest)
      rw [hrest] at ih
      rw [List.splitOn_cons_eq_if_modifyHead, hrest] at h
      split at h
      · rcases List.mem_cons.mp h with rfl | h
        · exact List.not_mem_nil
        · exact ih h
      · next hc =>
          rcases List.mem_cons.mp h with rfl | h
          · exact List.not_mem_cons_of_ne_of_not_mem (fun e => hc (beq_iff_eq.mpr e.symm))
              (ih List.mem_cons_self)
          · exact ih (List.mem_cons_of_mem _ h)

/-- The texts that are joined may have separators of their own. -/
theorem splitOn_intercalate_flatMap {texts : List (List Char)} (hne : texts ≠ []) :
    (List.intercalate [separator] texts).splitOn separator =
      texts.flatMap (List.splitOn separator) := by
  induction texts with
  | nil => exact absurd rfl hne
  | cons cs texts ih =>
      cases texts with
      | nil => simp
      | cons next texts =>
          rw [List.intercalate_cons_cons, List.append_assoc, List.singleton_append,
            List.splitOn_append_cons_self, ih (List.cons_ne_nil _ _)]
          rfl

theorem join_split (separator : Char) (s : String) : join separator (split separator s) = s := by
  simp [join, split, Function.comp_def]

theorem split_of_not_mem {s : String} (h : separator ∉ s.toList) : split separator s = [s] := by
  simp [split, List.splitOn_eq_singleton h]

/-- Cutting what was joined cuts each of the texts. -/
theorem split_join_flatMap {texts : List String} (hne : texts ≠ []) :
    split separator (join separator texts) = texts.flatMap (split separator) := by
  have hchars : texts.map String.toList ≠ [] := by simpa using hne
  rw [split, join, String.toList_ofList, splitOn_intercalate_flatMap hchars, List.flatMap_map,
    List.map_flatMap]
  rfl

/-- Pieces without separators are found again in the text that they are joined to. -/
theorem split_join {pieces : List String} (hne : pieces ≠ [])
    (h : ∀ piece ∈ pieces, separator ∉ piece.toList) :
    split separator (join separator pieces) = pieces := by
  have hchars : ∀ cs ∈ pieces.map String.toList, separator ∉ cs := by simpa using h
  rw [split, join, String.toList_ofList,
    List.splitOn_intercalate separator hchars (by simpa using hne), List.map_map]
  simp [Function.comp_def]

/-- A text has one piece more than it has separators. -/
theorem length_split (separator : Char) (s : String) :
    (split separator s).length = s.toList.count separator + 1 := by
  rw [split, List.length_map, length_splitOn]

theorem not_mem_of_mem_split {s piece : String} (h : piece ∈ split separator s) :
    separator ∉ piece.toList := by
  obtain ⟨cs, hcs, rfl⟩ := List.mem_map.mp h
  rw [String.toList_ofList]
  exact not_mem_of_mem_splitOn hcs

theorem mem_intercalate_iff {pieces : List (List Char)} {c : Char} (hne : c ≠ separator) :
    c ∈ List.intercalate [separator] pieces ↔ ∃ piece ∈ pieces, c ∈ piece := by
  induction pieces with
  | nil => simp
  | cons piece pieces ih =>
      cases pieces with
      | nil => simp
      | cons next pieces =>
          rw [List.intercalate_cons_cons, List.mem_append, List.mem_append, ih]
          simp [hne]

theorem mem_join_iff {pieces : List String} {c : Char} (hne : c ≠ separator) :
    c ∈ (join separator pieces).toList ↔ ∃ piece ∈ pieces, c ∈ piece.toList := by
  rw [join, String.toList_ofList, mem_intercalate_iff hne]
  simp

/-- A piece has no characters but those of the text. -/
theorem mem_of_mem_split {s piece : String} (h : piece ∈ split separator s) {c : Char}
    (hc : c ∈ piece.toList) : c ∈ s.toList := by
  have hne : c ≠ separator := fun e => not_mem_of_mem_split h (e ▸ hc)
  have hjoined := (mem_join_iff hne).mpr ⟨piece, h, hc⟩
  rwa [join_split] at hjoined

/-- The first piece is what stands before the first separator. -/
theorem head?_split (separator : Char) (s : String) :
    (split separator s).head? = some (splitFirst separator s).1 := by
  simp [split, splitFirst, head?_splitOn]

theorem trimChars_eq_nil_iff (cs : List Char) :
    trimChars cs = [] ↔ ∀ c ∈ cs, Unicode.isBlank c = true := by
  unfold trimChars
  rw [List.reverse_eq_nil_iff, List.dropWhile_eq_nil_iff]
  constructor
  · intro h c hc
    rw [← List.takeWhile_append_dropWhile (p := Unicode.isBlank) (l := cs)] at hc
    rcases List.mem_append.mp hc with hc | hc
    · exact List.mem_takeWhile_imp hc
    · exact h c (List.mem_reverse.mpr hc)
  · intro h c hc
    exact h c ((List.dropWhile_sublist _).mem (List.mem_reverse.mp hc))

theorem trim_eq_empty_iff (s : String) :
    trim s = "" ↔ ∀ c ∈ s.toList, Unicode.isBlank c = true := by
  rw [← trimChars_eq_nil_iff]
  unfold trim
  constructor
  · intro h
    simpa using congrArg String.toList h
  · intro h
    rw [h]

/-- Whether a text has a blank at neither end. -/
def Trimmed (cs : List Char) : Prop :=
  (∀ c ∈ cs.head?, Unicode.isBlank c = false) ∧ ∀ c ∈ cs.getLast?, Unicode.isBlank c = false

instance (cs : List Char) : Decidable (Trimmed cs) :=
  decidable_of_iff
    (cs.head?.any Unicode.isBlank = false ∧ cs.getLast?.any Unicode.isBlank = false)
    (by simp [Trimmed, Option.any_eq_false])

theorem trimmed_of_no_blank {cs : List Char} (h : ∀ c ∈ cs, Unicode.isBlank c = false) :
    Trimmed cs :=
  ⟨fun c hc => h c (List.mem_of_mem_head? hc), fun c hc => h c (List.mem_of_mem_getLast? hc)⟩

/-- The two sides are trimmed by the same means, once from the left and once from the right. -/
theorem trimChars_eq (cs : List Char) :
    trimChars cs = (cs.dropWhile Unicode.isBlank).rdropWhile Unicode.isBlank := rfl

theorem trimmed_trimChars (cs : List Char) : Trimmed (trimChars cs) := by
  rw [trimChars_eq]
  constructor
  · intro c hc
    -- cutting at the right leaves the first character as it is
    obtain ⟨right, hright⟩ :=
      List.rdropWhile_prefix Unicode.isBlank (cs.dropWhile Unicode.isBlank)
    have hfirst := List.head?_dropWhile_not Unicode.isBlank cs
    rw [← hright, List.head?_append, Option.mem_def.mp hc] at hfirst
    simpa using hfirst
  · intro c hc
    obtain ⟨hne, rfl⟩ := List.mem_getLast?_eq_getLast hc
    exact Bool.eq_false_iff.mpr (List.rdropWhile_last_not Unicode.isBlank _ hne)

theorem exists_padded (cs : List Char) :
    ∃ left right, (∀ c ∈ left, Unicode.isBlank c = true) ∧
      (∀ c ∈ right, Unicode.isBlank c = true) ∧ cs = left ++ trimChars cs ++ right := by
  refine ⟨cs.takeWhile Unicode.isBlank,
    (cs.dropWhile Unicode.isBlank).rtakeWhile Unicode.isBlank,
    fun _ => List.mem_takeWhile_imp, fun _ => List.mem_rtakeWhile_imp, ?_⟩
  rw [trimChars_eq, List.append_assoc, List.rdropWhile_append_rtakeWhile,
    List.takeWhile_append_dropWhile]

theorem dropWhile_isBlank {cs : List Char} (hne : cs ≠ [])
    (h : ∀ c ∈ cs.head?, Unicode.isBlank c = false) (rest : List Char) :
    (cs ++ rest).dropWhile Unicode.isBlank = cs ++ rest := by
  cases cs with
  | nil => exact absurd rfl hne
  | cons c cs => simp [h c rfl]

/-- Trimming takes away the blanks around a text that has none at its own ends. -/
theorem trimChars_padded {left cs right : List Char} (hleft : ∀ c ∈ left, Unicode.isBlank c = true)
    (h : Trimmed cs) (hright : ∀ c ∈ right, Unicode.isBlank c = true) :
    trimChars (left ++ cs ++ right) = cs := by
  by_cases hne : cs = []
  · rw [hne, trimChars_eq_nil_iff, List.append_nil]
    exact List.forall_mem_append.mpr ⟨hleft, hright⟩
  · have hend := dropWhile_isBlank (List.reverse_ne_nil_iff.mpr hne)
      (fun c hc => h.2 c (List.head?_reverse ▸ hc)) []
    rw [List.append_nil] at hend
    rw [trimChars, List.append_assoc, List.dropWhile_append_of_pos hleft, dropWhile_isBlank hne h.1,
      List.reverse_append, List.dropWhile_append_of_pos, hend, List.reverse_reverse]
    exact fun c hc => hright c (List.mem_reverse.mp hc)

theorem trimChars_of_no_blank {cs : List Char} (h : ∀ c ∈ cs, Unicode.isBlank c = false) :
    trimChars cs = cs := by
  simpa using @trimChars_padded [] cs [] (by simp) (trimmed_of_no_blank h) (by simp)

end Text
end DocumentCatalog
