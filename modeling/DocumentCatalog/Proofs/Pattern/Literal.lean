import DocumentCatalog.Pattern.Reader
import Mathlib.Data.List.Forall2

/-!
Patterns that match a text literally. Each is read back as the characters of the text one after the
other, whatever they would mean unescaped, and it matches wherever characters that these stand for
follow each other.
-/

namespace DocumentCatalog
namespace Pattern
namespace Regex

/-- One character of each set after the other. -/
def row : List CharSet → Regex
  | [] => .empty
  | [s] => .set s
  | s :: t :: rest => .seq (.set s) (row (t :: rest))

/-- The characters of a text one after the other. -/
def text (flags : Flags) (s : String) : Regex :=
  row (s.toList.map (Primitive.charSet flags))

theorem ends_row_cons (text : Array Char) (s : CharSet) (sets : List CharSet) (starts : List Nat) :
    (row (s :: sets)).ends text starts = (row sets).ends text ((set s).ends text starts) := by
  cases sets with
  | nil => simp [row, ends]
  | cons t rest => simp [row, ends]

theorem mem_ends_set (cs : List Char) (s : CharSet) (starts : List Nat) (j : Nat) :
    j ∈ (set s).ends cs.toArray starts ↔
      ∃ i ∈ starts, ∃ c, cs[i]? = some c ∧ s.contains c = true ∧ j = i + 1 := by
  simp only [ends, List.getElem?_toArray, List.mem_filterMap, Option.bind_eq_some_iff,
    Option.ite_none_right_eq_some, Option.some.injEq, @eq_comm _ j]

theorem cons_prefix_drop_iff {c : Char} {run cs : List Char} {i : Nat} :
    c :: run <+: cs.drop i ↔ cs[i]? = some c ∧ run <+: cs.drop (i + 1) := by
  rw [← List.head?_drop, ← List.tail_drop]
  cases cs.drop i with
  | nil => simp
  | cons d rest => simp [List.cons_prefix_cons, eq_comm]

/-- A row matches from a position on what stands there in the row's order. -/
theorem mem_ends_row (cs : List Char) (sets : List CharSet) (starts : List Nat) (j : Nat) :
    j ∈ (row sets).ends cs.toArray starts ↔
      ∃ i ∈ starts, ∃ run, run <+: cs.drop i ∧
        List.Forall₂ (fun s c => s.contains c = true) sets run ∧ j = i + run.length := by
  induction sets generalizing starts with
  | nil => simp [row, ends]
  | cons s sets ih =>
      rw [ends_row_cons, ih]
      constructor
      · rintro ⟨k, hk, run, hprefix, hrun, rfl⟩
        obtain ⟨i, hi, c, hc, hs, rfl⟩ := (mem_ends_set cs s starts k).mp hk
        exact ⟨i, hi, c :: run, cons_prefix_drop_iff.mpr ⟨hc, hprefix⟩, .cons hs hrun, by
          simp only [List.length_cons]; omega⟩
      · rintro ⟨i, hi, run, hprefix, hrun, rfl⟩
        obtain ⟨c, rest, hs, hrest, rfl⟩ := List.forall₂_cons_left_iff.mp hrun
        obtain ⟨hc, hprefix⟩ := cons_prefix_drop_iff.mp hprefix
        exact ⟨i + 1, (mem_ends_set cs s starts _).mpr ⟨i, hi, c, hc, hs, rfl⟩, rest, hprefix,
          hrest, by simp only [List.length_cons]; omega⟩

theorem isMatch_row_iff (sets : List CharSet) (s : String) :
    (row sets).isMatch s = true ↔
      ∃ run, run <:+: s.toList ∧ List.Forall₂ (fun s c => s.contains c = true) sets run := by
  have hsome : (row sets).isMatch s = true ↔
      ∃ j, j ∈ (row sets).ends s.toList.toArray (List.range (s.toList.length + 1)) := by
    simp [isMatch, List.eq_nil_iff_forall_not_mem]
  rw [hsome]
  constructor
  · rintro ⟨j, hj⟩
    obtain ⟨i, -, run, hprefix, hrun, -⟩ := (mem_ends_row _ _ _ _).mp hj
    exact ⟨run, hprefix.isInfix.trans (List.drop_suffix _ _).isInfix, hrun⟩
  · rintro ⟨run, ⟨before, after, hs⟩, hrun⟩
    refine ⟨before.length + run.length, (mem_ends_row _ _ _ _).mpr
      ⟨before.length, ?_, run, ?_, hrun, rfl⟩⟩
    · rw [List.mem_range, ← hs]
      simp only [List.length_append]
      omega
    · rw [← hs, List.append_assoc, List.drop_left]
      exact List.prefix_append run after

end Regex

namespace State

/-- The first of several pieces stands before the others. -/
theorem regex_sequence_concat {pieces : List Piece} (h : pieces ≠ []) (first : Piece) :
    (sequence (pieces ++ [first])).regex = .seq first.regex (sequence pieces).regex := by
  match pieces with
  | [] => exact absurd rfl h
  | [p] => rfl
  | p :: q :: rest => simp [sequence]

theorem foldl_max_depth {pieces : List Piece} (h : ∀ p ∈ pieces, p.depth = 0) :
    pieces.foldl (fun d q => max d q.depth) 0 = 0 := by
  induction pieces with
  | nil => rfl
  | cons p rest ih =>
      rw [List.foldl_cons, h p List.mem_cons_self]
      exact ih fun q hq => h q (List.mem_cons_of_mem p hq)

theorem depth_sequence_le {pieces : List Piece} (h : ∀ p ∈ pieces, p.depth = 0) :
    (sequence pieces).depth ≤ 1 := by
  match pieces with
  | [] => simp [sequence]
  | [p] => simp [sequence, h p]
  | p :: q :: rest =>
      have hrest := foldl_max_depth fun r hr => h r (List.mem_cons_of_mem p hr)
      simp [sequence, h p List.mem_cons_self, hrest]

/-- The pieces of a row, the last of them first. -/
def rowPieces (sets : List CharSet) : List Piece :=
  (sets.map fun s => ⟨.set s, 0, false⟩).reverse

theorem rowPieces_cons (s : CharSet) (sets : List CharSet) :
    rowPieces (s :: sets) = rowPieces sets ++ [⟨.set s, 0, false⟩] := by
  simp [rowPieces]

theorem regex_sequence_rowPieces (sets : List CharSet) :
    (sequence (rowPieces sets)).regex = Regex.row sets := by
  match sets with
  | [] | [_] => rfl
  | s :: t :: rest =>
      have hne : rowPieces (t :: rest) ≠ [] := by simp [rowPieces]
      rw [rowPieces_cons, regex_sequence_concat hne, regex_sequence_rowPieces (t :: rest),
        Regex.row]

theorem depth_sequence_rowPieces_le (sets : List CharSet) :
    (sequence (rowPieces sets)).depth ≤ 1 := by
  refine depth_sequence_le fun p hp => ?_
  obtain ⟨s, -, rfl⟩ := List.mem_map.mp (List.mem_reverse.mp hp)
  rfl

end State

/-- What starts with a character that means nothing starts with none of those that do. -/
theorem cons_ne_of_isMeta {c d : Char} {cs ds : List Char} (hc : isMeta c = false)
    (hd : isMeta d = true) : c :: cs ≠ d :: ds := by
  rintro h
  obtain ⟨rfl, -⟩ := List.cons.inj h
  rw [hc] at hd
  cases hd

namespace Primitive

theorem read?_escaped (flags : Flags) {c : Char} (h : isMeta c = true) (rest : List Char) :
    read? flags ('\\' :: c :: rest) = some (.char c, rest) := by
  simp [read?, readEscape?, h]

theorem read?_plain (flags : Flags) {c : Char} (h : isMeta c = false) (rest : List Char) :
    read? flags (c :: rest) = some (.char c, rest) := by
  unfold read?
  split
  case h_1 heq => cases heq
  case h_6 heq =>
    cases heq
    rfl
  all_goals
    next heq => exact (cons_ne_of_isMeta h (by decide) heq).elim

end Primitive

namespace Reader

open State

/-- A character that means something stands behind a backslash and every other one for itself, so
either way one round reads it as a single character. -/
theorem readPieces?_literalChars_cons {s : State} (hverbose : s.flags.verbose = false)
    (fuel : Nat) (c : Char) (rest : List Char) :
    readPieces? (fuel + 1) s (literalChars (c :: rest)) =
      readPieces? fuel (s.push (.set (Primitive.charSet s.flags c)) 0) (literalChars rest) := by
  have hskip (cs : List Char) : s.flags.skip cs = cs := by simp [Flags.skip, hverbose]
  cases hmeta : isMeta c with
  | true =>
      have hchars : literalChars (c :: rest) = '\\' :: c :: literalChars rest := by
        simp [literalChars, hmeta]
      rw [hchars, readPieces?, hskip]
      simp [Primitive.read?_escaped _ hmeta, Primitive.regex?]
  | false =>
      have hchars : literalChars (c :: rest) = c :: literalChars rest := by
        simp [literalChars, hmeta]
      rw [hchars, readPieces?, hskip]
      split
      case h_1 heq => cases heq
      case h_10 => simp [Primitive.read?_plain _ hmeta, Primitive.regex?]
      all_goals
        next heq => exact (cons_ne_of_isMeta hmeta (by decide) heq).elim

theorem readPieces?_literalChars {fuel : Nat} {s : State} {cs : List Char}
    (hverbose : s.flags.verbose = false) (hfuel : cs.length < fuel) :
    readPieces? fuel s (literalChars cs) =
      some { s with pieces := rowPieces (cs.map (Primitive.charSet s.flags)) ++ s.pieces } := by
  induction cs generalizing fuel s with
  | nil =>
      obtain ⟨fuel, rfl⟩ := Nat.exists_eq_succ_of_ne_zero (Nat.ne_of_gt hfuel)
      simp [literalChars, readPieces?, Flags.skip, hverbose, rowPieces]
  | cons c cs ih =>
      obtain ⟨fuel, rfl⟩ := Nat.exists_eq_succ_of_ne_zero (Nat.ne_of_gt (Nat.zero_lt_of_lt hfuel))
      rw [readPieces?_literalChars_cons hverbose,
        ih (s := s.push _ _) hverbose (Nat.lt_of_succ_lt_succ hfuel)]
      simp [push, rowPieces_cons]

end Reader

theorem length_le_length_literalChars (cs : List Char) : cs.length ≤ (literalChars cs).length := by
  induction cs with
  | nil => simp
  | cons c cs ih =>
      have hcons : literalChars (c :: cs) = literalChars [c] ++ literalChars cs := by
        simp [literalChars]
      have hone : 1 ≤ (literalChars [c]).length := by
        cases h : isMeta c <;> simp [literalChars, h]
      rw [hcons, List.length_append, List.length_cons]
      omega

/-- Somewhere in a text stand as many characters as another text has, each equal to the one of that
text when case is disregarded. -/
def HoldsIgnoringCase (text other : String) : Prop :=
  ∃ run, run <:+: text.toList ∧
    List.Forall₂ (fun c d => Unicode.fold c = Unicode.fold d) run other.toList

theorem Regex.isMatch_text_iff (other text : String) :
    (Regex.text { ignoreCase := true } other).isMatch text = true ↔
      HoldsIgnoringCase text other := by
  have halike (c d : Char) :
      (Primitive.charSet { ignoreCase := true } c).contains d = true ↔
        Unicode.fold d = Unicode.fold c := by
    simp [Primitive.charSet, CharSet.contains]
  simp only [Regex.text, isMatch_row_iff, List.forall₂_map_left_iff, halike, HoldsIgnoringCase]
  refine exists_congr fun run => and_congr_right fun _ => ?_
  exact ⟨List.Forall₂.flip, List.Forall₂.flip⟩

/-- Nothing in a literal pattern is an operator: it stands for the characters of the text and is
refused for nothing but its size. -/
theorem Regex.ofPattern?_literal {flags : Flags} (h : flags.verbose = false) (s : String) :
    ofPattern? flags (literal s) =
      if (text flags s).fits = true then some (text flags s) else none := by
  have hread : Reader.readPieces? ((literalChars s.toList).length + 1) (.start flags)
      (literalChars s.toList) =
        some { State.start flags with
          pieces := State.rowPieces (s.toList.map (Primitive.charSet flags)) } := by
    rw [Reader.readPieces?_literalChars (s := .start flags) h
      (Nat.lt_succ_of_le (length_le_length_literalChars _))]
    simp [State.start]
  have hdepth := State.depth_sequence_rowPieces_le (s.toList.map (Primitive.charSet flags))
  have hshallow := Nat.le_trans hdepth (by decide : 1 ≤ Reader.greatestDepth)
  rw [ofPattern?, ofChars?, literal, String.toList_ofList, hread, text]
  cases hfits : (row (s.toList.map (Primitive.charSet flags))).fits <;>
    simp [State.start, State.alternation, State.regex_sequence_rowPieces, hshallow, hfits]

end Pattern
end DocumentCatalog
