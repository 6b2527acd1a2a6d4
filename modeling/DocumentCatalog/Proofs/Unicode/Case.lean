import DocumentCatalog.Unicode.Case

/-!
Lower case is final: nothing that it makes is changed by it again, so a text in lower case stays as
it is. A character that is no lower-case form of another one is in the result only if it was in the
text.
-/

namespace DocumentCatalog
namespace Unicode

/-- Whether every second code point at most belongs to a span. -/
def Span.isSparse (s : Span) : Bool :=
  s.step == 2 || s.first == s.last

/-- Whether two spans can be told apart by their ends or by the parity of their code points. -/
def Span.apart (s t : Span) : Bool :=
  Nat.blt s.last t.first || (Nat.blt t.last s.first ||
    (s.isSparse && t.isSparse && (s.first + t.first) % 2 == 1))

theorem Span.contains_iff (s : Span) (c : Char) :
    s.contains c = true ↔
      s.first ≤ c.toNat ∧ c.toNat ≤ s.last ∧ (c.toNat - s.first) % s.step = 0 := by
  simp [Span.contains, and_assoc]

theorem Span.even_distance {s : Span} {c : Char} (hsparse : s.isSparse = true)
    (h : s.contains c = true) : s.first ≤ c.toNat ∧ (c.toNat - s.first) % 2 = 0 := by
  obtain ⟨hfirst, hlast, hstep⟩ := (s.contains_iff c).mp h
  refine ⟨hfirst, ?_⟩
  rcases Bool.or_eq_true_iff.mp hsparse with htwo | hone
  · rwa [eq_of_beq htwo] at hstep
  · have hends := eq_of_beq hone
    omega

theorem Span.not_contains_of_apart {s t : Span} {c : Char} (hapart : s.apart t = true)
    (h : s.contains c = true) : t.contains c = false := by
  rw [Bool.eq_false_iff]
  intro ht
  have hs := (s.contains_iff c).mp h
  have ht' := (t.contains_iff c).mp ht
  simp only [Span.apart, Bool.or_eq_true, Bool.and_eq_true, Nat.blt_eq, beq_iff_eq] at hapart
  rcases hapart with hbelow | habove | ⟨⟨hsparse, hsparse'⟩, hparity⟩
  · omega
  · omega
  · have heven := Span.even_distance hsparse h
    have heven' := Span.even_distance hsparse' ht
    omega

theorem not_covered_iff {spans : List Span} {c : Char} :
    covers spans c = false ↔ ∀ s ∈ spans, s.contains c = false := by
  simp [covers]

/-- The characters that lower case changes, but for the final sigma. -/
def moved : List Span :=
  ⟨0x130, 0x130, 1⟩ :: lowercaseTable.map (·.source)

/-- The characters that lower case makes of others. -/
def made : List Span :=
  [⟨0x69, 0x69, 1⟩, ⟨0x307, 0x307, 1⟩, ⟨0x3C2, 0x3C3, 1⟩] ++ lowercaseTable.map (·.image)

/-- Whether no code point of a span is that of a surrogate or too great. -/
def Span.isChars (s : Span) : Bool :=
  s.last < 0xD800 || (0xDFFF < s.first && s.last < 0x110000)

theorem isChars_image : ∀ m ∈ lowercaseTable, m.image.isChars = true := by decide +kernel

theorem images_apart_moved :
    (lowercaseTable.all fun m => moved.all fun s => m.image.apart s) = true := by
  decide +kernel

theorem image_apart_moved {m : Mapping} (hm : m ∈ lowercaseTable) {s : Span} (hs : s ∈ moved) :
    m.image.apart s = true :=
  List.all_eq_true.mp (List.all_eq_true.mp images_apart_moved m hm) s hs

theorem contains_image {m : Mapping} {c d : Char} (hchars : m.image.isChars = true)
    (h : m.image? c = some d) : m.image.contains d = true := by
  unfold Mapping.image? at h
  split at h
  · next hsource =>
      obtain ⟨hfirst, hlast, hstep⟩ := (m.source.contains_iff c).mp hsource
      have hbounds : m.target ≤ m.target + (c.toNat - m.source.first) ∧
          m.target + (c.toNat - m.source.first) ≤ m.image.last := by
        simp only [Mapping.image]
        omega
      have hvalid : (m.target + (c.toNat - m.source.first)).isValidChar := by
        have htarget : m.image.first = m.target := rfl
        simp only [Span.isChars, Bool.or_eq_true, Bool.and_eq_true, decide_eq_true_eq,
          htarget] at hchars
        unfold Nat.isValidChar
        omega
      have hnumber : d.toNat = m.target + (c.toNat - m.source.first) := by
        rw [← Option.some.inj h, Char.ofNat, dif_pos hvalid]
        rfl
      rw [Span.contains_iff, hnumber]
      refine ⟨hbounds.1, hbounds.2, ?_⟩
      simpa [Mapping.image] using hstep
  · cases h

/-- A character that the table moves becomes one of its images, and any other one stays. -/
theorem move_cases (c : Char) :
    (∃ m ∈ lowercaseTable, m.image.contains (move lowercaseTable c) = true) ∨
      move lowercaseTable c = c ∧ ∀ m ∈ lowercaseTable, m.source.contains c = false := by
  unfold move
  cases hfound : lowercaseTable.findSome? (·.image? c) with
  | some d =>
      obtain ⟨m, hm, himage⟩ := List.exists_of_findSome?_eq_some hfound
      exact .inl ⟨m, hm, contains_image (isChars_image m hm) himage⟩
  | none =>
      refine .inr ⟨rfl, fun m hm => ?_⟩
      have hnone := List.findSome?_eq_none_iff.mp hfound m hm
      simpa [Mapping.image?] using hnone

theorem lowercaseChar_eq_self {c : Char} (h : covers moved c = false) : lowercaseChar c = [c] := by
  have hmoved := not_covered_iff.mp h
  have hdotted : c.toNat ≠ 0x130 := by
    intro hc
    have habsent := hmoved ⟨0x130, 0x130, 1⟩ (by simp [moved])
    simp [Span.contains, hc] at habsent
  have hnone : lowercaseTable.findSome? (·.image? c) = none := by
    rw [List.findSome?_eq_none_iff]
    intro m hm
    have habsent := hmoved m.source (List.mem_cons_of_mem _ (List.mem_map_of_mem hm))
    simp [Mapping.image?, habsent]
  rw [lowercaseChar, if_neg hdotted, move, hnone, Option.getD_none]

theorem not_moved_of_mem_lowercaseChar {c d : Char} (h : d ∈ lowercaseChar c) :
    covers moved d = false := by
  unfold lowercaseChar at h
  split at h
  · rcases List.mem_cons.mp h with rfl | h
    · decide +kernel
    · rw [List.mem_singleton.mp h]
      decide +kernel
  · next hdotted =>
      rw [List.mem_singleton.mp h, not_covered_iff]
      rcases move_cases c with ⟨m, hm, himage⟩ | ⟨hstays, habsent⟩
      · intro s hs
        exact Span.not_contains_of_apart (image_apart_moved hm hs) himage
      · rw [hstays]
        intro s hs
        rcases List.mem_cons.mp hs with rfl | hs
        · rw [Bool.eq_false_iff, ne_eq, Span.contains_iff]
          intro hcontains
          have hbounds : 0x130 ≤ c.toNat ∧ c.toNat ≤ 0x130 := ⟨hcontains.1, hcontains.2.1⟩
          omega
        · obtain ⟨m, hm, rfl⟩ := List.mem_map.mp hs
          exact habsent m hm

theorem lowerSigma_cases (before after : List Char) :
    lowerSigma before after = 'ς' ∨ lowerSigma before after = 'σ' := by
  unfold lowerSigma
  split
  · exact .inl rfl
  · exact .inr rfl

theorem not_moved_of_mem_lowercaseFrom {before cs : List Char} {d : Char}
    (h : d ∈ lowercaseFrom before cs) : covers moved d = false := by
  induction cs generalizing before with
  | nil => cases h
  | cons c rest ih =>
      rw [lowercaseFrom] at h
      rcases List.mem_append.mp h with h | h
      · split at h
        · rw [List.mem_singleton.mp h]
          rcases lowerSigma_cases before rest with hsigma | hsigma <;> rw [hsigma] <;>
            decide +kernel
        · exact not_moved_of_mem_lowercaseChar h
      · exact ih h

theorem lowercaseFrom_eq_self {cs : List Char} (h : ∀ c ∈ cs, covers moved c = false)
    (before : List Char) : lowercaseFrom before cs = cs := by
  induction cs generalizing before with
  | nil => rfl
  | cons c rest ih =>
      obtain ⟨hc, hrest⟩ := List.forall_mem_cons.mp h
      have hsigma : c ≠ 'Σ' := by
        rintro rfl
        have hcovered : covers moved 'Σ' = true := by decide +kernel
        rw [hcovered] at hc
        cases hc
      rw [lowercaseFrom, if_neg hsigma, lowercaseChar_eq_self hc, ih hrest, List.singleton_append]

theorem lowercase_lowercase (s : String) : lowercase (lowercase s) = lowercase s := by
  have hfixed : lowercaseFrom [] (lowercase s).toList = (lowercase s).toList := by
    apply lowercaseFrom_eq_self
    intro c hc
    rw [lowercase, String.toList_ofList] at hc
    exact not_moved_of_mem_lowercaseFrom hc
  rw [lowercase, hfixed, String.ofList_toList]

theorem mem_lowercaseChar {c d : Char} (hmade : covers made d = false) (h : d ∈ lowercaseChar c) :
    d = c := by
  unfold lowercaseChar at h
  split at h
  · have hcovered : ['i', Char.ofNat 0x307].all (covers made) = true := by decide +kernel
    rw [List.all_eq_true.mp hcovered d h] at hmade
    cases hmade
  · rw [List.mem_singleton] at h
    rcases move_cases c with ⟨m, hm, himage⟩ | ⟨hstays, -⟩
    · have habsent := not_covered_iff.mp hmade m.image
        (List.mem_append_right _ (List.mem_map_of_mem hm))
      rw [h, himage] at habsent
      cases habsent
    · exact h.trans hstays

theorem mem_lowercaseFrom {before cs : List Char} {d : Char} (hmade : covers made d = false)
    (h : d ∈ lowercaseFrom before cs) : d ∈ cs := by
  induction cs generalizing before with
  | nil => cases h
  | cons c rest ih =>
      rw [lowercaseFrom] at h
      rcases List.mem_append.mp h with h | h
      · split at h
        · have hcovered : ['ς', 'σ'].all (covers made) = true := by decide +kernel
          have hsigma : d ∈ ['ς', 'σ'] := by
            rw [List.mem_singleton.mp h]
            simpa using lowerSigma_cases before rest
          rw [List.all_eq_true.mp hcovered d hsigma] at hmade
          cases hmade
        · exact List.mem_cons.mpr (.inl (mem_lowercaseChar hmade h))
      · exact List.mem_cons_of_mem _ (ih h)

/-- What lower case does not make of anything was there before. -/
theorem mem_of_mem_lowercase {s : String} {d : Char} (hmade : covers made d = false)
    (h : d ∈ (lowercase s).toList) : d ∈ s.toList := by
  rw [lowercase, String.toList_ofList] at h
  exact mem_lowercaseFrom hmade h

end Unicode
end DocumentCatalog
