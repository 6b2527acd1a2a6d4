import DocumentCatalog.Proofs.Text.Split
import DocumentCatalog.Text.Numeral

/-!
Reading numerals. A text is read as a number exactly when it holds digits alone, after a plus sign
or none, and their value is not too great; what is written in decimal is read back as it was.
-/

namespace DocumentCatalog
namespace Text

theorem digit?_eq (c : Char) : digit? c = if c.isDigit then some (c.toNat - '0'.toNat) else none := by
  have hdigit : c.isDigit = true ↔ '0' ≤ c ∧ c ≤ '9' := by
    simp [Char.isDigit, Char.le_def, UInt32.le_iff_toNat_le]
  unfold digit?
  by_cases h : '0' ≤ c ∧ c ≤ '9'
  · rw [if_pos h, if_pos (hdigit.mpr h)]
  · rw [if_neg h, if_neg (fun hc => h (hdigit.mp hc))]

theorem le_ofDigitChars (value : Nat) (cs : List Char) : value ≤ Nat.ofDigitChars 10 cs value := by
  induction cs generalizing value with
  | nil => simp
  | cons c rest ih =>
      rw [Nat.ofDigitChars_cons]
      have hrest := ih (10 * value + (c.toNat - '0'.toNat))
      omega

/-- The bound is looked at after every digit, which is the same as looking at it once, since the
value never falls. -/
theorem readDigits_eq_ok_iff (greatest value n : Nat) (cs : List Char) (h : value ≤ greatest) :
    readDigits greatest value cs = .ok n ↔
      (∀ c ∈ cs, c.isDigit = true) ∧ Nat.ofDigitChars 10 cs value = n ∧ n ≤ greatest := by
  induction cs generalizing value with
  | nil =>
      simp only [readDigits, Except.ok.injEq, Nat.ofDigitChars_nil]
      constructor
      · intro hn
        exact ⟨by simp, hn, hn ▸ h⟩
      · rintro ⟨-, hn, -⟩
        exact hn
  | cons c rest ih =>
      rw [readDigits, digit?_eq, Nat.ofDigitChars_cons]
      by_cases hdigit : c.isDigit = true
      · have hcomm : value * 10 = 10 * value := Nat.mul_comm _ _
        simp only [if_pos hdigit, hcomm]
        by_cases hbound : 10 * value + (c.toNat - '0'.toNat) ≤ greatest
        · rw [if_pos hbound, ih _ hbound]
          simp [hdigit]
        · rw [if_neg hbound]
          have hgrows := le_ofDigitChars (10 * value + (c.toNat - '0'.toNat)) rest
          constructor
          · intro hfail
            cases hfail
          · rintro ⟨-, hn, hle⟩
            omega
      · simp [hdigit]

theorem readMagnitude_eq_ok_iff (greatest n : Nat) (cs : List Char) :
    readMagnitude greatest cs = .ok n ↔
      cs ≠ [] ∧ (∀ c ∈ cs, c.isDigit = true) ∧ Nat.ofDigitChars 10 cs 0 = n ∧ n ≤ greatest := by
  cases cs with
  | nil => simp [readMagnitude]
  | cons c rest =>
      rw [readMagnitude, readDigits_eq_ok_iff greatest 0 n _ (Nat.zero_le _)]
      · simp
      · simp

/-- Whether a text is a numeral for a number: digits alone, after a plus sign or none. -/
def Denotes (s : String) (n : Nat) : Prop :=
  ∃ digits, (s.toList = digits ∨ s.toList = '+' :: digits) ∧ digits ≠ [] ∧
    (∀ c ∈ digits, c.isDigit = true) ∧ Nat.ofDigitChars 10 digits 0 = n

theorem readNat_eq_ok_iff (greatest n : Nat) (s : String) :
    readNat greatest s = .ok n ↔ Denotes s n ∧ n ≤ greatest := by
  unfold readNat Denotes
  split
  · next hs => simp [hs]
  · next digits hs =>
      rw [readMagnitude_eq_ok_iff, hs]
      constructor
      · rintro ⟨hne, hdigits, hvalue, hle⟩
        exact ⟨⟨digits, .inr rfl, hne, hdigits, hvalue⟩, hle⟩
      · rintro ⟨⟨other, rfl | hother, hne, hdigits, hvalue⟩, hle⟩
        · have hplus := hdigits '+' (by simp)
          simp at hplus
        · rw [List.cons.injEq] at hother
          rw [hother.2]
          exact ⟨hne, hdigits, hvalue, hle⟩
  · next hempty hplus =>
      rw [readMagnitude_eq_ok_iff]
      constructor
      · rintro ⟨hne, hdigits, hvalue, hle⟩
        exact ⟨⟨s.toList, .inl rfl, hne, hdigits, hvalue⟩, hle⟩
      · rintro ⟨⟨digits, hs | hs, h⟩, hle⟩
        · rw [hs]
          exact ⟨h.1, h.2.1, h.2.2, hle⟩
        · exact absurd hs (hplus digits)

/-- A text is a numeral for one number at most. -/
theorem Denotes.unique {s : String} {m n : Nat} (hm : Denotes s m) (hn : Denotes s n) : m = n := by
  have hread := (readNat_eq_ok_iff (max m n) m s).mpr ⟨hm, Nat.le_max_left m n⟩
  rw [(readNat_eq_ok_iff (max m n) n s).mpr ⟨hn, Nat.le_max_right m n⟩] at hread
  exact (Except.ok.inj hread).symm

theorem isDigit_of_mem_toDigits {n : Nat} {c : Char} (h : c ∈ Nat.toDigits 10 n) :
    c.isDigit = true :=
  Nat.isDigit_of_mem_toDigits (by decide) (by decide) h

theorem denotes_numeral (n : Nat) : Denotes (numeral n) n := by
  exact ⟨Nat.toDigits 10 n, .inl (by simp [numeral]), Nat.toDigits_ne_nil,
    fun _ => isDigit_of_mem_toDigits, Nat.ofDigitChars_ten_toDigits⟩

theorem readNat_numeral {greatest n : Nat} (h : n ≤ greatest) :
    readNat greatest (numeral n) = .ok n :=
  (readNat_eq_ok_iff greatest n _).mpr ⟨denotes_numeral n, h⟩

theorem readMagnitude_toDigits (greatest n : Nat) :
    (readMagnitude greatest (Nat.toDigits 10 n)).toOption = if n ≤ greatest then some n else none := by
  by_cases hle : n ≤ greatest
  · have hread := (readMagnitude_eq_ok_iff greatest n (Nat.toDigits 10 n)).mpr
      ⟨Nat.toDigits_ne_nil, fun _ => isDigit_of_mem_toDigits, Nat.ofDigitChars_ten_toDigits, hle⟩
    rw [hread, if_pos hle]
    rfl
  · rw [if_neg hle]
    cases hread : readMagnitude greatest (Nat.toDigits 10 n) with
    | error _ => rfl
    | ok m =>
        obtain ⟨-, -, hvalue, hm⟩ := (readMagnitude_eq_ok_iff greatest m _).mp hread
        rw [Nat.ofDigitChars_ten_toDigits] at hvalue
        exact absurd (hvalue ▸ hm) hle

theorem toList_numeral_ne {c : Char} (h : c.isDigit = false) (n : Nat) (rest : List Char) :
    (numeral n).toList ≠ c :: rest := by
  intro hchars
  rw [numeral, String.toList_ofList] at hchars
  have hdigit := isDigit_of_mem_toDigits (hchars ▸ List.mem_cons_self)
  rw [h] at hdigit
  cases hdigit

theorem readNat_numeral_toOption (greatest n : Nat) :
    (readNat greatest (numeral n)).toOption = if n ≤ greatest then some n else none := by
  rw [← readMagnitude_toDigits, readNat]
  split
  · next h => simp [numeral] at h
  · next rest h => exact absurd h (toList_numeral_ne (by decide) n rest)
  · rw [numeral, String.toList_ofList]

/-- What is written in decimal is read as an integer while it is one of 64 bits. -/
theorem readInteger?_numeral (n : Nat) :
    readInteger? (numeral n) = if n < 0x8000000000000000 then some (n : Int) else none := by
  have hread := readNat_numeral_toOption 0x7FFFFFFFFFFFFFFF n
  rw [readInteger?]
  split
  · next rest h => exact absurd h (toList_numeral_ne (by decide) n rest)
  · by_cases hfits : n < 0x8000000000000000
    · rw [hread, if_pos hfits, if_pos (by omega)]
      rfl
    · rw [hread, if_neg hfits, if_neg (by omega)]
      rfl

theorem readInteger?_minus (n : Nat) :
    readInteger? (String.ofList ('-' :: Nat.toDigits 10 n)) =
      if n ≤ 0x8000000000000000 then some (-(n : Int)) else none := by
  have hread := readMagnitude_toDigits 0x8000000000000000 n
  by_cases hfits : n ≤ 0x8000000000000000
  · rw [if_pos hfits] at hread
    rw [readInteger?, String.toList_ofList, if_pos hfits]
    simp only [hread]
    rfl
  · rw [if_neg hfits] at hread
    rw [readInteger?, String.toList_ofList, if_neg hfits]
    simp only [hread]
    rfl

/-- Whether a text is a numeral for an integer: digits alone, after a sign or none. -/
inductive DenotesInteger (s : String) : Int → Prop where
  | natural {n : Nat} : Denotes s n → DenotesInteger s n
  | negative {digits : List Char} : s.toList = '-' :: digits → digits ≠ [] →
      (∀ c ∈ digits, c.isDigit = true) → DenotesInteger s (-(Nat.ofDigitChars 10 digits 0 : Int))

theorem not_denotes_of_minus {s : String} {rest : List Char} (h : s.toList = '-' :: rest) (n : Nat) :
    ¬ Denotes s n := by
  rintro ⟨digits, hs | hs, -, hdigits, -⟩
  · exact absurd (hdigits '-' (hs ▸ h ▸ List.mem_cons_self)) (by decide)
  · rw [h, List.cons.injEq] at hs
    exact absurd hs.1 (by decide)

/-- One more integer below zero is read than above. -/
theorem readInteger?_eq_some_iff (s : String) (i : Int) :
    readInteger? s = some i ↔
      DenotesInteger s i ∧ -0x8000000000000000 ≤ i ∧ i < 0x8000000000000000 := by
  have hmap : ∀ (f : Int → Int) (result : Except NumeralError Nat),
      result.toOption.map f = some i ↔ ∃ n : Nat, result = .ok n ∧ f n = i := by
    intro f result
    cases result <;> simp [Except.toOption]
  rw [readInteger?]
  split
  · next digits hs =>
      simp only [hmap, readMagnitude_eq_ok_iff]
      constructor
      · rintro ⟨n, ⟨hne, hdigits, rfl, hle⟩, rfl⟩
        exact ⟨.negative hs hne hdigits, by omega⟩
      · rintro ⟨hdenotes, hlow, -⟩
        cases hdenotes with
        | natural hn => exact absurd hn (not_denotes_of_minus hs _)
        | negative hs' hne hdigits =>
            cases hs.symm.trans hs'
            exact ⟨_, ⟨hne, hdigits, rfl, by omega⟩, rfl⟩
  · next hminus =>
      simp only [hmap, readNat_eq_ok_iff]
      constructor
      · rintro ⟨n, ⟨hdenotes, hle⟩, rfl⟩
        exact ⟨.natural hdenotes, by omega⟩
      · rintro ⟨hdenotes, -, hhigh⟩
        cases hdenotes with
        | natural hn => exact ⟨_, ⟨hn, by omega⟩, rfl⟩
        | negative hs => exact absurd hs (hminus _)

theorem readInteger?_bounds {s : String} {i : Int} (h : readInteger? s = some i) :
    -0x8000000000000000 ≤ i ∧ i < 0x8000000000000000 :=
  ((readInteger?_eq_some_iff s i).mp h).2

theorem isBlank_of_isDigit {c : Char} (h : c.isDigit = true) : Unicode.isBlank c = false := by
  have hrange : 48 ≤ c.toNat ∧ c.toNat ≤ 57 := by
    simpa [Char.isDigit, UInt32.le_iff_toNat_le] using h
  apply Bool.eq_false_iff.mpr
  intro hblank
  simp [Unicode.isBlank, Unicode.covers, Unicode.whiteSpace, Unicode.Span.contains] at hblank
  omega

theorem trim_numeral (n : Nat) : trim (numeral n) = numeral n := by
  have hdigits : ∀ c ∈ Nat.toDigits 10 n, Unicode.isBlank c = false := by
    intro c hc
    exact isBlank_of_isDigit (isDigit_of_mem_toDigits hc)
  simp [trim, numeral, trimChars_of_no_blank hdigits]

end Text
end DocumentCatalog
