import DocumentCatalog.Text.Utf8
import Mathlib.Algebra.Group.Nat.Defs
import Mathlib.Data.List.Basic
import Mathlib.Tactic.SplitIfs

/-!
Octets and the texts that they stand for. Reading accepts exactly the octets that a text is written
with, so no two sequences of octets are read as one text.
-/

namespace DocumentCatalog
namespace Text
namespace Utf8

/-- The octets of a character. -/
def octetsOf (c : Char) : List Nat :=
  (String.utf8EncodeChar c).map UInt8.toNat

/-- The octets after the first one of a character, six bits in each, from the highest ones. -/
def continuation : Nat → Nat → List Nat
  | 0, _ => []
  | count + 1, v => (0x80 + v / 64 ^ count % 64) :: continuation count v

/-- The octets that stand for the value of a character. -/
def valueOctets (v : Nat) : List Nat :=
  if v < 0x80 then [v]
  else if v < 0x800 then (0xC0 + v / 64) :: continuation 1 v
  else if v < 0x10000 then (0xE0 + v / 64 ^ 2) :: continuation 2 v
  else (0xF0 + v / 64 ^ 3) :: continuation 3 v

theorem encode_eq (s : String) : encode s = s.toList.flatMap octetsOf :=
  rfl

theorem octetsOf_eq (c : Char) : octetsOf c = valueOctets c.toNat := by
  have hvalid : c.toNat < 0x110000 := by
    rcases c.valid with h | h
    · exact Nat.lt_trans h (by decide)
    · exact h.2
  unfold Char.toNat at hvalid ⊢
  unfold octetsOf String.utf8EncodeChar valueOctets
  generalize c.val.toNat = v at hvalid ⊢
  simp only [← Nat.lt_succ_iff]
  split
  · simp only [List.map_cons, List.map_nil, UInt8.toNat_ofNat', List.cons.injEq, and_true]
    omega
  split
  · simp [continuation]
    omega
  split
  · simp [continuation]
    omega
  · simp [continuation]
    omega

theorem octetsOf_ofNat {v : Nat} (h : v.isValidChar) :
    octetsOf (Char.ofNat v) = valueOctets v := by
  have hv : (Char.ofNat v).toNat = v := by
    rw [Char.ofNat, dif_pos h]
    rfl
  rw [octetsOf_eq, hv]

section Start
variable {octet : Nat}

theorem start_of_lt_80 (h : octet < 0x80) :
    start octet = ([some (Char.ofNat octet)], .between) := by
  rw [start, if_pos h]

theorem start_of_lt_E0 (hfrom : 0xC2 ≤ octet) (hto : octet < 0xE0) :
    start octet = ([], .inside (octet - 0xC0) 1 0x80 0xBF) := by
  rw [start, if_neg (by omega), if_neg (by omega), if_pos hto]

/-- Of three octets the second one is bounded after the least and the surrogate first octet. -/
theorem start_of_lt_F0 (hfrom : 0xE0 ≤ octet) (hto : octet < 0xF0) :
    start octet = ([], .inside (octet - 0xE0) 2 (if octet = 0xE0 then 0xA0 else 0x80)
      (if octet = 0xED then 0x9F else 0xBF)) := by
  by_cases hE0 : octet = 0xE0
  · rw [hE0]
    rfl
  by_cases hED : octet = 0xED
  · rw [hED]
    rfl
  · rw [start, if_neg (by omega), if_neg (by omega), if_neg (by omega), if_neg hE0, if_neg hED,
      if_pos hto, if_neg hE0, if_neg hED]

/-- Of four octets the second one is bounded after the least and the greatest first octet. -/
theorem start_of_lt_F5 (hfrom : 0xF0 ≤ octet) (hto : octet < 0xF5) :
    start octet = ([], .inside (octet - 0xF0) 3 (if octet = 0xF0 then 0x90 else 0x80)
      (if octet = 0xF4 then 0x8F else 0xBF)) := by
  by_cases hF0 : octet = 0xF0
  · rw [hF0]
    rfl
  by_cases hF4 : octet = 0xF4
  · rw [hF4]
    rfl
  · rw [start, if_neg (by omega), if_neg (by omega), if_neg (by omega), if_neg (by omega),
      if_neg (by omega), if_neg (by omega), if_neg hF0, if_pos (by omega), if_neg hF0, if_neg hF4]

theorem start_of_not_first (h : 0x80 ≤ octet ∧ octet < 0xC2 ∨ 0xF5 ≤ octet) :
    start octet = ([none], .between) := by
  unfold start
  split_ifs <;> first | omega | rfl

theorem decodeFrom_between_cons (octet : Nat) (rest : List Nat) :
    decodeFrom .between (octet :: rest) = (start octet).1 ++ decodeFrom (start octet).2 rest :=
  rfl

end Start

section Inside
variable {octets rest : List Nat} {cs : List Char} {bits owed low high octet v : Nat}

theorem decodeFrom_inside_cons (hlow : low ≤ octet) (hhigh : octet ≤ high) :
    decodeFrom (.inside bits owed low high) (octet :: rest) =
      if owed ≤ 1 then some (Char.ofNat (bits * 64 + (octet - 0x80))) :: decodeFrom .between rest
      else decodeFrom (.inside (bits * 64 + (octet - 0x80)) (owed - 1) 0x80 0xBF) rest := by
  by_cases howed : owed ≤ 1 <;> simp [decodeFrom, step, hlow, hhigh, howed]

theorem within_of_decodeFrom_inside
    (h : decodeFrom (.inside bits owed low high) octets = cs.map some) :
    ∃ octet rest, octets = octet :: rest ∧ low ≤ octet ∧ octet ≤ high := by
  cases octets with
  | nil => cases cs <;> simp [decodeFrom] at h
  | cons octet rest =>
      refine ⟨octet, rest, rfl, ?_⟩
      by_contra hout
      cases cs <;> simp [decodeFrom, step, hout] at h

theorem join_bits_iff (hlow : 0x80 ≤ octet) (hhigh : octet ≤ 0xBF) (w : Nat) :
    bits * 64 + (octet - 0x80) = w ↔ w / 64 = bits ∧ octet = 0x80 + w % 64 := by
  omega

theorem div_pow_succ (v owed : Nat) : v / 64 ^ (owed + 1) = v / 64 ^ owed / 64 := by
  rw [Nat.pow_succ, Nat.div_div_eq_div_mul]

theorem decodeFrom_continuation (owed : Nat) (hbits : v / 64 ^ (owed + 1) = bits)
    (hlow : low ≤ 0x80 + v / 64 ^ owed % 64) (hhigh : 0x80 + v / 64 ^ owed % 64 ≤ high)
    (rest : List Nat) :
    decodeFrom (.inside bits (owed + 1) low high) (continuation (owed + 1) v ++ rest) =
      some (Char.ofNat v) :: decodeFrom .between rest := by
  induction owed generalizing bits low high with
  | zero =>
      have hread := (join_bits_iff (by omega) (by omega) v).mpr ⟨by simpa using hbits, rfl⟩
      rw [Nat.pow_zero, Nat.div_one] at hlow hhigh
      rw [continuation, continuation, Nat.pow_zero, Nat.div_one, List.cons_append, List.nil_append,
        decodeFrom_inside_cons hlow hhigh, if_pos (Nat.le_refl _), hread]
  | succ owed ih =>
      rw [div_pow_succ] at hbits
      have hread := (join_bits_iff (by omega) (by omega) _).mpr ⟨hbits, rfl⟩
      rw [continuation, List.cons_append, decodeFrom_inside_cons hlow hhigh, if_neg (by omega),
        Nat.add_sub_cancel, hread]
      exact ih rfl (by omega) (by omega)

/-- What is read inside a character without a report is the continuation of its value. -/
theorem exists_continuation (owed : Nat) (hlow : 0x80 ≤ low) (hhigh : high ≤ 0xBF)
    (h : decodeFrom (.inside bits (owed + 1) low high) octets = cs.map some) :
    ∃ v rest read, v / 64 ^ (owed + 1) = bits ∧ low ≤ 0x80 + v / 64 ^ owed % 64 ∧
      0x80 + v / 64 ^ owed % 64 ≤ high ∧ octets = continuation (owed + 1) v ++ rest ∧
      cs = Char.ofNat v :: read ∧ decodeFrom .between rest = read.map some := by
  induction owed generalizing bits low high octets with
  | zero =>
      obtain ⟨octet, rest, rfl, hfrom, hto⟩ := within_of_decodeFrom_inside h
      rw [decodeFrom_inside_cons hfrom hto, if_pos (Nat.le_refl _)] at h
      obtain ⟨c, read, rfl, hc, hread⟩ := List.map_eq_cons_iff.mp h.symm
      obtain ⟨v, hv⟩ : ∃ v, bits * 64 + (octet - 0x80) = v := ⟨_, rfl⟩
      obtain ⟨hbits, rfl⟩ := (join_bits_iff (by omega) (by omega) v).mp hv
      rw [hv] at hc
      refine ⟨v, rest, read, ?_⟩
      simp [continuation, hbits, hfrom, hto, hread, Option.some.inj hc]
  | succ owed ih =>
      obtain ⟨octet, rest, rfl, hfrom, hto⟩ := within_of_decodeFrom_inside h
      rw [decodeFrom_inside_cons hfrom hto, if_neg (by omega), Nat.add_sub_cancel] at h
      obtain ⟨v, rest, read, hv, -, -, rfl, rfl, hrest⟩ := ih (Nat.le_refl _) (Nat.le_refl _) h
      obtain ⟨hbits, rfl⟩ := (join_bits_iff (by omega) (by omega) _).mp hv.symm
      exact ⟨v, rest, read, (div_pow_succ v _).trans hbits, hfrom, hto, rfl, rfl, hrest⟩

end Inside

variable {octets rest : List Nat} {cs : List Char} {octet : Nat}

theorem decodeFrom_octetsOf (c : Char) (rest : List Nat) :
    decodeFrom .between (octetsOf c ++ rest) = some c :: decodeFrom .between rest := by
  have hc : Char.ofNat c.toNat = c := Char.ofNat_toNat c
  have hvalid : c.toNat < 0xD800 ∨ 0xDFFF < c.toNat ∧ c.toNat < 0x110000 := c.valid
  rw [octetsOf_eq, valueOctets]
  split
  · next h =>
      rw [List.singleton_append, decodeFrom_between_cons, start_of_lt_80 h, hc]
      rfl
  split
  · rw [List.cons_append, decodeFrom_between_cons, start_of_lt_E0 (by omega) (by omega)]
    exact (decodeFrom_continuation 0 (by omega) (by omega) (by omega) rest).trans (by rw [hc])
  split
  · rw [List.cons_append, decodeFrom_between_cons, start_of_lt_F0 (by omega) (by omega)]
    exact (decodeFrom_continuation 1 (by omega) (by split <;> omega) (by split <;> omega)
      rest).trans (by rw [hc])
  · rw [List.cons_append, decodeFrom_between_cons, start_of_lt_F5 (by omega) (by omega)]
    exact (decodeFrom_continuation 2 (by omega) (by split <;> omega) (by split <;> omega)
      rest).trans (by rw [hc])

/-- The first octet of a character that has more decides how many follow and which value they may
come to. -/
theorem exists_start_inside (hfrom : 0xC2 ≤ octet) (hto : octet < 0xF5) :
    ∃ bits owed low high, start octet = ([], .inside bits (owed + 1) low high) ∧
      0x80 ≤ low ∧ high ≤ 0xBF ∧
      ∀ v, v / 64 ^ (owed + 1) = bits → low ≤ 0x80 + v / 64 ^ owed % 64 →
        0x80 + v / 64 ^ owed % 64 ≤ high →
        v.isValidChar ∧ octet :: continuation (owed + 1) v = valueOctets v := by
  unfold valueOctets Nat.isValidChar
  by_cases hE0 : octet < 0xE0
  · refine ⟨_, 0, _, _, start_of_lt_E0 hfrom hE0, by omega, by omega, ?_⟩
    intro v hbits _ _
    rw [if_neg (by omega), if_pos (by omega), List.cons.injEq]
    exact ⟨by omega, by omega, rfl⟩
  by_cases hF0 : octet < 0xF0
  · refine ⟨_, 1, _, _, start_of_lt_F0 (by omega) hF0, by split <;> omega, by split <;> omega, ?_⟩
    intro v hbits hlow hhigh
    have hv : 0x800 ≤ v ∧ (v < 0xD800 ∨ 0xDFFF < v ∧ v < 0x10000) := by
      split at hlow <;> split at hhigh <;> omega
    rw [if_neg (by omega), if_neg (by omega), if_pos (by omega), List.cons.injEq]
    exact ⟨by omega, by omega, rfl⟩
  · refine ⟨_, 2, _, _, start_of_lt_F5 (by omega) hto, by split <;> omega, by split <;> omega, ?_⟩
    intro v hbits hlow hhigh
    have hv : 0x10000 ≤ v ∧ v < 0x110000 := by
      split at hlow <;> split at hhigh <;> omega
    rw [if_neg (by omega), if_neg (by omega), if_neg (by omega), List.cons.injEq]
    exact ⟨by omega, by omega, rfl⟩

/-- What is read without a report starts with the octets of its first character. -/
theorem exists_octetsOf (h : decodeFrom .between (octet :: rest) = cs.map some) :
    ∃ c read more, cs = c :: read ∧ octet :: rest = octetsOf c ++ more ∧
      decodeFrom .between more = read.map some := by
  rw [decodeFrom_between_cons] at h
  by_cases h80 : octet < 0x80
  · rw [start_of_lt_80 h80] at h
    obtain ⟨c, read, rfl, hc, hread⟩ := List.map_eq_cons_iff.mp h.symm
    refine ⟨c, read, rest, rfl, ?_, hread.symm⟩
    rw [Option.some.inj hc, octetsOf_ofNat (.inl (by omega)), valueOctets, if_pos h80]
    rfl
  by_cases hinside : 0xC2 ≤ octet ∧ octet < 0xF5
  · obtain ⟨bits, owed, low, high, hstart, hlow, hhigh, hvalue⟩ :=
      exists_start_inside hinside.1 hinside.2
    rw [hstart] at h
    obtain ⟨v, more, read, hbits, hfrom, hto, rfl, rfl, hmore⟩ :=
      exists_continuation owed hlow hhigh h
    obtain ⟨hvalid, hoctets⟩ := hvalue v hbits hfrom hto
    refine ⟨_, read, more, rfl, ?_, hmore⟩
    rw [octetsOf_ofNat hvalid, ← hoctets, List.cons_append]
  · rw [start_of_not_first (by omega)] at h
    cases cs <;> cases h

theorem decodeFrom_flatMap (cs : List Char) :
    decodeFrom .between (cs.flatMap octetsOf) = cs.map some := by
  induction cs with
  | nil => rfl
  | cons c cs ih => rw [List.flatMap_cons, decodeFrom_octetsOf, ih, List.map_cons]

theorem eq_flatMap_of_decodeFrom (h : decodeFrom .between octets = cs.map some) :
    octets = cs.flatMap octetsOf := by
  induction cs generalizing octets with
  | nil =>
      cases octets with
      | nil => rfl
      | cons octet rest =>
          obtain ⟨c, read, more, hcs, -⟩ := exists_octetsOf h
          cases hcs
  | cons c cs ih =>
      cases octets with
      | nil => cases h
      | cons octet rest =>
          obtain ⟨c, read, more, hcs, hoctets, hmore⟩ := exists_octetsOf h
          cases hcs
          rw [hoctets, ih hmore, List.flatMap_cons]

theorem mapM_id_eq_some_iff {read : List (Option Char)} :
    read.mapM id = some cs ↔ read = cs.map some := by
  induction read generalizing cs with
  | nil => cases cs <;> simp
  | cons c read ih =>
      cases c with
      | none => cases cs <;> simp
      | some c => cases cs <;> simp [Option.bind_eq_some_iff, ih, and_comm]

theorem text?_eq_some_iff {s : String} : text? octets = some s ↔ octets = encode s := by
  rw [text?, Option.map_eq_some_iff, encode_eq]
  constructor
  · rintro ⟨cs, hread, rfl⟩
    rw [String.toList_ofList]
    exact eq_flatMap_of_decodeFrom (mapM_id_eq_some_iff.mp hread)
  · rintro rfl
    exact ⟨s.toList, mapM_id_eq_some_iff.mpr (decodeFrom_flatMap s.toList), String.ofList_toList⟩

end Utf8
end Text
end DocumentCatalog
