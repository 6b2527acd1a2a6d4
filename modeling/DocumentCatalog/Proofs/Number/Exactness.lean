import DocumentCatalog.Proofs.Number.Rounding

/-!
Numbers that are equal to integers. Different magnitudes have different values, so a number that is
equal to an integer of at most 53 bits stands where the number nearest to that integer does, which
is itself equal to the integer.
-/

namespace DocumentCatalog
namespace Binary64

/-- A natural number in units of the least positive number. -/
def inUnits (n : Nat) : Nat :=
  n * Nat.pow 2 1074

/-- Whether a number is equal to an integer; zero may have either sign. -/
def Represents (x : Binary64) (i : Int) : Prop :=
  x.units = inUnits i.natAbs ∧ (i ≠ 0 → x.negative = decide (i < 0))

theorem nearestMagnitude_units (n : Nat) : nearestMagnitude n 1 = nearestOf (inUnits n) 1 :=
  rfl

theorem exists_significand {magnitude : Nat} (h : fullLength ≤ magnitude) :
    ∃ shift significand, fullLength ≤ significand ∧ significand < 2 * fullLength ∧
      magnitude = shift * fullLength + significand := by
  refine ⟨magnitude / fullLength - 1, fullLength + magnitude % fullLength, by omega, ?_, ?_⟩
  · have := Nat.mod_lt magnitude (show 0 < fullLength by decide)
    omega
  · have hdivides := Nat.div_add_mod magnitude fullLength
    have hpos : 1 ≤ magnitude / fullLength := (Nat.one_le_div_iff (by decide)).mpr h
    rw [Nat.sub_mul, Nat.one_mul, Nat.mul_comm]
    have := Nat.mul_le_mul_left fullLength hpos
    omega

theorem unitsOf_lt_succ (magnitude : Nat) : unitsOf magnitude < unitsOf (magnitude + 1) := by
  obtain hlow | hhigh := Nat.lt_or_ge magnitude fullLength
  · rw [unitsOf, if_pos hlow]
    obtain hnext | hnext := Nat.lt_or_ge (magnitude + 1) fullLength
    · rw [unitsOf, if_pos hnext]
      omega
    · have hfull : magnitude + 1 = 0 * fullLength + fullLength := by omega
      rw [hfull, unitsOf_of_fullLength_le (Nat.le_refl _) (by decide)]
      omega
  · obtain ⟨shift, significand, hleast, hgreatest, rfl⟩ := exists_significand hhigh
    have hpos := Nat.two_pow_pos shift
    rw [unitsOf_of_fullLength_le hleast hgreatest]
    obtain hnext | hnext := Nat.lt_or_ge (significand + 1) (2 * fullLength)
    · rw [Nat.add_assoc, unitsOf_of_fullLength_le (by omega) hnext]
      exact Nat.mul_lt_mul_of_pos_right (Nat.lt_succ_self _) hpos
    · -- the significand overflows into the next binade
      have hbinade : shift * fullLength + significand + 1 =
          (shift + 1) * fullLength + fullLength := by
        rw [Nat.succ_mul]
        omega
      rw [hbinade, unitsOf_of_fullLength_le (Nat.le_refl _) (by decide), Nat.pow_succ',
        ← Nat.mul_assoc]
      exact Nat.mul_lt_mul_of_pos_right (by omega) hpos

theorem unitsOf_strictMono : StrictMono unitsOf :=
  strictMono_nat_of_lt_succ unitsOf_lt_succ

theorem unitsOf_nearestMagnitude {n : Nat} (h : n ≤ 2 ^ 53) :
    unitsOf (nearestMagnitude n 1) = inUnits n := by
  -- with a variable for the exponent, so that the power stays a power
  obtain ⟨k, hk⟩ : ∃ k, ∀ m, inUnits m = m * Nat.pow 2 k := ⟨1074, fun _ => rfl⟩
  rw [nearestMagnitude_units, hk]
  exact unitsOf_nearestOf (two_pow_shiftOf_dvd h k)

/-- Every number is the one nearest to its own value. -/
theorem nearestOf_unitsOf (magnitude : Nat) : nearestOf (unitsOf magnitude) 1 = magnitude := by
  obtain ⟨n, shift, hn, hunits⟩ : ∃ n shift, n ≤ 2 ^ 53 ∧ unitsOf magnitude = n * 2 ^ shift := by
    obtain hlow | hhigh := Nat.lt_or_ge magnitude fullLength
    · have hle : magnitude ≤ 2 ^ 53 := Nat.le_trans (Nat.le_of_lt hlow) (by decide)
      exact ⟨magnitude, 0, hle, by rw [unitsOf, if_pos hlow, Nat.pow_zero, Nat.mul_one]⟩
    · obtain ⟨shift, significand, hleast, hgreatest, rfl⟩ := exists_significand hhigh
      have hle : significand ≤ 2 ^ 53 := Nat.le_trans (Nat.le_of_lt hgreatest) (by decide)
      exact ⟨significand, shift, hle, unitsOf_of_fullLength_le hleast hgreatest⟩
  apply unitsOf_strictMono.injective
  apply unitsOf_nearestOf
  rw [hunits]
  exact two_pow_shiftOf_dvd hn shift

/-- A number that is equal to an integer stands where the number nearest to that integer does. -/
theorem position_eq_of_represents {x : Binary64} {i : Int} (hi : i.natAbs ≤ 2 ^ 53)
    (h : x.Represents i) : x.position = (ofInt i).position := by
  have hmagnitude : x.magnitude = nearestMagnitude i.natAbs 1 := by
    apply unitsOf_strictMono.injective
    rw [unitsOf_nearestMagnitude hi, ← units, h.1]
  obtain ⟨hsign, hnearest⟩ := ofInt_eq (Nat.le_trans hi (by decide : 2 ^ 53 ≤ 2 ^ 64))
  by_cases hzero : i = 0
  · have hnearest0 : nearestMagnitude 0 1 = 0 := by decide +kernel
    subst hzero
    simp [position, hmagnitude, hnearest, hnearest0]
  · simp only [position, hsign, hnearest, hmagnitude, h.2 hzero]

/-- The number nearest to an integer of at most 53 bits is equal to it. -/
theorem represents_ofInt {i : Int} (hi : i.natAbs ≤ 2 ^ 53) : (ofInt i).Represents i := by
  obtain ⟨hsign, hnearest⟩ := ofInt_eq (Nat.le_trans hi (by decide : 2 ^ 53 ≤ 2 ^ 64))
  exact ⟨by rw [units, hnearest, unitsOf_nearestMagnitude hi], fun _ => hsign⟩

/-- A natural number with a sign. -/
def signed (negative : Bool) (n : Nat) : Int :=
  if negative then -n else n

theorem signed_mono {f : Nat → Nat} (hzero : f 0 = 0) (hmono : ∀ {m n}, m ≤ n → f m ≤ f n)
    {negative negative' : Bool} {m n : Nat} (h : signed negative m ≤ signed negative' n) :
    signed negative (f m) ≤ signed negative' (f n) := by
  cases negative <;> cases negative' <;>
    simp only [signed, Bool.false_eq_true, if_true, if_false] at *
  · exact Int.ofNat_le.mpr (hmono (Int.ofNat_le.mp h))
  · have hm : m = 0 := by omega
    have hn : n = 0 := by omega
    simp [hm, hn, hzero]
  · omega
  · have hle := hmono (show n ≤ m by omega)
    omega

end Binary64
end DocumentCatalog
