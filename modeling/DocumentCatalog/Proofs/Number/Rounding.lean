import DocumentCatalog.Number.Binary64
import Mathlib

/-!
Rounding to the binary format never turns the order of two numbers around, and integers of at most
53 bits are not changed by it. So two integers compare as their rounded values do, unless they
differ and are rounded to the same value.
-/

namespace DocumentCatalog
namespace Binary64

theorem roundQuotient_mul (quotient : Nat) {denominator : Nat} (h : 0 < denominator) :
    roundQuotient (quotient * denominator) denominator = quotient := by
  simp [roundQuotient, Nat.mul_div_cancel _ h]
  omega

theorem roundQuotient_mono {m n : Nat} (h : m ≤ n) (denominator : Nat) :
    roundQuotient m denominator ≤ roundQuotient n denominator := by
  have hquotient : m / denominator ≤ n / denominator := Nat.div_le_div_right h
  have hm := Nat.div_add_mod m denominator
  have hn := Nat.div_add_mod n denominator
  simp only [roundQuotient]
  obtain heq | hlt := Nat.eq_or_lt_of_le hquotient
  · -- the same quotient, so the remainders are in the order of the numbers
    rw [heq] at hm ⊢
    split <;> split <;> omega
  · split <;> split <;> omega

theorem roundQuotient_le {m quotient denominator : Nat} (hd : 0 < denominator)
    (h : m ≤ quotient * denominator) : roundQuotient m denominator ≤ quotient := by
  simpa only [roundQuotient_mul quotient hd] using roundQuotient_mono h denominator

theorem le_roundQuotient {m quotient denominator : Nat} (hd : 0 < denominator)
    (h : quotient * denominator ≤ m) : quotient ≤ roundQuotient m denominator := by
  simpa only [roundQuotient_mul quotient hd] using roundQuotient_mono h denominator

/-- How far the quotient of two numbers is scaled down to have a significand of full length. -/
def shiftOf (scaled denominator : Nat) : Nat :=
  Nat.log2 (scaled / denominator) - 52

/-- The magnitude nearest to a quotient in units of the least positive number. -/
def nearestOf (scaled denominator : Nat) : Nat :=
  shiftOf scaled denominator * fullLength +
    roundQuotient scaled (denominator * 2 ^ shiftOf scaled denominator)

/-- There is a power of two that turns numbers into units. -/
theorem nearestMagnitude_eq : ∃ k, ∀ numerator denominator,
    nearestMagnitude numerator denominator = nearestOf (numerator * 2 ^ k) denominator := by
  have hunit : ∃ k, ∀ numerator denominator,
      nearestMagnitude numerator denominator = nearestOf (numerator * Nat.pow 2 k) denominator :=
    ⟨1074, fun _ _ => rfl⟩
  exact hunit

theorem two_pow_shift (shift : Nat) :
    2 ^ (52 + shift) = fullLength * 2 ^ shift ∧ 2 ^ (53 + shift) = 2 * fullLength * 2 ^ shift := by
  simp [Nat.pow_add, fullLength]

theorem lt_two_pow_shiftOf (scaled : Nat) {denominator : Nat} (hd : 0 < denominator) :
    scaled < 2 * fullLength * (denominator * 2 ^ shiftOf scaled denominator) := by
  have hlog : Nat.log2 (scaled / denominator) < 53 + shiftOf scaled denominator := by
    simp only [shiftOf]
    omega
  have hlt : scaled / denominator < 2 ^ (53 + shiftOf scaled denominator) := by
    by_cases hzero : scaled / denominator = 0
    · rw [hzero]
      exact Nat.two_pow_pos _
    · exact (Nat.log2_lt hzero).mp hlog
  rw [(two_pow_shift _).2, Nat.div_lt_iff_lt_mul hd] at hlt
  rwa [Nat.mul_left_comm, Nat.mul_comm denominator]

theorem two_pow_shiftOf_le (scaled : Nat) {denominator : Nat} (hd : 0 < denominator)
    (h : 0 < shiftOf scaled denominator) :
    fullLength * (denominator * 2 ^ shiftOf scaled denominator) ≤ scaled := by
  have hlog : 52 + shiftOf scaled denominator ≤ Nat.log2 (scaled / denominator) := by
    simp only [shiftOf] at h ⊢
    omega
  have hzero : scaled / denominator ≠ 0 := by
    intro hzero
    rw [hzero, Nat.log2_zero] at hlog
    omega
  have hle := (Nat.le_log2 hzero).mp hlog
  rw [(two_pow_shift _).1, Nat.le_div_iff_mul_le hd] at hle
  rwa [Nat.mul_left_comm, Nat.mul_comm denominator]

theorem shiftOf_mono {m n : Nat} (h : m ≤ n) (denominator : Nat) :
    shiftOf m denominator ≤ shiftOf n denominator := by
  simp only [shiftOf, Nat.log2_eq_log_two]
  exact Nat.sub_le_sub_right (Nat.log_mono_right (Nat.div_le_div_right h)) 52

theorem nearestOf_mono {m n denominator : Nat} (hd : 0 < denominator) (h : m ≤ n) :
    nearestOf m denominator ≤ nearestOf n denominator := by
  have hshift := shiftOf_mono h denominator
  simp only [nearestOf]
  obtain heq | hlt := Nat.eq_or_lt_of_le hshift
  · rw [heq]
    exact Nat.add_le_add_left (roundQuotient_mono h _) _
  · -- a significand rounded up reaches the next power of two at most
    have hpos : ∀ shift, 0 < denominator * 2 ^ shift := fun shift =>
      Nat.mul_pos hd (Nat.two_pow_pos shift)
    have hm := roundQuotient_le (hpos _) (Nat.le_of_lt (lt_two_pow_shiftOf m hd))
    have hn := le_roundQuotient (hpos _)
      (two_pow_shiftOf_le n hd (Nat.zero_lt_of_lt hlt))
    have hnext : (shiftOf m denominator + 1) * fullLength ≤ shiftOf n denominator * fullLength :=
      Nat.mul_le_mul_right _ hlt
    rw [Nat.succ_mul] at hnext
    omega

theorem unitsOf_of_fullLength_le {shift significand : Nat} (hlow : fullLength ≤ significand)
    (hhigh : significand < 2 * fullLength) :
    unitsOf (shift * fullLength + significand) = significand * 2 ^ shift := by
  obtain ⟨fraction, rfl⟩ := Nat.exists_eq_add_of_le hlow
  have hfraction : fraction < fullLength := by omega
  have hsplit : shift * fullLength + (fullLength + fraction) =
      fraction + fullLength * (shift + 1) := by
    rw [Nat.mul_comm fullLength (shift + 1), Nat.succ_mul]
    omega
  have hpos : 0 < fullLength := by decide
  have hexponent : (fraction + fullLength * (shift + 1)) / fullLength - 1 = shift := by
    rw [Nat.add_mul_div_left _ _ hpos, Nat.div_eq_of_lt hfraction]
    omega
  have hlarge : ¬ fraction + fullLength * (shift + 1) < fullLength := by
    rw [Nat.mul_succ]
    omega
  rw [hsplit, unitsOf, if_neg hlarge, hexponent, Nat.add_mul_mod_self_left,
    Nat.mod_eq_of_lt hfraction]
  rfl

/-- A number whose significand is whole once it is scaled down has the value that it had. -/
theorem unitsOf_nearestOf {m : Nat} (h : 2 ^ shiftOf m 1 ∣ m) : unitsOf (nearestOf m 1) = m := by
  obtain ⟨significand, hm⟩ := h
  have hmul : m = significand * (1 * 2 ^ shiftOf m 1) := by
    rw [Nat.one_mul, Nat.mul_comm]
    exact hm
  have hround : roundQuotient m (1 * 2 ^ shiftOf m 1) = significand := by
    conv => lhs; arg 1; rw [hmul]
    exact roundQuotient_mul significand (by simp)
  have hlt := lt_two_pow_shiftOf m Nat.one_pos
  conv at hlt => lhs; rw [hmul]
  have hhigh := Nat.lt_of_mul_lt_mul_right hlt
  rw [nearestOf, hround]
  by_cases hlow : significand < fullLength
  · have hzero : shiftOf m 1 = 0 := by
      apply Nat.eq_zero_of_not_pos
      intro hpos
      have hle := two_pow_shiftOf_le m Nat.one_pos hpos
      conv at hle => rhs; rw [hmul]
      have := Nat.le_of_mul_le_mul_right hle (by simp)
      omega
    rw [hzero] at hm ⊢
    simp only [Nat.zero_mul, Nat.zero_add, unitsOf, if_pos hlow]
    omega
  · rw [unitsOf_of_fullLength_le (Nat.le_of_not_lt hlow) hhigh, Nat.mul_comm, ← hm]

/-- Integers of at most 53 bits keep all their bits, whatever the power of two is that they are
multiplied by. -/
theorem two_pow_shiftOf_dvd {n : Nat} (h : n ≤ 2 ^ 53) (k : Nat) :
    2 ^ shiftOf (n * 2 ^ k) 1 ∣ n * 2 ^ k := by
  obtain rfl | hlt := Nat.eq_or_lt_of_le h
  · rw [← Nat.pow_add]
    apply Nat.pow_dvd_pow
    simp only [shiftOf, Nat.div_one, Nat.log2_two_pow]
    omega
  · have hshift : shiftOf (n * 2 ^ k) 1 ≤ k := by
      have hscaled : n * 2 ^ k < 2 ^ (53 + k) := by
        rw [Nat.pow_add]
        exact Nat.mul_lt_mul_of_pos_right hlt (Nat.two_pow_pos k)
      simp only [shiftOf, Nat.div_one]
      by_cases hzero : n * 2 ^ k = 0
      · rw [hzero, Nat.log2_zero]
        omega
      · have := (Nat.log2_lt hzero).mpr hscaled
        omega
    exact Nat.dvd_mul_left_of_dvd (Nat.pow_dvd_pow 2 hshift) n

theorem nearestMagnitude_mono {m n : Nat} (h : m ≤ n) :
    nearestMagnitude m 1 ≤ nearestMagnitude n 1 := by
  obtain ⟨k, hk⟩ := nearestMagnitude_eq
  rw [hk, hk]
  exact nearestOf_mono Nat.one_pos (Nat.mul_le_mul_right _ h)

theorem nearestMagnitude_inj {m n : Nat} (hm : m ≤ 2 ^ 53) (hn : n ≤ 2 ^ 53)
    (h : nearestMagnitude m 1 = nearestMagnitude n 1) : m = n := by
  obtain ⟨k, hk⟩ := nearestMagnitude_eq
  rw [hk, hk] at h
  have hunits := congrArg unitsOf h
  rw [unitsOf_nearestOf (two_pow_shiftOf_dvd hm k),
    unitsOf_nearestOf (two_pow_shiftOf_dvd hn k)] at hunits
  exact Nat.eq_of_mul_eq_mul_right (Nat.two_pow_pos k) hunits

section Zero

variable {x y : Binary64} (hx : x.negative = true → 0 < x.magnitude)
  (hy : y.negative = true → 0 < y.magnitude)

include hx hy

theorem eq_of_position_eq (h : x.position = y.position) : x = y := by
  obtain ⟨negative, magnitude, _⟩ := x
  obtain ⟨negative', magnitude', _⟩ := y
  cases negative <;> cases negative' <;> simp [position] at * <;> omega

/-- The two orders of numbers differ on negative zero alone. -/
theorem compareTotal_eq : x.compareTotal y = x.compareValue y := by
  have hplaces : (x.rank < y.rank ↔ x.position < y.position) ∧
      (x.rank = y.rank ↔ x.position = y.position) := by
    obtain ⟨negative, magnitude, _⟩ := x
    obtain ⟨negative', magnitude', _⟩ := y
    cases negative <;> cases negative' <;> simp [position, rank] at * <;> omega
  simp only [compareTotal, compareValue, compare, compareOfLessAndEq, hplaces]

end Zero

/-- Whether two integers are the same if the numbers nearest to them are. -/
def Separates (i j : Int) : Prop :=
  ofInt i = ofInt j → i = j

theorem ofInt_eq {i : Int} (h : i.natAbs ≤ 2 ^ 64) :
    (ofInt i).negative = decide (i < 0) ∧ (ofInt i).magnitude = nearestMagnitude i.natAbs 1 := by
  have hgreatest : nearestMagnitude (2 ^ 64) 1 < infinity := by decide +kernel
  have hfinite := Nat.lt_of_le_of_lt (nearestMagnitude_mono h) hgreatest
  rw [ofInt, ofQuotient?, ofMagnitude?, dif_pos hfinite]
  exact ⟨rfl, rfl⟩

theorem separates_of_le {i j : Int} (hi : i.natAbs ≤ 2 ^ 53) (hj : j.natAbs ≤ 2 ^ 53) :
    Separates i j := by
  intro h
  obtain ⟨hsign, hmagnitude⟩ := ofInt_eq (Nat.le_trans hi (by decide : 2 ^ 53 ≤ 2 ^ 64))
  obtain ⟨hsign', hmagnitude'⟩ := ofInt_eq (Nat.le_trans hj (by decide : 2 ^ 53 ≤ 2 ^ 64))
  rw [h, hsign', decide_eq_decide] at hsign
  have habs := nearestMagnitude_inj hi hj (by rw [← hmagnitude, ← hmagnitude', h])
  omega

variable {i j : Int} (hi : i.natAbs ≤ 2 ^ 64) (hj : j.natAbs ≤ 2 ^ 64)

include hi

/-- No integer becomes negative zero. -/
theorem magnitude_pos_of_negative (h : (ofInt i).negative = true) : 0 < (ofInt i).magnitude := by
  obtain ⟨hsign, hmagnitude⟩ := ofInt_eq hi
  rw [hsign, decide_eq_true_eq] at h
  have hone : 0 < nearestMagnitude 1 1 := by decide +kernel
  rw [hmagnitude]
  exact Nat.lt_of_lt_of_le hone (nearestMagnitude_mono (by omega))

include hj

theorem position_ofInt_mono (h : i ≤ j) : (ofInt i).position ≤ (ofInt j).position := by
  obtain ⟨hsign, hmagnitude⟩ := ofInt_eq hi
  obtain ⟨hsign', hmagnitude'⟩ := ofInt_eq hj
  simp only [position, hsign, hmagnitude, hsign', hmagnitude', decide_eq_true_eq]
  split
  · split
    · have := nearestMagnitude_mono (show j.natAbs ≤ i.natAbs by omega)
      omega
    · omega
  · have := nearestMagnitude_mono (show i.natAbs ≤ j.natAbs by omega)
    split <;> omega

theorem position_ofInt_eq_iff (h : Separates i j) :
    (ofInt i).position = (ofInt j).position ↔ i = j := by
  constructor
  · intro heq
    exact h (eq_of_position_eq (magnitude_pos_of_negative hi) (magnitude_pos_of_negative hj) heq)
  · intro heq
    rw [heq]

theorem position_ofInt_lt_iff (h : Separates i j) :
    (ofInt i).position < (ofInt j).position ↔ i < j := by
  have heq := position_ofInt_eq_iff hi hj h
  by_cases hle : i ≤ j
  · have := position_ofInt_mono hi hj hle
    omega
  · have := position_ofInt_mono hj hi (by omega)
    omega

theorem compareTotal_ofInt (h : Separates i j) :
    (ofInt i).compareTotal (ofInt j) = compare i j := by
  rw [compareTotal_eq (magnitude_pos_of_negative hi) (magnitude_pos_of_negative hj)]
  simp only [compareValue, compare, compareOfLessAndEq, position_ofInt_lt_iff hi hj h,
    position_ofInt_eq_iff hi hj h]

end Binary64
end DocumentCatalog
