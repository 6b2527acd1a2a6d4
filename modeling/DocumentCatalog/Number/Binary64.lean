/-!
Finite numbers in the 64-bit binary format. The exponent and fraction fields of the format are kept
as one natural number, the magnitude: magnitudes are ordered as the absolute values are, and the
next magnitude is the next representable value.
-/

namespace DocumentCatalog

/-- The least magnitude that is too large for a finite number. -/
abbrev Binary64.infinity : Nat := 0x7FF0000000000000

/-- A finite number: its sign, also of zero, and its magnitude below that of infinity. -/
structure Binary64 where
  negative : Bool
  magnitude : Nat
  finite : magnitude < Binary64.infinity
  deriving DecidableEq, Repr

namespace Binary64

/-- The least significand of full length, `2 ^ 52`. -/
abbrev fullLength : Nat := 0x10000000000000

/-- The absolute value of a magnitude in units of the least positive number, `2 ^ (-1074)`. -/
def unitsOf (magnitude : Nat) : Nat :=
  if magnitude < fullLength then magnitude
  else (fullLength + magnitude % fullLength) * Nat.pow 2 (magnitude / fullLength - 1)

def units (x : Binary64) : Nat :=
  unitsOf x.magnitude

/-- The quotient rounded to the nearest natural number, a half to the even neighbour. -/
def roundQuotient (numerator denominator : Nat) : Nat :=
  let quotient := numerator / denominator
  let remainder := numerator % denominator
  if 2 * remainder > denominator ∨ (2 * remainder = denominator ∧ quotient % 2 = 1) then
    quotient + 1
  else quotient

/-- The magnitude nearest to a quotient, a tie to the even one; from `infinity` on it is too large.
A binade's magnitudes are its exponent's multiple of `fullLength` plus the significand, and a
significand rounded up to the next power of two carries into the exponent by itself. -/
def nearestMagnitude (numerator denominator : Nat) : Nat :=
  let scaled := numerator * Nat.pow 2 1074
  let shift := Nat.log2 (scaled / denominator) - 52
  shift * fullLength + roundQuotient scaled (denominator * Nat.pow 2 shift)

/-- The number with this magnitude, if it is finite. -/
def ofMagnitude? (negative : Bool) (magnitude : Nat) : Option Binary64 :=
  if h : magnitude < infinity then some ⟨negative, magnitude, h⟩ else none

/-- The number nearest to a quotient, if that is finite. -/
def ofQuotient? (negative : Bool) (numerator denominator : Nat) : Option Binary64 :=
  ofMagnitude? negative (nearestMagnitude numerator denominator)

def zero (negative : Bool) : Binary64 :=
  ⟨negative, 0, by decide⟩

/-- The number nearest to an integer. Integers that are too large for any become zero, which the
64-bit integers never are. -/
def ofInt (i : Int) : Binary64 :=
  (ofQuotient? (i < 0) i.natAbs 1).getD (zero false)

/-- The number nearest to `digits * 10 ^ exponent`, if that is finite. Exponents far outside the
range of the format are decided without the power. -/
def ofDecimal? (negative : Bool) (digits : Nat) (exponent : Int) : Option Binary64 :=
  if digits = 0 then some (zero negative)
  else
    let top : Int := (Nat.toDigits 10 digits).length + exponent
    if top > 400 then none
    else if top < -400 then some (zero negative)
    else if exponent < 0 then ofQuotient? negative digits (Nat.pow 10 exponent.natAbs)
    else ofQuotient? negative (digits * Nat.pow 10 exponent.natAbs) 1

/-- The product with `10 ^ exponent`, where the power is itself rounded first and the result is
rounded again. -/
def timesPowerOfTen? (x : Binary64) (exponent : Nat) : Option Binary64 := do
  let power ← ofDecimal? false 1 exponent
  ofQuotient? x.negative (x.units * power.units) (Nat.pow 2 2148)

/-- The quotient by `10 ^ exponent`, rounded as in `timesPowerOfTen?`. -/
def overPowerOfTen? (x : Binary64) (exponent : Nat) : Option Binary64 := do
  let power ← ofDecimal? false 1 exponent
  ofQuotient? x.negative x.units power.units

/-- The position on the number line, where both zeros stand at `0`. -/
def position (x : Binary64) : Int :=
  if x.negative then -(x.magnitude : Int) else x.magnitude

/-- The position in the total order, where negative zero stands right before zero. -/
def rank (x : Binary64) : Int :=
  if x.negative then -(x.magnitude : Int) - 1 else x.magnitude

/-- Comparison by value. -/
def compareValue (x y : Binary64) : Ordering :=
  compare x.position y.position

/-- Comparison that also tells the zeros apart. -/
def compareTotal (x y : Binary64) : Ordering :=
  compare x.rank y.rank

/-- Equality by value. -/
def sameValue (x y : Binary64) : Bool :=
  x.position == y.position

end Binary64
end DocumentCatalog
