import DocumentCatalog.Number.Binary64
import DocumentCatalog.Text.Numeral

/-!
Numbers in decimal notation: reading the full notation, and the fewest digits that read back as a
given number. Of several such digit strings of one length the nearest is taken.
-/

namespace DocumentCatalog
namespace Decimal

/-- The value of a list of decimal digits; other characters count as zero. -/
def digitsValue (cs : List Char) : Nat :=
  cs.foldl (fun n c => n * 10 + (Text.digit? c).getD 0) 0

def isDigit (c : Char) : Bool :=
  (Text.digit? c).isSome

/-- The sign at the start, and the rest. -/
def takeSign : List Char → Bool × List Char
  | '+' :: rest => (false, rest)
  | '-' :: rest => (true, rest)
  | cs => (false, cs)

/-- An exponent part that takes up the whole text; nothing at all is the exponent zero. -/
def readExponent? : List Char → Option Int
  | [] => some 0
  | c :: rest =>
      if c = 'e' ∨ c = 'E' then
        let (negative, digits) := takeSign rest
        if digits.isEmpty || !digits.all isDigit then none
        else some (if negative then -(digitsValue digits : Int) else digitsValue digits)
      else none

/-- The digits of the fraction, and the rest, when a point follows; else no digits. -/
def takeFraction : List Char → List Char × List Char
  | '.' :: rest => (rest.takeWhile isDigit, rest.dropWhile isDigit)
  | cs => ([], cs)

/-- Reads an optional sign, digits with an optional point among them, before or after them, and an
optional exponent. The number nearest to that value is taken if it is finite. -/
def read? (s : String) : Option Binary64 := do
  let (negative, cs) := takeSign s.toList
  let whole := cs.takeWhile isDigit
  let (fraction, rest) := takeFraction (cs.dropWhile isDigit)
  if whole.isEmpty && fraction.isEmpty then none
  else
    let exponent ← readExponent? rest
    Binary64.ofDecimal? negative (digitsValue (whole ++ fraction)) (exponent - fraction.length)

/-- `digits * 10 ^ exponent`, with as few digits as its purpose allows. -/
structure Digits where
  digits : Nat
  exponent : Int
  deriving DecidableEq, Repr

/-- The number of units in `10 ^ exponent`, as a quotient of two natural numbers. The units are
half of those of `Binary64.unitsOf`, so that the middle between two numbers is whole. -/
def stepSize (exponent : Int) : Nat × Nat :=
  let power := Nat.pow 10 exponent.natAbs
  if exponent < 0 then (Nat.pow 2 1075, power) else (Nat.pow 2 1075 * power, 1)

/-- The half units of a magnitude and the bounds of what rounds to it. -/
structure Interval where
  low : Nat
  value : Nat
  high : Nat
  closed : Bool

def Interval.ofMagnitude (magnitude : Nat) : Interval :=
  { low := Binary64.unitsOf (magnitude - 1) + Binary64.unitsOf magnitude
    value := 2 * Binary64.unitsOf magnitude
    high := Binary64.unitsOf magnitude + Binary64.unitsOf (magnitude + 1)
    closed := magnitude % 2 = 0 }

/-- Whether `count` steps of size `step` lie in the interval. -/
def Interval.holds (i : Interval) (step : Nat × Nat) (count : Nat) : Bool :=
  let point := count * step.1
  if i.closed then i.low * step.2 ≤ point && point ≤ i.high * step.2
  else i.low * step.2 < point && point < i.high * step.2

/-- The nearest point of a decimal grid that lies in the interval, if one of the two neighbours of
the value does; a tie goes to the even count. -/
def Interval.nearest? (i : Interval) (exponent : Int) : Option Nat :=
  let step := stepSize exponent
  let below := i.value * step.2 / step.1
  let rest := i.value * step.2 % step.1
  match i.holds step below, i.holds step (below + 1) with
  | true, true =>
      if 2 * rest < step.1 ∨ (2 * rest = step.1 ∧ below % 2 = 0) then some below
      else some (below + 1)
  | true, false => some below
  | false, true => some (below + 1)
  | false, false => none

/-- The exponent of the leading digit. -/
def leadingExponent (magnitude : Nat) : Int :=
  (Nat.toDigits 10 (Binary64.unitsOf magnitude * Nat.pow 10 330 / Nat.pow 2 1074)).length - 331

/-- The fewest digits that read back as a positive magnitude; seventeen always do. -/
def shortest (magnitude : Nat) : Digits :=
  let interval := Interval.ofMagnitude magnitude
  let top := leadingExponent magnitude
  let found := (List.range 17).findSome? fun (n : Nat) =>
    let exponent := top - (n : Int)
    (interval.nearest? exponent).map fun digits => (⟨digits, exponent⟩ : Digits)
  found.getD ⟨0, 0⟩

end Decimal
end DocumentCatalog
