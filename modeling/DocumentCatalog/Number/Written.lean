import DocumentCatalog.Number.Decimal

/-!
How a finite number is written: its fewest digits, around a point while the leading digit stands
between the fifth place after the point and the sixteenth before it, else with an exponent.
-/

namespace DocumentCatalog
namespace Decimal

/-- The choices of a written form: the exponents of the leading digit that are written with a point
alone. -/
structure Layout where
  leastPositional : Int
  greatestPositional : Int

/-- Numbers in documents. -/
def documentLayout : Layout :=
  ⟨-5, 15⟩

/-- The characters of a natural number in decimal. -/
def natChars (n : Nat) : List Char :=
  Nat.toDigits 10 n

/-- Digits without the zeros at their end, at least one digit. -/
def dropEndZeros (digits : List Char) : List Char :=
  match (digits.reverse.dropWhile (· == '0')).reverse with
  | [] => ['0']
  | kept => kept

/-- Digits whose first one has the given exponent, written with a point and at least one digit on
each side of it. -/
def positional (digits : List Char) (exponent : Int) : List Char :=
  if exponent < 0 then
    ['0', '.'] ++ List.replicate (exponent.natAbs - 1) '0' ++ digits
  else
    let whole := exponent.toNat + 1
    let fraction := digits.drop whole
    digits.take whole ++ List.replicate (whole - digits.length) '0' ++ ['.'] ++
      (if fraction.isEmpty then ['0'] else fraction)

/-- Digits with a point after the first one if there are more, and the exponent with its sign. -/
def scientific (digits : List Char) (exponent : Int) : List Char :=
  digits.take 1 ++ (if digits.length ≤ 1 then [] else '.' :: digits.drop 1) ++ ['e'] ++
    (if exponent < 0 then ['-'] else ['+']) ++ natChars exponent.natAbs

/-- A magnitude written without a sign. -/
def magnitudeChars (layout : Layout) (magnitude : Nat) : List Char :=
  if magnitude = 0 then ['0', '.', '0']
  else
    let found := shortest magnitude
    let all := natChars found.digits
    let exponent := found.exponent + all.length - 1
    let digits := dropEndZeros all
    if layout.leastPositional ≤ exponent ∧ exponent ≤ layout.greatestPositional then
      positional digits exponent
    else scientific digits exponent

/-- A finite number in the layout of documents; negative zero keeps its sign. -/
def chars (x : Binary64) : List Char :=
  (if x.negative then ['-'] else []) ++ magnitudeChars documentLayout x.magnitude

def text (x : Binary64) : String :=
  String.ofList (chars x)

end Decimal
end DocumentCatalog
