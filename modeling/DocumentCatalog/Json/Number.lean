import DocumentCatalog.Number.Written

/-!
Numbers of documents. Integers of 64 bits keep their exact value; every other number is kept in the
64-bit binary format. Two numbers are ordered by their binary values, integers included.
-/

namespace DocumentCatalog
namespace Json

inductive Number where
  | integer (value : Int) (inRange : -0x8000000000000000 ≤ value ∧ value < 0x10000000000000000)
  | decimal (value : Binary64)
  deriving DecidableEq, Repr

namespace Number

/-- The integer as a number, if it is one that is kept exactly. -/
def ofInt? (value : Int) : Option Number :=
  if h : -0x8000000000000000 ≤ value ∧ value < 0x10000000000000000 then some (.integer value h)
  else none

/-- The value in the binary format, rounded for integers that need more than 53 bits. -/
def toBinary64 : Number → Binary64
  | .integer value _ => .ofInt value
  | .decimal value => value

/-- Comparison by binary value. -/
def compareValue (x y : Number) : Ordering :=
  x.toBinary64.compareValue y.toBinary64

/-- Comparison for sorting, which puts negative zero before zero. -/
def compareTotal (x y : Number) : Ordering :=
  x.toBinary64.compareTotal y.toBinary64

/-- Equality of binary values. -/
def sameValue (x y : Number) : Bool :=
  x.toBinary64.sameValue y.toBinary64

/-- Equality inside arrays and objects: an integer never equals a number kept in binary. -/
def same : Number → Number → Bool
  | .integer x _, .integer y _ => x == y
  | .decimal x, .decimal y => x.sameValue y
  | _, _ => false

def chars : Number → List Char
  | .integer value _ =>
      (if value < 0 then ['-'] else []) ++ Decimal.natChars value.natAbs
  | .decimal value => Decimal.chars value

/-- Appends digits to a value while it fits a word, and returns the digits that were left. -/
def takeWord (value : Nat) : List Char → Nat × List Char
  | [] => (value, [])
  | c :: rest =>
      let next := value * 10 + (Text.digit? c).getD 0
      if next ≤ Text.greatestWord then takeWord next rest else (value, c :: rest)

/-- `word * 10 ^ exponent`. The word is rounded first and the result once more; a power beyond
`10 ^ 308` is too large, and one far below the least number leaves zero. -/
def scaled? (negative : Bool) (word : Nat) (exponent : Int) : Option Binary64 :=
  if word = 0 then some (.zero negative)
  else do
    let x ← Binary64.ofQuotient? negative word 1
    if 308 < exponent then none
    else if 0 ≤ exponent then x.timesPowerOfTen? exponent.natAbs
    else if -308 ≤ exponent then x.overPowerOfTen? exponent.natAbs
    else if -616 ≤ exponent then (← x.overPowerOfTen? 308).overPowerOfTen? (exponent + 308).natAbs
    else some (.zero negative)

/-- A number with a fraction, an exponent or too many digits. Only the digits that fit a word count;
whole digits that are left raise the exponent. -/
def ofParts? (negative : Bool) (whole fraction : List Char) (exponent : Int) : Option Number :=
  let (high, wholeLeft) := takeWord 0 whole
  let (word, fractionLeft) := takeWord high fraction
  (scaled? negative word
    (exponent + wholeLeft.length - (fraction.length - fractionLeft.length : Nat))).map .decimal

/-- A number without fraction and exponent. Minus zero is no integer. -/
def ofWhole? (negative : Bool) (digits : List Char) : Option Number :=
  let n := Decimal.digitsValue digits
  if Text.greatestWord < n then ofParts? negative digits [] 0
  else if negative then
    if n = 0 then some (.decimal (.zero true))
    else if n ≤ 0x8000000000000000 then ofInt? (-(n : Int))
    else (Binary64.ofQuotient? true n 1).map .decimal
  else ofInt? n

/-- A fraction part: a point needs a digit after it. Absence is told from an error. -/
def takeFraction? : List Char → Option (Option (List Char) × List Char)
  | '.' :: rest =>
      let digits := rest.takeWhile Decimal.isDigit
      if digits.isEmpty then none else some (some digits, rest.dropWhile Decimal.isDigit)
  | cs => some (none, cs)

/-- Reads a number as documents spell it: an optional minus sign, digits without a leading zero, an
optional fraction and an optional exponent, and nothing else. -/
def read? (cs : List Char) : Option Number := do
  let (negative, cs) := match cs with
    | '-' :: rest => (true, rest)
    | _ => (false, cs)
  let whole := cs.takeWhile Decimal.isDigit
  if whole.isEmpty || (whole.length > 1 && whole.head? == some '0') then none
  else
    let (fraction, rest) ← takeFraction? (cs.dropWhile Decimal.isDigit)
    match fraction, rest with
    | none, [] => ofWhole? negative whole
    | _, _ =>
        let exponent ← Decimal.readExponent? rest
        ofParts? negative whole (fraction.getD []) exponent

end Number
end Json
end DocumentCatalog
