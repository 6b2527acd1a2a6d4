/-!
Whole numbers written in decimal. A sign may precede the digits, nothing else; the digits are ASCII
only. A numeral is read from the left, so of two faults the first one counts.
-/

namespace DocumentCatalog
namespace Text

inductive NumeralError where
  | empty
  | invalidDigit
  | tooLarge
  deriving DecidableEq, Repr

def NumeralError.message : NumeralError → String
  | .empty => "cannot parse integer from empty string"
  | .invalidDigit => "invalid digit found in string"
  | .tooLarge => "number too large to fit in target type"

def digit? (c : Char) : Option Nat :=
  if '0' ≤ c ∧ c ≤ '9' then some (c.toNat - '0'.toNat) else none

/-- Reads further digits after the value read so far, never going beyond `greatest`. -/
def readDigits (greatest value : Nat) : List Char → Except NumeralError Nat
  | [] => .ok value
  | c :: rest =>
      match digit? c with
      | none => .error .invalidDigit
      | some d =>
          if value * 10 + d ≤ greatest then readDigits greatest (value * 10 + d) rest
          else .error .tooLarge

/-- Digits that must not be missing. A lone sign is an invalid digit. -/
def readMagnitude (greatest : Nat) : List Char → Except NumeralError Nat
  | [] => .error .invalidDigit
  | digits => readDigits greatest 0 digits

/-- A natural number up to `greatest`, with an optional plus sign. -/
def readNat (greatest : Nat) (s : String) : Except NumeralError Nat :=
  match s.toList with
  | [] => .error .empty
  | '+' :: digits => readMagnitude greatest digits
  | digits => readMagnitude greatest digits

def greatestWord : Nat := 0xFFFFFFFFFFFFFFFF

/-- A natural number of at most 64 bits. -/
def readWord (s : String) : Except NumeralError Nat :=
  readNat greatestWord s

/-- An integer of at most 64 bits in two's complement. -/
def readInteger? (s : String) : Option Int :=
  match s.toList with
  | '-' :: digits => (readMagnitude 0x8000000000000000 digits).toOption.map fun n => -(n : Int)
  | _ => (readNat 0x7FFFFFFFFFFFFFFF s).toOption.map fun n => (n : Int)

/-- The digits of a natural number, without leading zeros. -/
def numeral (n : Nat) : String :=
  String.ofList (Nat.toDigits 10 n)

end Text
end DocumentCatalog
