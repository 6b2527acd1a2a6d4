import DocumentCatalog.Number.Decimal

/-!
The 64-bit format with its special values. A text can also spell an infinity or what is no number,
and a decimal too large for the format reads as an infinity. Reading a finite number is reading any
value and leaving these out.
-/

namespace DocumentCatalog

inductive Binary64.Datum where
  | finite (x : Binary64)
  | infinite (negative : Bool)
  | notNumber
  deriving DecidableEq, Repr

def Binary64.Datum.finite? : Binary64.Datum → Option Binary64
  | finite x => some x
  | infinite _ | notNumber => none

namespace Decimal

/-- The sign, the digits and the exponent of a decimal that takes up the whole text. -/
def scan? (s : String) : Option (Bool × Nat × Int) := do
  let (negative, cs) := takeSign s.toList
  let whole := cs.takeWhile isDigit
  let (fraction, rest) := takeFraction (cs.dropWhile isDigit)
  if whole.isEmpty && fraction.isEmpty then none
  else
    let exponent ← readExponent? rest
    some (negative, digitsValue (whole ++ fraction), exponent - fraction.length)

/-- The words for the special values, in any case of their letters. -/
def special? (s : String) : Option Binary64.Datum :=
  let (negative, cs) := takeSign s.toList
  let word := String.ofList (cs.map Char.toLower)
  if word = "inf" ∨ word = "infinity" then some (.infinite negative)
  else if word = "nan" then some .notNumber
  else none

def readDatum? (s : String) : Option Binary64.Datum :=
  match scan? s with
  | some (negative, digits, exponent) =>
      match Binary64.ofDecimal? negative digits exponent with
      | some x => some (.finite x)
      | none => some (.infinite negative)
  | none => special? s

theorem read?_eq_scan? (s : String) :
    read? s = (scan? s).bind fun (negative, digits, exponent) =>
      Binary64.ofDecimal? negative digits exponent := by
  unfold read? scan?
  simp only [Option.bind_eq_bind]
  split
  · rfl
  · rw [Option.bind_assoc]
    rfl

theorem finite?_special? (s : String) : (special? s).bind Binary64.Datum.finite? = none := by
  unfold special?
  simp only
  split
  · rfl
  · split <;> rfl

theorem read?_eq (s : String) : read? s = (readDatum? s).bind Binary64.Datum.finite? := by
  rw [read?_eq_scan?, readDatum?]
  cases scan? s with
  | none => exact (finite?_special? s).symm
  | some scanned =>
      obtain ⟨negative, digits, exponent⟩ := scanned
      simp only [Option.bind_some]
      cases Binary64.ofDecimal? negative digits exponent <;> rfl

end Decimal
end DocumentCatalog
