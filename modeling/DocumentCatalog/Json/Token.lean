import DocumentCatalog.Json.Fault

/-!
The values without parts, read one character at a time: the three constants, numbers and quoted
texts. A number has no end of its own; the character that cannot belong to it ends it.
-/

namespace DocumentCatalog
namespace Json

/-- How far a quoted text was read. Its characters are kept last first. -/
inductive Quoted where
  | plain (read : List Char)
  | escape (read : List Char)
  /-- Inside the four octets of a code unit, perhaps after a leading surrogate. The value is lost
  with the first octet that is no digit. -/
  | unit (read : List Char) (leading : Option Nat) (owed : Nat) (value : Option Nat)
  /-- After a leading surrogate, whose other half must follow. -/
  | half (read : List Char) (leading : Nat)
  | halfEscape (read : List Char) (leading : Nat)

namespace Quoted

/-- The character that a letter after a backslash stands for. -/
def shortEscape? (c : Char) : Option Char :=
  if c = '"' ∨ c = '\\' ∨ c = '/' then some c
  else if c = 'b' then some '\x08'
  else if c = 'f' then some '\x0c'
  else if c = 'n' then some '\n'
  else if c = 'r' then some '\r'
  else if c = 't' then some '\t'
  else none

def hexValue? (c : Char) : Option Nat :=
  if '0' ≤ c ∧ c ≤ '9' then some (c.toNat - '0'.toNat)
  else if 'a' ≤ c ∧ c ≤ 'f' then some (c.toNat - 'a'.toNat + 10)
  else if 'A' ≤ c ∧ c ≤ 'F' then some (c.toNat - 'A'.toNat + 10)
  else none

/-- Ends a code unit. A leading surrogate must be followed by a trailing one, which may stand nowhere
else. -/
def endUnit (read : List Char) (leading : Option Nat) (value : Nat) : Except Flaw Quoted :=
  match leading with
  | some high =>
      if 0xDC00 ≤ value ∧ value ≤ 0xDFFF then
        .ok (.plain (Char.ofNat (0x10000 + (high - 0xD800) * 0x400 + (value - 0xDC00)) :: read))
      else .error { fault := .loneSurrogate }
  | none =>
      if 0xD800 ≤ value ∧ value ≤ 0xDBFF then .ok (.half read value)
      else if 0xDC00 ≤ value ∧ value ≤ 0xDFFF then .error { fault := .loneSurrogate }
      else .ok (.plain (Char.ofNat value :: read))

/-- The text goes on, or has ended. -/
def step (quoted : Quoted) (c : Char) : Except Flaw (Quoted ⊕ String) :=
  match quoted with
  | .plain read =>
      if c = '"' then .ok (.inr (String.ofList read.reverse))
      else if c = '\\' then .ok (.inl (.escape read))
      else if c.toNat < 0x20 then .error { fault := .control }
      else .ok (.inl (.plain (c :: read)))
  | .escape read =>
      if c = 'u' then .ok (.inl (.unit read none 4 (some 0)))
      else
        match shortEscape? c with
        | some e => .ok (.inl (.plain (e :: read)))
        | none => .error { fault := .badEscape }
  | .unit read leading owed value =>
      let value := value.bind fun high => (hexValue? c).map (high * 16 + ·)
      if c.utf8Size < owed then .ok (.inl (.unit read leading (owed - c.utf8Size) value))
      else
        match value with
        | some value => (endUnit read leading value).map .inl
        | none => .error { fault := .badEscape, octets := owed }
  | .half read leading =>
      if c = '\\' then .ok (.inl (.halfEscape read leading))
      else .error { fault := .noTrailingSurrogate }
  | .halfEscape read leading =>
      if c = 'u' then .ok (.inl (.unit read (some leading) 4 (some 0)))
      else .error { fault := .noTrailingSurrogate }

end Quoted

namespace Number

/-- What the last character of a number was. -/
inductive Part where
  | sign
  | zero
  | whole
  | point
  | fraction
  | mark
  | markSign (negative : Bool)
  | exponent (negative : Bool) (value : Nat)

namespace Part

/-- An exponent is kept in 32 bits with a sign. -/
def greatestExponent : Nat := 0x7FFFFFFF

/-- Whether a number, read last character first, differs from zero before its exponent. -/
def isSignificant (read : List Char) : Bool :=
  (read.reverse.takeWhile fun c => c != 'e' && c != 'E').any fun c => '1' ≤ c ∧ c ≤ '9'

/-- A digit, where one must stand. -/
def digit (part : Part) (c : Char) : Except Flaw (Option Part) :=
  if Decimal.isDigit c then .ok (some part) else .error { fault := .badNumber }

/-- What may follow the digits before a point. -/
def afterWhole (c : Char) : Option Part :=
  if c = '.' then some .point
  else if c = 'e' ∨ c = 'E' then some .mark
  else none

/-- One more character of a number, unless the number has ended before it. -/
def step (read : List Char) (part : Part) (c : Char) : Except Flaw (Option Part) :=
  match part with
  | .sign => if c = '0' then .ok (some .zero) else digit .whole c
  | .zero => if Decimal.isDigit c then .error { fault := .badNumber } else .ok (afterWhole c)
  | .whole => .ok (if Decimal.isDigit c then some .whole else afterWhole c)
  | .point => digit .fraction c
  | .fraction =>
      .ok (if Decimal.isDigit c then some .fraction
        else if c = 'e' ∨ c = 'E' then some .mark
        else none)
  | .mark =>
      if c = '+' then .ok (some (.markSign false))
      else if c = '-' then .ok (some (.markSign true))
      else digit (.exponent false ((Text.digit? c).getD 0)) c
  | .markSign negative => digit (.exponent negative ((Text.digit? c).getD 0)) c
  | .exponent negative value =>
      match Text.digit? c with
      | none => .ok none
      | some d =>
          let next := value * 10 + d
          if greatestExponent < next && !negative && isSignificant read then
            .error { fault := .outOfRange }
          else .ok (some (.exponent negative next))

/-- Whether a number may end here. -/
def isComplete : Part → Bool
  | .zero | .whole | .fraction | .exponent .. => true
  | .sign | .point | .mark | .markSign _ => false

end Part

/-- The number with these characters, last first. -/
def ofRead (read : List Char) : Except Fault Json :=
  match Number.read? read.reverse with
  | some n => .ok (.number n)
  | none => .error .outOfRange

end Number

/-- A value that is being read. -/
inductive Token where
  | constant (next : Char) (owed : List Char) (value : Json)
  | number (read : List Char) (part : Number.Part)
  | quoted (text : Quoted)

namespace Token

/-- The value that starts with a character. -/
def start? (c : Char) : Option Token :=
  if c = 'n' then some (.constant 'u' ['l', 'l'] .null)
  else if c = 't' then some (.constant 'r' ['u', 'e'] (.bool true))
  else if c = 'f' then some (.constant 'a' ['l', 's', 'e'] (.bool false))
  else if c = '"' then some (.quoted (.plain []))
  else if c = '-' then some (.number [c] .sign)
  else if c = '0' then some (.number [c] .zero)
  else if Decimal.isDigit c then some (.number [c] .whole)
  else none

/-- What a character does to a value: the value goes on, ends with the character, or has ended
before it. -/
inductive Progress where
  | reading (token : Token)
  | ended (value : Json)
  | endedBefore (value : Json)

def step (token : Token) (c : Char) : Except Flaw Progress :=
  match token with
  | .constant next owed value =>
      if c = next then
        match owed with
        | [] => .ok (.ended value)
        | next :: owed => .ok (.reading (.constant next owed value))
      else .error { fault := .noConstant }
  | .number read part =>
      match part.step read c with
      | .error flaw => .error flaw
      | .ok (some part) => .ok (.reading (.number (c :: read) part))
      | .ok none =>
          match Number.ofRead read with
          | .ok value => .ok (.endedBefore value)
          | .error fault => .error { fault, octets := 0 }
  | .quoted text =>
      match text.step c with
      | .error flaw => .error flaw
      | .ok (.inl text) => .ok (.reading (.quoted text))
      | .ok (.inr text) => .ok (.ended (.string text))

/-- The value, if it ends where the text ends. -/
def finish : Token → Except Fault Json
  | .constant _ _ _ => .error .endInValue
  | .number read part => if part.isComplete then Number.ofRead read else .error .endInValue
  | .quoted _ => .error .endInString

end Token
end Json
end DocumentCatalog
