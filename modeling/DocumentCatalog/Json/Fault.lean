import DocumentCatalog.Json.Basic
import DocumentCatalog.Text.Numeral
import DocumentCatalog.Text.Quoted

/-!
Why a text is refused, and where. Lines are counted from one; within a line, octets are counted.
-/

namespace DocumentCatalog
namespace Json

/-- What a message tells of a value. -/
inductive Kind where
  | null
  | bool (value : Bool)
  | number (value : Number)
  | string (value : String)
  | array
  | object
  deriving DecidableEq, Repr

namespace Kind

def text : Kind → String
  | null => "null"
  | bool true => "boolean \x60true\x60"
  | bool false => "boolean \x60false\x60"
  | number (.integer value h) =>
      "integer \x60" ++ String.ofList (Number.chars (.integer value h)) ++ "\x60"
  | number (.decimal value) => "floating point \x60" ++ Decimal.text value ++ "\x60"
  | string value => "string " ++ Text.quoted value
  | array => "sequence"
  | object => "map"

end Kind

def kind : Json → Kind
  | .null => .null
  | .bool value => .bool value
  | .number value => .number value
  | .string value => .string value
  | .array _ => .array
  | .object _ => .object

inductive Fault where
  | endInArray
  | endInObject
  | endInString
  | endInValue
  | noColon
  | noEndOfArray
  | noEndOfObject
  | noConstant
  | noValue
  | noKey
  | badEscape
  | badNumber
  | outOfRange
  | control
  | loneSurrogate
  | noTrailingSurrogate
  | trailingComma
  | trailingText
  | tooDeep
  | wrongKind (found : Kind) (wanted : String)
  deriving DecidableEq, Repr

def Fault.text : Fault → String
  | endInArray => "EOF while parsing a list"
  | endInObject => "EOF while parsing an object"
  | endInString => "EOF while parsing a string"
  | endInValue => "EOF while parsing a value"
  | noColon => "expected \x60:\x60"
  | noEndOfArray => "expected \x60,\x60 or \x60]\x60"
  | noEndOfObject => "expected \x60,\x60 or \x60\x7d\x60"
  | noConstant => "expected ident"
  | noValue => "expected value"
  | noKey => "key must be a string"
  | badEscape => "invalid escape"
  | badNumber => "invalid number"
  | outOfRange => "number out of range"
  | control => "control character (\\u0000-\\u001F) found while parsing a string"
  | loneSurrogate => "lone leading surrogate in hex escape"
  | noTrailingSurrogate => "unexpected end of hex escape"
  | trailingComma => "trailing comma"
  | trailingText => "trailing characters"
  | tooDeep => "recursion limit exceeded"
  | wrongKind found wanted => "invalid type: " ++ found.text ++ ", expected " ++ wanted

/-- A fault at a character, and how many of the character's octets count as read. -/
structure Flaw where
  fault : Fault
  octets : Nat := 1

/-- How much of a text was read: whole lines, and octets of the present one. -/
structure Place where
  line : Nat := 1
  column : Nat := 0
  deriving DecidableEq, Repr

namespace Place

/-- The place after the first octets of a character. A line break has only one. -/
def into (place : Place) (c : Char) (octets : Nat) : Place :=
  if octets = 0 then place
  else if c = '\n' then ⟨place.line + 1, 0⟩
  else ⟨place.line, place.column + octets⟩

def after (place : Place) (c : Char) : Place :=
  place.into c c.utf8Size

end Place

/-- The first fault of a text. -/
structure Refusal where
  fault : Fault
  place : Place
  deriving DecidableEq, Repr

def Refusal.message (refusal : Refusal) : String :=
  refusal.fault.text ++ " at line " ++ Text.numeral refusal.place.line ++
    " column " ++ Text.numeral refusal.place.column

end Json
end DocumentCatalog
