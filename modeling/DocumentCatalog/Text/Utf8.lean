/-!
Reading octets as UTF-8, one octet at a time. Octets that belong to no character are reported where
they stand, one report for the longest part that could still have become a character.
-/

namespace DocumentCatalog
namespace Text
namespace Utf8

/-- Where the reader stands between octets: inside a character it knows the bits read so far, how
many octets are owed, and the bounds of the next one. -/
inductive State where
  | between
  | inside (bits owed low high : Nat)
  deriving DecidableEq, Repr

/-- Reads the first octet of a character. An octet that starts none is reported as `none`. -/
def start (octet : Nat) : List (Option Char) × State :=
  if octet < 0x80 then ([some (Char.ofNat octet)], .between)
  else if octet < 0xC2 then ([none], .between)
  else if octet < 0xE0 then ([], .inside (octet - 0xC0) 1 0x80 0xBF)
  else if octet = 0xE0 then ([], .inside 0 2 0xA0 0xBF)
  else if octet = 0xED then ([], .inside 0xD 2 0x80 0x9F)
  else if octet < 0xF0 then ([], .inside (octet - 0xE0) 2 0x80 0xBF)
  else if octet = 0xF0 then ([], .inside 0 3 0x90 0xBF)
  else if octet < 0xF4 then ([], .inside (octet - 0xF0) 3 0x80 0xBF)
  else if octet = 0xF4 then ([], .inside 4 3 0x80 0x8F)
  else ([none], .between)

/-- Reads one octet. When it cannot continue the open character, that one is reported and the octet
is read again as the first of the next. -/
def step : State → Nat → List (Option Char) × State
  | .between, octet => start octet
  | .inside bits owed low high, octet =>
      if low ≤ octet ∧ octet ≤ high then
        let bits := bits * 64 + (octet - 0x80)
        if owed ≤ 1 then ([some (Char.ofNat bits)], .between)
        else ([], .inside bits (owed - 1) 0x80 0xBF)
      else
        let (read, state) := start octet
        (none :: read, state)

/-- The characters of the octets, with `none` for each part that is no character. -/
def decodeFrom : State → List Nat → List (Option Char)
  | .between, [] => []
  | .inside .., [] => [none]
  | state, octet :: rest =>
      let (read, state) := step state octet
      read ++ decodeFrom state rest

def decode (octets : List Nat) : List (Option Char) :=
  decodeFrom .between octets

/-- The text, if every octet belongs to a character. -/
def text? (octets : List Nat) : Option String :=
  ((decode octets).mapM id).map String.ofList

/-- The text with a replacement character for each part that is no character. -/
def lossyText (octets : List Nat) : String :=
  String.ofList ((decode octets).map (·.getD '\uFFFD'))

/-- The octets of a text. -/
def encode (s : String) : List Nat :=
  s.toList.flatMap fun c => (String.utf8EncodeChar c).map UInt8.toNat

/-- How many octets characters take up. -/
def octetCount : List Char → Nat
  | [] => 0
  | c :: rest => c.utf8Size + octetCount rest

end Utf8
end Text
end DocumentCatalog
