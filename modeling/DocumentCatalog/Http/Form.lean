import DocumentCatalog.Text.Split
import DocumentCatalog.Text.Utf8

/-!
Names and values in the query of a URI. Ampersands separate the pairs and the first equals sign of a
pair its name from its value; a plus stands for a blank, and a percent sign with two hexadecimal
digits for an octet.
-/

namespace DocumentCatalog
namespace Http
namespace Form

def percent : Nat := '%'.toNat

/-- The value of the octet of a hexadecimal digit, in either case. -/
def hexValue? (octet : Nat) : Option Nat :=
  if 0x30 ≤ octet ∧ octet ≤ 0x39 then some (octet - 0x30)
  else if 0x41 ≤ octet ∧ octet ≤ 0x46 then some (octet - 0x41 + 10)
  else if 0x61 ≤ octet ∧ octet ≤ 0x66 then some (octet - 0x61 + 10)
  else none

/-- Resolves the octets written with percent signs; a percent sign without two digits stays. -/
def percentDecode : List Nat → List Nat
  | [] => []
  | [octet] => [octet]
  | [octet, next] => [octet, next]
  | octet :: high :: low :: rest =>
      if octet = percent then
        match hexValue? high, hexValue? low with
        | some h, some l => (16 * h + l) :: percentDecode rest
        | _, _ => octet :: percentDecode (high :: low :: rest)
      else octet :: percentDecode (high :: low :: rest)

/-- A name or value. The plus signs are replaced first, so one that is written with a percent sign
stays. -/
def component (s : String) : String :=
  let spaced := String.ofList (s.toList.map fun c => if c = '+' then ' ' else c)
  Text.Utf8.lossyText (percentDecode (Text.Utf8.encode spaced))

def pair (s : String) : String × String :=
  let (name, value) := Text.splitFirst '=' s
  (component name, component value)

/-- The pairs of a query; empty ones do not count. -/
def pairs (query : String) : List (String × String) :=
  ((Text.split '&' query).filter (· != "")).map pair

end Form
end Http
end DocumentCatalog
