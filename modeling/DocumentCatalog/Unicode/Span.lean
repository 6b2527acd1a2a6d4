/-!
Sets of characters as short lists of evenly spaced code points, and maps that move such a set by a
constant distance. The tables of this folder are written with them.
-/

namespace DocumentCatalog
namespace Unicode

/-- The code points `first`, `first + step`, `first + 2 * step` and so on, up to `last`. -/
structure Span where
  first : Nat
  last : Nat
  step : Nat
  deriving DecidableEq, Repr

def Span.contains (s : Span) (c : Char) : Bool :=
  s.first ≤ c.toNat && c.toNat ≤ s.last && (c.toNat - s.first) % s.step == 0

/-- How many code points a span has. -/
def Span.count (s : Span) : Nat :=
  (s.last - s.first) / s.step + 1

/-- The code points of a span, in their order. -/
def Span.points (s : Span) : List Nat :=
  (List.range s.count).map fun i => s.first + i * s.step

def Span.chars (s : Span) : List Char :=
  s.points.map Char.ofNat

/-- Whether one of the spans holds the character. -/
def covers (spans : List Span) (c : Char) : Bool :=
  spans.any (·.contains c)

/-- Sends the code points of a span, in order, to equally spaced ones from `target` on. -/
structure Mapping where
  source : Span
  target : Nat
  deriving DecidableEq, Repr

/-- The span of the images. -/
def Mapping.image (m : Mapping) : Span :=
  ⟨m.target, m.target + (m.source.last - m.source.first), m.source.step⟩

/-- The image of a character, if the mapping moves it. -/
def Mapping.image? (m : Mapping) (c : Char) : Option Char :=
  if m.source.contains c then some (Char.ofNat (m.target + (c.toNat - m.source.first))) else none

/-- The character that the mapping sends to this one, if there is one. -/
def Mapping.preimage? (m : Mapping) (c : Char) : Option Char :=
  if m.target ≤ c.toNat then
    let origin := Char.ofNat (m.source.first + (c.toNat - m.target))
    if m.source.contains origin then some origin else none
  else none

/-- The image under the first mapping of the table that moves the character, else the character. -/
def move (table : List Mapping) (c : Char) : Char :=
  (table.findSome? (·.image? c)).getD c

/-- All characters that some mapping of the table sends to this one. -/
def origins (table : List Mapping) (c : Char) : List Char :=
  table.filterMap (·.preimage? c)

end Unicode
end DocumentCatalog
