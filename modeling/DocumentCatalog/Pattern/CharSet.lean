import DocumentCatalog.Pattern.Interval

/-!
Sets of characters, written as they are put together in a pattern. A set can be asked for a
character, and it can be listed as intervals.
-/

namespace DocumentCatalog
namespace Pattern

inductive CharSet where
  | spans (points : List Unicode.Span)
  /-- The characters that equal the given one when case is disregarded. -/
  | alike (c : Char)
  /-- As `alike`, for the letters of ASCII only. -/
  | asciiAlike (c : Char)
  | compl (s : CharSet)
  | union (s t : CharSet)
  | inter (s t : CharSet)
  | diff (s t : CharSet)
  | symmDiff (s t : CharSet)
  /-- The characters that equal some character of the set when case is disregarded. -/
  | folded (s : CharSet)
  /-- As `folded`, for the letters of ASCII only. -/
  | asciiFolded (s : CharSet)

namespace CharSet

def contains : CharSet → Char → Bool
  | .spans points, d => Unicode.covers points d
  | .alike c, d => Unicode.fold d == Unicode.fold c
  | .asciiAlike c, d => d.toLower == c.toLower
  | .compl s, d => !s.contains d
  | .union s t, d => s.contains d || t.contains d
  | .inter s t, d => s.contains d && t.contains d
  | .diff s t, d => s.contains d && !t.contains d
  | .symmDiff s t, d => s.contains d != t.contains d
  | .folded s, d => (Unicode.foldClass d).any fun e => s.contains e
  | .asciiFolded s, d => s.contains d || s.contains d.toLower || s.contains d.toUpper

def intervals : CharSet → List Interval
  | .spans points => Interval.ofSpans points
  | .alike c => Interval.ofChars (Unicode.foldClass c)
  | .asciiAlike c => Interval.ofChars [c.toLower, c.toUpper]
  | .compl s => Interval.compl s.intervals
  | .union s t => Interval.union s.intervals t.intervals
  | .inter s t => Interval.inter s.intervals t.intervals
  | .diff s t => Interval.diff s.intervals t.intervals
  | .symmDiff s t => Interval.symmDiff s.intervals t.intervals
  | .folded s => Interval.folded s.intervals
  | .asciiFolded s => Interval.asciiFolded s.intervals

def none : CharSet := spans []

/-- The characters from one number to another. -/
def block (first last : Nat) : CharSet := spans [⟨first, last, 1⟩]

def range (low high : Char) : CharSet := block low.toNat high.toNat

def single (c : Char) : CharSet := range c c

def all : CharSet := block 0 Interval.greatest

def join (sets : List CharSet) : CharSet :=
  match sets with
  | [] => none
  | s :: rest => rest.foldl union s

/-- The complement if asked for. -/
def negateIf (negated : Bool) (s : CharSet) : CharSet :=
  if negated then compl s else s

/-! Classes of ASCII characters -/

def ascii : CharSet := block 0 0x7F

def asciiDigit : CharSet := range '0' '9'

def asciiLower : CharSet := range 'a' 'z'

def asciiUpper : CharSet := range 'A' 'Z'

def asciiAlpha : CharSet := union asciiLower asciiUpper

def asciiAlnum : CharSet := union asciiAlpha asciiDigit

def asciiWord : CharSet := union asciiAlnum (single '_')

def asciiSpace : CharSet := union (single ' ') (range '\t' '\r')

def asciiHexDigit : CharSet := join [asciiDigit, range 'a' 'f', range 'A' 'F']

/-- The classes of ASCII characters that have a name. -/
def ascii? (name : List Char) : Option CharSet :=
  match String.ofList name with
  | "alnum" => some asciiAlnum
  | "alpha" => some asciiAlpha
  | "ascii" => some ascii
  | "blank" => some (union (single ' ') (single '\t'))
  | "cntrl" => some (union (block 0 0x1F) (block 0x7F 0x7F))
  | "digit" => some asciiDigit
  | "graph" => some (range '!' '~')
  | "lower" => some asciiLower
  | "print" => some (range ' ' '~')
  | "punct" => some (diff (range '!' '~') asciiAlnum)
  | "space" => some asciiSpace
  | "upper" => some asciiUpper
  | "word" => some asciiWord
  | "xdigit" => some asciiHexDigit
  | _ => .none

end CharSet
end Pattern
end DocumentCatalog
