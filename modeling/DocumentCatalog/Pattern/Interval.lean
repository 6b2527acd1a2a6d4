import DocumentCatalog.Unicode.Case

/-!
Sets of code points as lists of intervals: in ascending order, apart from each other, and with a
gap between any two. Surrogates are no characters, so no complement has them.
-/

namespace DocumentCatalog
namespace Pattern

/-- The numbers from `first` to `last`. -/
structure Interval where
  first : Nat
  last : Nat
  deriving DecidableEq, Repr, Hashable

namespace Interval

def single (n : Nat) : Interval :=
  ⟨n, n⟩

def contains (x : Interval) (n : Nat) : Bool :=
  x.first ≤ n && n ≤ x.last

def covers (xs : List Interval) (n : Nat) : Bool :=
  xs.any (·.contains n)

def greatest : Nat := 0x10FFFF

def surrogates : Interval :=
  ⟨0xD800, 0xDFFF⟩

/-- Joins what touches or overlaps the current interval, in a list that ascends by first numbers. -/
def joinFrom (x : Interval) : List Interval → List Interval
  | [] => [x]
  | y :: rest =>
      if y.first ≤ x.last + 1 then joinFrom ⟨x.first, max x.last y.last⟩ rest
      else x :: joinFrom y rest

def join : List Interval → List Interval
  | [] => []
  | x :: rest => joinFrom x rest

/-- Any intervals, put in order. -/
def normalize (xs : List Interval) : List Interval :=
  join (xs.mergeSort fun x y => x.first ≤ y.first)

def union (xs ys : List Interval) : List Interval :=
  normalize (xs ++ ys)

/-- What lies between the intervals from a number on. -/
def gaps (start : Nat) : List Interval → List Interval
  | [] => if start ≤ greatest then [⟨start, greatest⟩] else []
  | x :: rest =>
      let after := gaps (x.last + 1) rest
      if start < x.first then ⟨start, x.first - 1⟩ :: after else after

def compl (xs : List Interval) : List Interval :=
  gaps 0 (union xs [surrogates])

def inter (xs ys : List Interval) : List Interval :=
  compl (union (compl xs) (compl ys))

def diff (xs ys : List Interval) : List Interval :=
  compl (union (compl xs) ys)

def symmDiff (xs ys : List Interval) : List Interval :=
  union (diff xs ys) (diff ys xs)

def ofChars (cs : List Char) : List Interval :=
  normalize (cs.map fun c => single c.toNat)

def ofSpan (s : Unicode.Span) : List Interval :=
  if s.step = 1 then [⟨s.first, s.last⟩] else s.points.map single

def ofSpans (spans : List Unicode.Span) : List Interval :=
  normalize (spans.flatMap ofSpan)

/-- Adds the characters that differ from one of the set in nothing but case. -/
def folded (xs : List Interval) : List Interval :=
  let groups := Unicode.foldClasses.filter fun group => group.any fun c => covers xs c.toNat
  union xs (ofChars groups.flatten)

/-- Adds the letters of ASCII that differ from one of the set in nothing but case. -/
def asciiFolded (xs : List Interval) : List Interval :=
  let letters := (inter xs [⟨0x41, 0x5A⟩]).map fun x => ⟨x.first + 0x20, x.last + 0x20⟩
  let capitals := (inter xs [⟨0x61, 0x7A⟩]).map fun x => ⟨x.first - 0x20, x.last - 0x20⟩
  normalize (xs ++ letters ++ capitals)

end Interval
end Pattern
end DocumentCatalog
