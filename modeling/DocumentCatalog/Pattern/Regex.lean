import DocumentCatalog.Pattern.Property

/-!
Regular expressions over the characters of a text, and the places where their matches end. Positions
lie between the characters and are counted from zero.
-/

namespace DocumentCatalog
namespace Pattern

/-- Conditions on a position alone. Two of them end lines also at a carriage return, and word
boundaries say whether words go beyond ASCII. -/
inductive Assertion where
  | startText | endText
  | startLine | endLine
  | startLineReturn | endLineReturn
  | wordBoundary (wide : Bool) | notWordBoundary (wide : Bool)
  | wordStart (wide : Bool) | wordEnd (wide : Bool)
  | wordStartHalf (wide : Bool) | wordEndHalf (wide : Bool)
  deriving DecidableEq, Repr

/-- The characters of words. -/
def wordSet (wide : Bool) : CharSet :=
  if wide then CharSet.word else CharSet.asciiWord

/-- Whether a character is there and belongs to a word. -/
def inWord (wide : Bool) (c : Option Char) : Bool :=
  c.any (wordSet wide).contains

/-- Whether an assertion holds between two characters, which are missing at the ends. -/
def Assertion.holds (before after : Option Char) : Assertion → Bool
  | .startText => before.isNone
  | .endText => after.isNone
  | .startLine => before.isNone || before == some '\n'
  | .endLine => after.isNone || after == some '\n'
  | .startLineReturn =>
      before.isNone || before == some '\n' || (before == some '\r' && after != some '\n')
  | .endLineReturn =>
      after.isNone || after == some '\r' || (after == some '\n' && before != some '\r')
  | .wordBoundary wide => inWord wide before != inWord wide after
  | .notWordBoundary wide => inWord wide before == inWord wide after
  | .wordStart wide => !inWord wide before && inWord wide after
  | .wordEnd wide => inWord wide before && !inWord wide after
  | .wordStartHalf wide => !inWord wide before
  | .wordEndHalf wide => !inWord wide after

inductive Regex where
  | empty
  | set (s : CharSet)
  | assert (a : Assertion)
  | seq (r s : Regex)
  | alt (r s : Regex)
  /-- A bracketed expression, with its number if it is one of the counted ones. -/
  | group (number : Option Nat) (r : Regex)
  /-- At least so many times, and at most so many times if a bound is given. -/
  | times (r : Regex) (least : Nat) (greatest : Option Nat)

/-- The elements of both lists, those of the second that are new at the end. -/
def addNew (xs ys : List Nat) : List Nat :=
  xs ++ (ys.filter fun y => !xs.contains y).eraseDups

/-- Applies a function to a list so many times, or until the list no longer changes. -/
def repeated (f : List Nat → List Nat) : Nat → List Nat → List Nat
  | 0, xs => xs
  | n + 1, xs =>
      let next := f xs
      if next = xs then xs else repeated f n next

/-- Everything seen or reached from the frontier by at most so many applications. -/
def closure (f : List Nat → List Nat) : Nat → List Nat → List Nat → List Nat
  | 0, seen, _ => seen
  | n + 1, seen, frontier =>
      let new := ((f frontier).filter fun x => !seen.contains x).eraseDups
      if new.isEmpty then seen else closure f n (seen ++ new) new

namespace Regex

/-- Where matches end that start at one of the given positions. Without an upper bound one
repetition more than there are characters reaches everything. -/
def ends (text : Array Char) : Regex → List Nat → List Nat
  | .empty, starts => starts
  | .set s, starts =>
      starts.filterMap fun i => (text[i]?).bind fun c => if s.contains c then some (i + 1) else none
  | .assert a, starts =>
      starts.filter fun i => a.holds (if i = 0 then none else text[i - 1]?) text[i]?
  | .seq r s, starts => s.ends text (r.ends text starts)
  | .alt r s, starts => addNew (r.ends text starts) (s.ends text starts)
  | .group _ r, starts => r.ends text starts
  | .times r least greatest, starts =>
      let first := repeated (fun xs => r.ends text xs) least starts
      let more := match greatest with
        | none => text.size + 1
        | some bound => bound - least
      closure (fun xs => r.ends text xs) more first first

/-- Whether the expression matches some part of the text. -/
def isMatch (r : Regex) (s : String) : Bool :=
  let text := s.toList.toArray
  !(r.ends text (List.range (text.size + 1))).isEmpty

end Regex
end Pattern
end DocumentCatalog
