import DocumentCatalog.Pattern.Regex
import DocumentCatalog.Text.Utf8

/-!
Regular expressions in a normal form: parts that follow each other stand in one row, adjacent
characters form one literal, choices between characters form one class, and what all branches of a
choice start with stands before it.
-/

namespace DocumentCatalog
namespace Pattern

inductive Shape where
  | empty
  | literal (text : List Char)
  | choice (xs : List Interval)
  | assert (a : Assertion)
  | capture (number : Nat) (s : Shape)
  /-- A first part that is no row, and the parts after it. -/
  | row (first rest : Shape)
  /-- A choice between several texts. -/
  | literals (texts : List (List Char))
  /-- A first branch that is no choice itself, and the other branches. -/
  | either (first rest : Shape)
  | times (s : Shape) (least : Nat) (greatest : Option Nat)
  deriving DecidableEq, Repr

namespace Shape

/-- The parts of a row. -/
def parts : Shape → List Shape
  | empty => []
  | row s t => s :: parts t
  | s => [s]

/-- The branches of a choice. -/
def branches : Shape → List Shape
  | literals texts => texts.map literal
  | either s t => s :: branches t
  | s => [s]

/-- Puts a part before a row. -/
def consPart : Shape → Shape → Shape
  | s, empty => s
  | literal x, literal y => literal (x ++ y)
  | literal x, row (literal y) t => row (literal (x ++ y)) t
  | s, t => row s t

/-- One row after the other. -/
def append : Shape → Shape → Shape
  | empty, t => t
  | row s r, t => consPart s (append r t)
  | s, t => consPart s t

def ofParts (parts : List Shape) : Shape :=
  parts.foldr consPart empty

def ofBranches : List Shape → Shape
  | [] => choice []
  | [s] => s
  | s :: rest => either s (ofBranches rest)

/-- A class; of a single character it is a literal. -/
def ofIntervals (xs : List Interval) : Shape :=
  match xs with
  | [x] => if x.first = x.last then literal [Char.ofNat x.first] else choice xs
  | _ => choice xs

def text? : Shape → Option (List Char)
  | literal text => some text
  | _ => none

def intervals? : Shape → Option (List Interval)
  | choice xs => some xs
  | _ => none

/-- The parts that both rows start with. -/
def commonParts : List Shape → List Shape → List Shape
  | s :: ss, t :: ts => if s = t then s :: commonParts ss ts else []
  | _, _ => []

/-- The parts that every one of the branches starts with, if all of them are rows. -/
def sharedParts (branches : List Shape) : List Shape :=
  match branches with
  | row s t :: rest =>
      rest.foldl (fun shared branch =>
        match branch with
        | row u v => commonParts shared (u :: parts v)
        | _ => []) (s :: parts t)
  | _ => []

/-- A choice that is no row: a class if every branch is one character or every branch is a class. -/
def ofFlat (branches : List Shape) : Shape :=
  match branches with
  | [s] => s
  | _ =>
      match branches.mapM text?, branches.mapM intervals? with
      | some texts, _ =>
          if texts.all (·.length == 1) then ofIntervals (Interval.ofChars texts.flatten)
          else literals texts
      | none, some xss => ofIntervals (Interval.normalize xss.flatten)
      | none, none => ofBranches branches

/-- A choice between branches. -/
def alternation (choices : List Shape) : Shape :=
  let flat := choices.flatMap branches
  match flat, sharedParts flat with
  | _ :: _ :: _, _ :: _ =>
      let shared := sharedParts flat
      let ends := flat.map fun s => ofParts (s.parts.drop shared.length)
      append (ofParts shared) (ofFlat (ends.flatMap branches))
  | _, _ => ofFlat flat

/-- The length of the shortest texts that match, in octets, unless there are none. -/
def shortest : Shape → Option Nat
  | empty => some 0
  | literal text => some (Text.Utf8.octetCount text)
  | choice [] => none
  | choice (x :: _) => some (Char.ofNat x.first).utf8Size
  | assert _ => some 0
  | literals texts => (texts.map Text.Utf8.octetCount).min?
  | capture _ s => s.shortest
  | row s t => s.shortest.bind fun n => t.shortest.map (n + ·)
  | either s t => s.shortest.bind fun n => t.shortest.map (min n ·)
  | times s least _ => s.shortest.map (· * least)

/-- Whether only the empty text matches. -/
def matchesEmptyOnly : Shape → Bool
  | empty => true
  | literal text => text.isEmpty
  | literals texts => texts.all (·.isEmpty)
  | choice _ => false
  | assert _ => true
  | capture _ s => s.matchesEmptyOnly
  | row s t => s.matchesEmptyOnly && t.matchesEmptyOnly
  | either s t => s.matchesEmptyOnly && t.matchesEmptyOnly
  | times s _ _ => s.matchesEmptyOnly

/-- So many repetitions; of what is empty anyway one is enough. -/
def repetition (s : Shape) (least : Nat) (greatest : Option Nat) : Shape :=
  let once := s.matchesEmptyOnly
  let least := if once then min least 1 else least
  let greatest := if once then some (min (greatest.getD 1) 1) else greatest
  if greatest = some 0 then empty
  else if least = 1 ∧ greatest = some 1 then s
  else times s least greatest

end Shape

/-- The branches of an expression in normal form. -/
def Regex.branches : Regex → List Shape
  | .empty => [.empty]
  | .set s => [.ofIntervals s.intervals]
  | .assert a => [.assert a]
  | .seq r s => [(Shape.alternation r.branches).append (Shape.alternation s.branches)]
  | .alt r s => r.branches ++ s.branches
  | .group none r => [Shape.alternation r.branches]
  | .group (some n) r => [.capture n (Shape.alternation r.branches)]
  | .times r least greatest => [(Shape.alternation r.branches).repetition least greatest]

/-- An expression in normal form. -/
def Regex.shape (r : Regex) : Shape :=
  Shape.alternation r.branches

end Pattern
end DocumentCatalog
