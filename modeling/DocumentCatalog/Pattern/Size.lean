import DocumentCatalog.Pattern.Octets
import DocumentCatalog.Pattern.Shape

/-!
How large the two machines for an expression are, one of which reads texts from their end: what
their states and the arrows between them take, in octets. Expressions with too large a machine are
refused.
-/

namespace DocumentCatalog
namespace Pattern

/-- What a state takes, together with an arrow if it has just one. -/
def stateSize : Nat := 32

/-- What each of several arrows takes that are told apart by octets. -/
def arrowSize : Nat := 8

/-- What each way takes that is open whatever comes next. -/
def waySize : Nat := 4

def total (sizes : List Nat) : Nat :=
  sizes.foldl (· + ·) 0

/-- The nodes of the tree of words, down to a depth, each as the words that are left there. Where no
word goes on is no node. -/
def nodes {α : Type} [BEq α] : Nat → List (List α) → List (List (List α))
  | 0, _ => []
  | depth + 1, words =>
      words :: (byHead words).flatMap fun group =>
        if group.2.all (·.isEmpty) then [] else nodes depth group.2

/-- A class as the tree of its words. Forward, equal nodes are one state; backward, every word is a
way of its own and only shares what it starts with. -/
def classSize (backward : Bool) (xs : List Interval) : Nat :=
  let words := xs.flatMap Interval.words
  let states := nodes 4 words
  if backward && words.any (·.length != 1) then
    2 * stateSize + waySize * words.length +
      stateSize * total (states.map fun node => (byHead node).length)
  else
    stateSize + total (states.eraseDups.map fun node =>
      stateSize + arrowSize * (byHead node).length)

/-- Cuts a list of words at the empty ones. -/
def stretches {α : Type} : List (List α) → List (List (List α))
  | [] => [[]]
  | [] :: rest => [] :: stretches rest
  | word :: rest =>
      match stretches rest with
      | [] => [[word]]
      | first :: more => (word :: first) :: more

/-- Of the empty words at the start one is enough. -/
def oneEmpty {α : Type} : List (List α) → List (List α)
  | [] :: rest => [] :: rest.dropWhile (·.isEmpty)
  | words => words

/-- A choice that octets decide. -/
def forkSize (ways : Nat) : Nat :=
  if ways = 1 then stateSize else stateSize + arrowSize * ways

/-- A tree of words down to a depth, where earlier words go before later ones: after the end of a
word the tree starts anew. -/
def treeSize {α : Type} [BEq α] : Nat → List (List α) → Nat
  | 0, _ => 0
  | depth + 1, words =>
      if words.all (·.isEmpty) then 0
      else
        let stretches := stretches (oneEmpty words)
        let forks := (stretches.map byHead).filter (!·.isEmpty)
        stateSize + waySize * (stretches.length - 1) +
          total (forks.map fun groups => waySize + forkSize groups.length +
            total (groups.map fun group => treeSize depth group.2))

/-- The octets of a text, in the order in which they are read. -/
def octets (backward : Bool) (text : List Char) : List Nat :=
  let read := Text.Utf8.encode (String.ofList text)
  if backward then read.reverse else read

/-- A choice between texts. -/
def literalsSize (backward : Bool) (texts : List (List Char)) : Nat :=
  let words := texts.map (octets backward)
  stateSize + treeSize (words.foldl (fun n word => max n word.length) 0 + 1) words

/-- What is open at the end of a repetition: to go on or to repeat. -/
def loopSize : Nat :=
  stateSize + 2 * waySize

/-- Repetitions of something of the given size, which may match the empty text or not. -/
def repetitionSize (size : Nat) (canBeEmpty : Bool) (least : Nat) : Option Nat → Nat
  | none =>
      if least = 0 then
        if canBeEmpty then size + 2 * loopSize + stateSize else size + loopSize
      else least * size + loopSize
  | some greatest =>
      if least = greatest then least * size
      else if least = 0 ∧ greatest = 1 then size + loopSize + stateSize
      else
        (if least = 0 then stateSize else least * size) + stateSize +
          (greatest - least) * (size + loopSize)

/-- A choice between branches of the given sizes. -/
def choiceSize : List Nat → Nat
  | [size] => size
  | sizes => 2 * stateSize + total (sizes.map (waySize + ·))

namespace Shape

/-- The sizes of the branches. Forward, the ends of counted groups are states as well. -/
def branchSizes (backward : Bool) : Shape → List Nat
  | empty => [stateSize]
  | literal text => [stateSize * Text.Utf8.octetCount text]
  | choice xs => [classSize backward xs]
  | assert _ => [stateSize]
  | capture _ s =>
      [choiceSize (s.branchSizes backward) + if backward then 0 else 2 * stateSize]
  | row s t => [choiceSize (s.branchSizes backward) + choiceSize (t.branchSizes backward)]
  | literals texts => [literalsSize backward texts]
  | either s t => s.branchSizes backward ++ t.branchSizes backward
  | times s least greatest =>
      [repetitionSize (choiceSize (s.branchSizes backward)) (s.shortest.getD 0 == 0) least greatest]

def size (backward : Bool) (s : Shape) : Nat :=
  choiceSize (s.branchSizes backward)

/-- Any octets before the match, the ends of the match as of a counted group, and its success. -/
def forwardSize (s : Shape) : Nat :=
  (2 * stateSize + arrowSize + loopSize) + 2 * stateSize + stateSize + s.size false

def backwardSize (s : Shape) : Nat :=
  (2 * stateSize + arrowSize + loopSize) + stateSize + s.size true

end Shape

def greatestSize : Nat := 10 * 1024 * 1024

/-- Whether the machines for an expression are small enough. -/
def Regex.fits (r : Regex) : Bool :=
  let shape := r.shape
  shape.forwardSize ≤ greatestSize && shape.backwardSize ≤ greatestSize

end Pattern
end DocumentCatalog
