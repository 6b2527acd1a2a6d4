import DocumentCatalog.Pattern.Primitive

/-!
Classes between brackets: characters, ranges, named classes and nested brackets side by side, and
three operations between such lists, which all bind alike and from the left.
-/

namespace DocumentCatalog
namespace Pattern

/-- A list of class items: the characters it holds so far, the number of items, and how deep the
deepest one nests. -/
structure ClassItems where
  set : CharSet
  count : Nat
  depth : Nat

namespace ClassItems

def empty : ClassItems :=
  ⟨.none, 0, 0⟩

def add (items : ClassItems) (set : CharSet) (depth : Nat) : ClassItems :=
  ⟨items.set.union set, items.count + 1, max items.depth depth⟩

/-- The depth of the list as one operand. -/
def operandDepth (items : ClassItems) : Nat :=
  if items.count ≤ 1 then items.depth else items.depth + 1

end ClassItems

inductive ClassOperation where
  | inter | diff | symmDiff
  deriving DecidableEq, Repr

/-- What waits for the end of an operand or of a nested bracket. -/
inductive ClassFrame where
  | bracket (negated : Bool) (outer : ClassItems)
  | operation (kind : ClassOperation) (left : CharSet) (depth : Nat)

namespace Bracket

def combine (kind : ClassOperation) (s t : CharSet) : CharSet :=
  match kind with
  | .inter => .inter s t
  | .diff => .diff s t
  | .symmDiff => .symmDiff s t

/-- Applies the operation that waits for this operand, if there is one. -/
def endOperand (flags : Flags) (items : ClassItems) :
    List ClassFrame → CharSet × Nat × List ClassFrame
  | .operation kind left depth :: stack =>
      (combine kind (Primitive.closed flags left) (Primitive.closed flags items.set),
        max depth items.operandDepth + 1, stack)
  | stack => (items.set, items.operandDepth, stack)

/-- The set of a named class or of a bracket that has been closed. -/
def finish? (flags : Flags) (negated : Bool) (s : CharSet) : Option CharSet :=
  Primitive.guarded? flags negated (Primitive.closed flags s)

/-- Hyphens at the start stand for themselves. -/
def leadingHyphens (flags : Flags) : Nat → ClassItems → List Char → ClassItems × List Char
  | 0, items, cs => (items, cs)
  | fuel + 1, items, cs =>
      match flags.skip cs with
      | '-' :: rest => leadingHyphens flags fuel (items.add (.single '-') 0) rest
      | cs => (items, cs)

/-- Reads the start of a bracket, after which a closing one stands for itself: whether the class is
negated, and its first items. -/
def start (flags : Flags) (cs : List Char) : Bool × ClassItems × List Char :=
  let (negated, cs) := match flags.skip cs with
    | '^' :: rest => (true, rest)
    | cs => (false, cs)
  let (items, cs) := leadingHyphens flags cs.length .empty cs
  match items.count, flags.skip cs with
  | 0, ']' :: rest => (negated, items.add (.single ']') 0, rest)
  | _, cs => (negated, items, cs)

/-- A named class of ASCII characters, read after its opening bracket. -/
def asciiClass? (flags : Flags) (cs : List Char) : Option (Option CharSet × List Char) :=
  match cs with
  | ':' :: rest =>
      let (negated, rest) := match rest with
        | '^' :: rest => (true, rest)
        | _ => (false, rest)
      match rest.dropWhile (· != ':') with
      | ':' :: ']' :: after =>
          (CharSet.ascii? (rest.takeWhile (· != ':'))).map fun s =>
            (finish? flags negated s, after)
      | _ => none
  | _ => none

/-- Reads one end of a range or a single item. -/
def readItem? (flags : Flags) : List Char → Option (Primitive × List Char)
  | [] => none
  | '\\' :: rest => Primitive.readEscape? flags rest
  | c :: rest => some (.char c, rest)

/-- The characters of an item; assertions are none. -/
def itemSet? (flags : Flags) : Primitive → Option CharSet
  | .char c => if flags.unicode || Primitive.isAscii c then some (.single c) else none
  | .letter kind negated => Primitive.guarded? flags negated (Primitive.letterSet flags kind)
  | .property s negated => Primitive.propertySet? flags s negated
  | _ => none

/-- The characters between two items, which must be characters in order. -/
def rangeSet? (flags : Flags) : Primitive → Primitive → Option CharSet
  | .char low, .char high =>
      if low ≤ high && (flags.unicode || Primitive.isAscii high) then some (.range low high) else none
  | _, _ => none

/-- The character that decides what a hyphen before it means. A number sign is passed over with the
blanks after it, but the comment that it starts is not. -/
def deciding? (flags : Flags) (cs : List Char) : Option Char :=
  if !flags.verbose then cs.head?
  else
    match cs.dropWhile Unicode.isBlank with
    | '#' :: rest => (rest.dropWhile Unicode.isBlank).head?
    | cs => cs.head?

/-- Reads an item or a range. A hyphen before a closing bracket or another hyphen makes no range. -/
def readRange? (flags : Flags) (cs : List Char) : Option (CharSet × List Char) := do
  let (low, rest) ← readItem? flags cs
  match flags.skip rest with
  | [] => none
  | '-' :: after =>
      match deciding? flags after with
      | some ']' | some '-' => (itemSet? flags low).map fun s => (s, '-' :: after)
      | _ =>
          let (high, rest) ← readItem? flags (flags.skip after)
          (rangeSet? flags low high).map fun s => (s, rest)
  | rest => (itemSet? flags low).map fun s => (s, rest)

/-- Reads up to the bracket that closes the class: its characters, how deep it nests, and what
follows. Every round takes at least one character. -/
def readItems? (flags : Flags) :
    Nat → ClassItems → List ClassFrame → List Char → Option (CharSet × Nat × List Char)
  | 0, _, _, _ => none
  | fuel + 1, items, stack, cs =>
      match flags.skip cs with
      | [] => none
      | '[' :: rest =>
          match asciiClass? flags rest with
          | some (some set, rest) => readItems? flags fuel (items.add set 0) stack rest
          | some (none, _) => none
          | none =>
              let (negated, first, rest) := start flags rest
              readItems? flags fuel first (.bracket negated items :: stack) rest
      | ']' :: rest =>
          let (set, depth, stack) := endOperand flags items stack
          match stack with
          | .bracket negated outer :: stack =>
              match finish? flags negated set with
              | none => none
              | some set =>
                  if stack.isEmpty then some (set, depth + 1, rest)
                  else readItems? flags fuel (outer.add set (depth + 1)) stack rest
          | _ => none
      | '&' :: '&' :: rest => operation fuel items stack .inter rest
      | '-' :: '-' :: rest => operation fuel items stack .diff rest
      | '~' :: '~' :: rest => operation fuel items stack .symmDiff rest
      | cs =>
          match readRange? flags cs with
          | some (set, rest) => readItems? flags fuel (items.add set 0) stack rest
          | none => none
where
  /-- Makes the items the left operand of an operation. -/
  operation (fuel : Nat) (items : ClassItems) (stack : List ClassFrame) (kind : ClassOperation)
      (rest : List Char) : Option (CharSet × Nat × List Char) :=
    let (left, depth, stack) := endOperand flags items stack
    readItems? flags fuel .empty (.operation kind left depth :: stack) rest

/-- Reads a class after its opening bracket. -/
def read? (flags : Flags) (cs : List Char) : Option (CharSet × Nat × List Char) :=
  let (negated, items, rest) := start flags cs
  readItems? flags (cs.length + 1) items [.bracket negated .empty] rest

end Bracket
end Pattern
end DocumentCatalog
