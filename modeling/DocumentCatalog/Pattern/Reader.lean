import DocumentCatalog.Number.Decimal
import DocumentCatalog.Pattern.Bracket
import DocumentCatalog.Pattern.Size

/-!
Reading a pattern into a regular expression. Patterns that are not well formed, look around, refer
back, nest deeper than 250 levels or need too large a machine are refused.
-/

namespace DocumentCatalog
namespace Pattern

/-- A part of the pattern that has been read. A mere change of modes cannot be repeated. -/
structure Piece where
  regex : Regex
  depth : Nat
  isModes : Bool := false

/-- The number of a group, if it is counted, and what surrounds it, kept until the group ends. The
lists have their last element first. -/
structure Group where
  number : Option Nat
  pieces : List Piece
  branches : List Piece
  flags : Flags

/-- The group being read, the groups around it, how many have been counted, and the names given so
far. -/
structure State where
  pieces : List Piece
  branches : List Piece
  flags : Flags
  outer : List Group
  counted : Nat
  names : List (List Char)

namespace State

def start (flags : Flags) : State :=
  ⟨[], [], flags, [], 0, []⟩

/-- Pieces one after the other. -/
def sequence (pieces : List Piece) : Piece :=
  match pieces with
  | [] => ⟨.empty, 0, false⟩
  | [p] => { p with isModes := false }
  | p :: rest =>
      ⟨rest.foldl (fun r q => .seq q.regex r) p.regex,
        rest.foldl (fun d q => max d q.depth) p.depth + 1, false⟩

/-- The branches read so far and the pieces of the last one, as one piece. -/
def alternation (s : State) : Piece :=
  let last := sequence s.pieces
  match s.branches with
  | [] => last
  | branches =>
      ⟨branches.foldl (fun r q => .alt q.regex r) last.regex,
        branches.foldl (fun d q => max d q.depth) last.depth + 1, false⟩

def push (s : State) (regex : Regex) (depth : Nat) : State :=
  { s with pieces := ⟨regex, depth, false⟩ :: s.pieces }

/-- Starts another branch. -/
def branch (s : State) : State :=
  { s with pieces := [], branches := sequence s.pieces :: s.branches }

/-- Starts a group that is not counted, with modes of its own. -/
def openGroup (s : State) (flags : Flags) : State :=
  { s with
    pieces := [], branches := [], flags := flags
    outer := ⟨none, s.pieces, s.branches, s.flags⟩ :: s.outer }

/-- Starts a group that is counted. -/
def openCounted (s : State) : State :=
  { s with
    pieces := [], branches := [], counted := s.counted + 1
    outer := ⟨some (s.counted + 1), s.pieces, s.branches, s.flags⟩ :: s.outer }

/-- Ends the innermost group, if there is one. -/
def closeGroup? (s : State) : Option State :=
  match s.outer with
  | [] => none
  | group :: outer =>
      let inner := s.alternation
      some { s with
        pieces := ⟨.group group.number inner.regex, inner.depth + 1, false⟩ :: group.pieces
        branches := group.branches, flags := group.flags, outer := outer }

/-- Repeats the last piece. -/
def repeatLast? (s : State) (least : Nat) (greatest : Option Nat) : Option State :=
  match s.pieces with
  | [] => none
  | p :: rest =>
      if p.isModes then none
      else some { s with
        pieces := ⟨.times p.regex least greatest, p.depth + 1, false⟩ :: rest }

end State

namespace Reader

/-- A question mark after a repetition asks for a short match, which changes no answer. -/
def dropLazy : List Char → List Char
  | '?' :: rest => rest
  | cs => cs

/-- Decimal digits with blanks and comments between and after them, if these do not count, and what
follows. -/
def spanDigits (flags : Flags) : Bool → List Char → List Char × List Char
  | _, [] => ([], [])
  | true, c :: rest => spanDigits flags (c != '\n') rest
  | false, c :: rest =>
      if c.isDigit then
        let (digits, after) := spanDigits flags false rest
        (c :: digits, after)
      else if flags.verbose && Unicode.isBlank c then spanDigits flags false rest
      else if flags.verbose && c == '#' then spanDigits flags true rest
      else ([], c :: rest)

/-- A decimal number of at most 32 bits, with blanks around it. -/
def readCount? (flags : Flags) (cs : List Char) : Option (Nat × List Char) :=
  let (digits, rest) := spanDigits flags false ((flags.skip cs).dropWhile Unicode.isBlank)
  let n := Decimal.digitsValue digits
  if digits.isEmpty || 0xFFFFFFFF < n then none
  else some (n, rest.dropWhile Unicode.isBlank)

/-- Bounds between braces, read after the opening one. -/
def readBounds? (flags : Flags) (cs : List Char) : Option (Nat × Option Nat × List Char) := do
  let (least, rest) ← readCount? flags cs
  match rest with
  | '\x7d' :: rest => some (least, some least, rest)
  | ',' :: rest =>
      match flags.skip rest with
      | '\x7d' :: rest => some (least, none, rest)
      | rest =>
          let (greatest, rest) ← readCount? flags rest
          match rest with
          | '\x7d' :: rest => if least ≤ greatest then some (least, some greatest, rest) else none
          | _ => none
  | _ => none

/-- Characters that a group's name may have, and start with. -/
def isNameChar (first : Bool) (c : Char) : Bool :=
  c == '_' || Unicode.isAlphabetic c ||
    (!first && (c == '.' || c == '[' || c == ']' || Unicode.isNumeric c))

/-- A group's name up to its angle bracket, which no other group has. -/
def readName? (names : List (List Char)) (cs : List Char) : Option (List Char × List Char) :=
  let name := cs.takeWhile (· != '>')
  match cs.dropWhile (· != '>'), name with
  | _ :: rest, first :: more =>
      if isNameChar true first && more.all (isNameChar false) && !names.contains name then
        some (name, rest)
      else none
  | _, _ => none

/-- Reads what follows the opening bracket of a group, up to its contents. -/
def readGroup? (s : State) (cs : List Char) : Option (State × List Char) :=
  match s.flags.skip cs with
  | '?' :: '=' :: _ | '?' :: '!' :: _ | '?' :: '<' :: '=' :: _ | '?' :: '<' :: '!' :: _ => none
  | '?' :: 'P' :: '<' :: rest | '?' :: '<' :: rest =>
      (readName? s.names rest).map fun (name, rest) =>
        ({ s.openCounted with names := name :: s.names }, rest)
  | '?' :: rest => do
      let modes ← s.flags.readList? [] rest
      if modes.closing = ':' then some (s.openGroup modes.flags, modes.rest)
      else if modes.isEmpty then none
      else
        some ({ s with flags := modes.flags, pieces := ⟨.empty, 0, true⟩ :: s.pieces }, modes.rest)
  | rest => some (s.openCounted, rest)

/-- Reads the pattern piece by piece. Every round takes at least one character. -/
def readPieces? : Nat → State → List Char → Option State
  | 0, _, _ => none
  | fuel + 1, s, cs =>
      match s.flags.skip cs with
      | [] => some s
      | '(' :: rest => (readGroup? s rest).bind fun (s, rest) => readPieces? fuel s rest
      | ')' :: rest => s.closeGroup?.bind fun s => readPieces? fuel s rest
      | '|' :: rest => readPieces? fuel s.branch rest
      | '[' :: rest =>
          (Bracket.read? s.flags rest).bind fun (set, depth, rest) =>
            readPieces? fuel (s.push (.set set) depth) rest
      | '?' :: rest => times fuel s 0 (some 1) rest
      | '*' :: rest => times fuel s 0 none rest
      | '+' :: rest => times fuel s 1 none rest
      | '\x7b' :: rest =>
          (readBounds? s.flags rest).bind fun (least, greatest, rest) =>
            times fuel s least greatest (s.flags.skip rest)
      | cs =>
          (Primitive.read? s.flags cs).bind fun (primitive, rest) =>
            (primitive.regex? s.flags).bind fun regex => readPieces? fuel (s.push regex 0) rest
where
  /-- Repeats the last piece and goes on. -/
  times (fuel : Nat) (s : State) (least : Nat) (greatest : Option Nat) (rest : List Char) :
      Option State :=
    (s.repeatLast? least greatest).bind fun s => readPieces? fuel s (dropLazy rest)

def greatestDepth : Nat := 250

end Reader

/-- The regular expression of a pattern, if it is accepted. -/
def Regex.ofChars? (flags : Flags) (cs : List Char) : Option Regex := do
  let s ← Reader.readPieces? (cs.length + 1) (.start flags) cs
  let whole := s.alternation
  if s.outer.isEmpty && whole.depth ≤ Reader.greatestDepth && whole.regex.fits then
    some whole.regex
  else none

def Regex.ofPattern? (flags : Flags) (pattern : String) : Option Regex :=
  Regex.ofChars? flags pattern.toList

end Pattern
end DocumentCatalog
