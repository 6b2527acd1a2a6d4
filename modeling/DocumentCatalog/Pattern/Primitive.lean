import DocumentCatalog.Pattern.Flags
import DocumentCatalog.Pattern.Literal
import DocumentCatalog.Pattern.Name
import DocumentCatalog.Pattern.Regex

/-!
The smallest parts of a pattern: a character, a class or an assertion, most of them behind a
backslash.
-/

namespace DocumentCatalog
namespace Pattern

/-- The classes behind a single letter. -/
inductive LetterClass where
  | digit | space | word
  deriving DecidableEq, Repr

inductive Primitive where
  | char (c : Char)
  | dot
  | startLine | endLine
  | letter (kind : LetterClass) (negated : Bool)
  | property (s : CharSet) (negated : Bool)
  | startText | endText
  /-- An assertion about words, once it is known whether they go beyond ASCII. -/
  | word (assertion : Bool → Assertion)

namespace Primitive

def isHex (c : Char) : Bool :=
  CharSet.asciiHexDigit.contains c

def isAscii (c : Char) : Bool :=
  CharSet.ascii.contains c

def hexValue (digits : List Char) : Nat :=
  digits.foldl (fun n c =>
    n * 16 + (if c.isDigit then c.toNat - '0'.toNat else c.toLower.toNat - 'a'.toNat + 10)) 0

/-- The character with this number, if it is one. -/
def char? (n : Nat) : Option Char :=
  if n.isValidChar then some (Char.ofNat n) else none

/-- The next character of the pattern that counts, and what follows it. -/
def next? (flags : Flags) (cs : List Char) : Option (Char × List Char) :=
  match flags.skip cs with
  | [] => none
  | c :: rest => some (c, rest)

/-- So many hexadecimal digits. -/
def readHexDigits? (flags : Flags) : Nat → List Char → Option (List Char × List Char)
  | 0, cs => some ([], cs)
  | n + 1, cs => do
      let (c, rest) ← next? flags cs
      if isHex c then
        let (digits, rest) ← readHexDigits? flags n rest
        some (c :: digits, rest)
      else none

/-- What counts before the closing brace, and what follows it. In a comment, which the flag tells,
even a brace does not count. -/
def untilBrace? (flags : Flags) : Bool → List Char → Option (List Char × List Char)
  | _, [] => none
  | true, c :: rest => untilBrace? flags (c != '\n') rest
  | false, c :: rest =>
      if c = '\x7d' then some ([], rest)
      else if flags.verbose && Unicode.isBlank c then untilBrace? flags false rest
      else if flags.verbose && c == '#' then untilBrace? flags true rest
      else (untilBrace? flags false rest).map fun (inner, after) => (c :: inner, after)

/-- Whether digits name an octet beyond ASCII rather than a character: two of them do, where classes
do not go beyond ASCII. -/
def isOctet (flags : Flags) (count n : Nat) : Bool :=
  count == 2 && !flags.unicode && 0x80 ≤ n

/-- A character by its number, with a fixed count of digits or any count between braces. Octets that
are no characters are refused. -/
def readHex? (flags : Flags) (count : Nat) (cs : List Char) : Option (Primitive × List Char) := do
  match flags.skip cs with
  | '\x7b' :: rest =>
      let (digits, rest) ← untilBrace? flags false rest
      if digits.isEmpty || !digits.all isHex then none
      else
        let c ← char? (hexValue digits)
        some (.char c, rest)
  | cs =>
      let (digits, rest) ← readHexDigits? flags count cs
      if isOctet flags count (hexValue digits) then none
      else
        let c ← char? (hexValue digits)
        some (.char c, rest)

/-- A property by a single letter or by what stands between braces. -/
def readProperty? (flags : Flags) (negated : Bool) (cs : List Char) :
    Option (Primitive × List Char) := do
  let (c, rest) ← next? flags cs
  if c = '\x7b' then
    let (name, rest) ← untilBrace? flags false rest
    let first := name.takeWhile fun c => c != '=' && c != ':' && c != '!'
    match name.drop first.length with
    | [] => (CharSet.named? name).map fun s => (.property s negated, rest)
    | '!' :: '=' :: value => (CharSet.valued? first value).map fun s => (.property s !negated, rest)
    | '!' :: _ => none
    | _ :: value => (CharSet.valued? first value).map fun s => (.property s negated, rest)
  else if c = '\\' then none
  else (CharSet.named? [c]).map fun s => (.property s negated, rest)

/-- The assertion that a name between braces makes of a word boundary. -/
def boundary? (name : List Char) : Option (Bool → Assertion) :=
  match String.ofList name with
  | "start" => some .wordStart
  | "end" => some .wordEnd
  | "start-half" => some .wordStartHalf
  | "end-half" => some .wordEndHalf
  | _ => none

/-- A word boundary, perhaps of a kind named between braces. Braces that start with something else
are a repetition. -/
def readBoundary? (flags : Flags) (cs : List Char) : Option (Primitive × List Char) :=
  match cs with
  | '\x7b' :: rest =>
      match flags.skip rest with
      | [] => none
      | c :: _ =>
          if c.isAlpha || c == '-' then do
            let (name, rest) ← untilBrace? flags false rest
            let kind ← boundary? name
            some (.word kind, rest)
          else some (.word .wordBoundary, cs)
  | _ => some (.word .wordBoundary, cs)

/-- Reads what follows a backslash. A character that means something and every other one that is
neither an ASCII letter or digit nor an angle bracket nor outside of ASCII stands for itself. -/
def readEscape? (flags : Flags) : List Char → Option (Primitive × List Char)
  | [] => none
  | c :: rest =>
      if isMeta c then some (.char c, rest)
      else
        match c with
        | 'x' => readHex? flags 2 rest
        | 'u' => readHex? flags 4 rest
        | 'U' => readHex? flags 8 rest
        | 'p' => readProperty? flags false rest
        | 'P' => readProperty? flags true rest
        | 'd' => some (.letter .digit false, rest)
        | 's' => some (.letter .space false, rest)
        | 'w' => some (.letter .word false, rest)
        | 'D' => some (.letter .digit true, rest)
        | 'S' => some (.letter .space true, rest)
        | 'W' => some (.letter .word true, rest)
        | 'a' => some (.char '\x07', rest)
        | 'f' => some (.char '\x0c', rest)
        | 't' => some (.char '\t', rest)
        | 'n' => some (.char '\n', rest)
        | 'r' => some (.char '\r', rest)
        | 'v' => some (.char '\x0b', rest)
        | 'A' => some (.startText, rest)
        | 'z' => some (.endText, rest)
        | 'b' => readBoundary? flags rest
        | 'B' => some (.word .notWordBoundary, rest)
        | '<' => some (.word .wordStart, rest)
        | '>' => some (.word .wordEnd, rest)
        | _ =>
            if isAscii c && !c.isAlphanum then some (.char c, rest) else none

/-- Reads one primitive outside of brackets. -/
def read? (flags : Flags) : List Char → Option (Primitive × List Char)
  | [] => none
  | '\\' :: rest => readEscape? flags rest
  | '.' :: rest => some (.dot, rest)
  | '^' :: rest => some (.startLine, rest)
  | '$' :: rest => some (.endLine, rest)
  | c :: rest => some (.char c, rest)

/-- The characters of a letter's class. -/
def letterSet (flags : Flags) : LetterClass → CharSet
  | .digit => if flags.unicode then CharSet.ofCategory .decimalNumber else CharSet.asciiDigit
  | .space => if flags.unicode then CharSet.whiteSpace else CharSet.asciiSpace
  | .word => wordSet flags.unicode

/-- The set closed under case, if case does not count. -/
def closed (flags : Flags) (s : CharSet) : CharSet :=
  if !flags.ignoreCase then s
  else if flags.unicode then .folded s
  else .asciiFolded s

/-- A class that may be negated, which beyond ASCII it may not be without the wide classes. -/
def guarded? (flags : Flags) (negated : Bool) (s : CharSet) : Option CharSet :=
  if negated && !flags.unicode then none else some (CharSet.negateIf negated s)

/-- The characters of a property, closed under case if case does not count. -/
def propertySet? (flags : Flags) (s : CharSet) (negated : Bool) : Option CharSet :=
  if flags.unicode then some (CharSet.negateIf negated (closed flags s)) else none

/-- The characters that a single character stands for. -/
def charSet (flags : Flags) (c : Char) : CharSet :=
  if !flags.ignoreCase then CharSet.single c
  else if flags.unicode then .alike c
  else .asciiAlike c

def lineEnds (flags : Flags) : CharSet :=
  if flags.carriageReturn then .union (CharSet.single '\n') (CharSet.single '\r')
  else CharSet.single '\n'

/-- The point: every character but a line end. -/
def dotSet (flags : Flags) : CharSet :=
  if flags.dotAll then CharSet.all else .compl (lineEnds flags)

/-- The expression that a primitive stands for. -/
def regex? (flags : Flags) : Primitive → Option Regex
  | .char c => some (.set (charSet flags c))
  | .dot => if flags.unicode then some (.set (dotSet flags)) else none
  | .startLine =>
      some (.assert (if !flags.multiLine then .startText
        else if flags.carriageReturn then .startLineReturn else .startLine))
  | .endLine =>
      some (.assert (if !flags.multiLine then .endText
        else if flags.carriageReturn then .endLineReturn else .endLine))
  | .letter kind negated => (guarded? flags negated (letterSet flags kind)).map .set
  | .property s negated => (propertySet? flags s negated).map .set
  | .startText => some (.assert .startText)
  | .endText => some (.assert .endText)
  | .word assertion => some (.assert (assertion flags.unicode))

end Primitive
end Pattern
end DocumentCatalog
