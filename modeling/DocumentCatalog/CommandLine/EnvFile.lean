import DocumentCatalog.FileError
import DocumentCatalog.Service.Config

/-!
Files of variables for the environment, one variable a line. Values may be quoted, and outside
single quotes a dollar sign stands for the value of another variable. A variable that the
environment already has keeps its value.
-/

namespace DocumentCatalog
namespace CommandLine
namespace EnvFile

/-- Why a file could not be taken in. What is wrong in a line is told with its place there. -/
inductive Fault where
  | unreadable (error : FileError)
  | line (text : String) (place : Nat)
  deriving DecidableEq, Repr

def Fault.failure (path : String) : Fault → Failure
  | .unreadable error =>
      { reason := "Failed to load env file " ++ path, causes := [error.cause, error.cause] }
  | .line text place =>
      { reason := "Failed to load env file " ++ path
        causes := ["Error parsing line: '" ++ text ++ "', error at line index: " ++
          Text.numeral place] }

/-- What is left of a line, and how many octets were read. -/
structure Cursor where
  rest : List Char
  place : Nat

namespace Cursor

/-- Reads characters as long as they satisfy a condition. -/
def takeWhile (p : Char → Bool) (c : Cursor) : List Char × Cursor :=
  let taken := c.rest.takeWhile p
  (taken, ⟨c.rest.dropWhile p, c.place + Text.Utf8.octetCount taken⟩)

def skipBlanks (c : Cursor) : Cursor :=
  (c.takeWhile Unicode.isBlank).2

/-- Whether nothing but a comment is left. -/
def isDone (c : Cursor) : Bool :=
  c.rest.isEmpty || c.rest.head? == some '#'

def isNameStart (c : Char) : Bool :=
  c.isAlpha || c == '_'

def isNamePart (c : Char) : Bool :=
  c.isAlphanum || c == '_' || c == '.'

/-- Reads the name of a variable, or tells the place where none starts. -/
def readName (c : Cursor) : Except Nat (String × Cursor) :=
  if c.rest.head?.any isNameStart then
    let (name, c) := c.takeWhile isNamePart
    .ok (String.ofList name, c)
  else .error c.place

def readEquals (c : Cursor) : Except Nat Cursor :=
  match c.rest with
  | '=' :: rest => .ok ⟨rest, c.place + 1⟩
  | _ => .error c.place

/-- Reads a name up to its equals sign. The word `export` may stand before it, but is also a name. -/
def readVariable (c : Cursor) : Except Nat (String × Cursor) := do
  let (name, c) ← c.readName
  let c := c.skipBlanks
  match c.readEquals with
  | .ok c => return (name, c)
  | .error place =>
      if name = "export" then
        let (name, c) ← c.readName
        return (name, ← c.skipBlanks.readEquals)
      else throw place

end Cursor

inductive Quote where
  | single | double
  deriving DecidableEq, Repr

/-- The name of a variable whose value is to be put in, as far as it has been read. -/
inductive Insertion where
  | bare (name : List Char)
  | braced (name : List Char)
  deriving DecidableEq, Repr

/-- A value as far as it has been read. -/
structure Draft where
  output : List Char := []
  quote : Option Quote := none
  insertion : Option Insertion := none
  /-- A backslash came right before. -/
  escaped : Bool := false
  /-- A blank came outside quotes, so nothing but a comment may follow. -/
  ended : Bool := false

namespace Draft

def push (d : Draft) (c : Char) : Draft :=
  { d with output := d.output ++ [c] }

/-- Puts in the value of a variable, or nothing if it has none. -/
def insert (env : Service.Environment) (d : Draft) (name : List Char) : Draft :=
  { d with
    output := d.output ++ ((env.text? (String.ofList name)).getD "").toList, insertion := none }

/-- Letters and digits, which make up a bare name. -/
def isNameChar (c : Char) : Bool :=
  Unicode.isAlphabetic c || Unicode.isNumeric c

/-- A character of a name to be put in. The one that ends a bare name is kept as it is. -/
def stepInsertion (env : Service.Environment) (d : Draft) (c : Char) : Insertion → Draft
  | .bare name =>
      if isNameChar c then { d with insertion := some (.bare (name ++ [c])) }
      else if c = '\x7b' ∧ name.isEmpty then { d with insertion := some (.braced []) }
      else if c = '$' then { d.insert env name with insertion := some (.bare []) }
      else (d.insert env name).push c
  | .braced name =>
      if c = '\x7d' then d.insert env name
      else { d with insertion := some (.braced (name ++ [c])) }

/-- A character after a backslash, if it may stand there. -/
def stepEscaped? (d : Draft) (c : Char) : Option Draft :=
  let d := { d with escaped := false }
  if ['\\', '\'', '"', '$', ' '].contains c then some (d.push c)
  else if c = 'n' then some (d.push '\n')
  else none

/-- A character inside double quotes or outside any. -/
def stepOpen (d : Draft) (c : Char) : Draft :=
  if c = '$' then { d with insertion := some (.bare []) }
  else if c = '\\' then { d with escaped := true }
  else if c = '"' then { d with quote := if d.quote = some .double then none else some .double }
  else if d.quote = some .double then d.push c
  else if c = '\'' then { d with quote := some .single }
  else if c = ' ' ∨ c = '\t' then { d with ended := true }
  else d.push c

/-- The next character, if it may stand there. -/
def step? (env : Service.Environment) (d : Draft) (c : Char) : Option Draft :=
  if d.ended then (if c = ' ' ∨ c = '\t' then some d else none)
  else if d.escaped then d.stepEscaped? c
  else if d.quote = some .single then
    some (if c = '\'' then { d with quote := none } else d.push c)
  else
    match d.insertion with
    | some insertion => some (d.stepInsertion env c insertion)
    | none => some (d.stepOpen c)

/-- Reads the characters of a value, counting them, and tells the place of one that may not stand
where it does. -/
def read (env : Service.Environment) (d : Draft) (place : Nat) : List Char → Except Nat Draft
  | [] => .ok d
  | c :: rest =>
      if d.ended && c == '#' then .ok d
      else
        match d.step? env c with
        | none => .error place
        | some d => read env d (place + 1) rest

/-- The finished value, unless something was left open. -/
def finish? (env : Service.Environment) (d : Draft) : Option String :=
  match d.quote, d.insertion with
  | none, none => some (String.ofList d.output)
  | none, some (.bare name) => some (String.ofList (d.insert env name).output)
  | _, _ => none

end Draft

/-- A value that is not empty. What was left open is told at the last octet. -/
def readValue (env : Service.Environment) (cs : List Char) : Except Nat String := do
  let d ← Draft.read env {} 0 cs
  match d.finish? env with
  | some value => return value
  | none => throw (Text.Utf8.octetCount cs - 1)

/-- The variable that a line sets, if it sets one. -/
def readLine (env : Service.Environment) (text : String) :
    Except Fault (Option (String × String)) :=
  let trimmed := (text.toList.reverse.dropWhile Unicode.isBlank).reverse
  let c := Cursor.skipBlanks ⟨trimmed, 0⟩
  if c.isDone then .ok none
  else
    match c.readVariable with
    | .error place => .error (.line text place)
    | .ok (name, c) =>
        let c := c.skipBlanks
        if c.isDone then .ok (some (name, ""))
        else
          match readValue env c.rest with
          | .error place => .error (.line (String.ofList c.rest) place)
          | .ok value => .ok (some (name, value))

/-- The line without a carriage return at its end. -/
def dropReturn (line : List Nat) : List Nat :=
  if line.getLast? = some 13 then line.dropLast else line

/-- The lines of a file after what has been read of one. Each line ends with a line feed, which a
carriage return may precede; only the last line can do without. -/
def linesFrom (line : List Nat) : List Nat → List (List Nat)
  | [] => if line.isEmpty then [] else [line]
  | octet :: rest =>
      if octet = 10 then dropReturn line :: linesFrom [] rest
      else linesFrom (line ++ [octet]) rest

def lines (octets : List Nat) : List (List Nat) :=
  linesFrom [] octets

/-- Sets a variable that the environment has no text for. -/
def define (env : Service.Environment) (name value : String) : Service.Environment :=
  if (env.text? name).isSome then env else (name, Text.Utf8.encode value) :: env

/-- Takes in a line. -/
def loadLine (env : Service.Environment) (octets : List Nat) :
    Except Fault Service.Environment :=
  match Text.Utf8.text? octets with
  | none => .error (.unreadable .notText)
  | some text => (readLine env text).map fun
      | some (name, value) => define env name value
      | none => env

/-- Takes in the lines of a file, in their order. -/
def load (env : Service.Environment) (octets : List Nat) : Except Fault Service.Environment :=
  (lines octets).foldlM loadLine env

/-- Takes in lines up to the first one that cannot be. -/
def loadLeading (env : Service.Environment) : List (List Nat) → Service.Environment
  | [] => env
  | line :: rest =>
      match loadLine env line with
      | .ok env => loadLeading env rest
      | .error _ => env

end EnvFile
end CommandLine
end DocumentCatalog
