import DocumentCatalog.Unicode.Property

/-!
The modes that change how the rest of a pattern is read.
-/

namespace DocumentCatalog
namespace Pattern

structure Flags where
  /-- Letters match whatever their case. -/
  ignoreCase : Bool := false
  /-- The ends of lines count as ends of the text. -/
  multiLine : Bool := false
  /-- The point matches line ends as well. -/
  dotAll : Bool := false
  /-- Carriage returns end lines too. -/
  carriageReturn : Bool := false
  /-- Classes go beyond ASCII. -/
  unicode : Bool := true
  /-- Blanks and comments in the pattern do not count. -/
  verbose : Bool := false
  deriving DecidableEq, Repr

namespace Flags

/-- Sets the mode that a letter stands for. Greed is a mode that changes no answer. -/
def set? (flags : Flags) (letter : Char) (value : Bool) : Option Flags :=
  match letter with
  | 'i' => some { flags with ignoreCase := value }
  | 'm' => some { flags with multiLine := value }
  | 's' => some { flags with dotAll := value }
  | 'R' => some { flags with carriageReturn := value }
  | 'U' => some flags
  | 'u' => some { flags with unicode := value }
  | 'x' => some { flags with verbose := value }
  | _ => none

/-- What a list of modes ended with, what follows it, and whether it was empty. -/
structure Listed where
  flags : Flags
  closing : Char
  rest : List Char
  isEmpty : Bool

/-- Reads letters up to a colon or a closing bracket. No letter and no hyphen may be repeated, and a
letter must follow the hyphen, which turns the modes after it off. -/
def readList? (flags : Flags) (seen : List Char) : List Char → Option Listed
  | [] => none
  | c :: rest =>
      if c = ':' ∨ c = ')' then
        if seen.head? = some '-' then none else some ⟨flags, c, rest, seen.isEmpty⟩
      else if seen.contains c then none
      else if c = '-' then readList? flags (c :: seen) rest
      else (flags.set? c (!seen.contains '-')).bind fun flags => readList? flags (c :: seen) rest

/-- Drops blanks and comments, which run to the end of their line. -/
def dropComments : Bool → List Char → List Char
  | _, [] => []
  | true, c :: rest => dropComments (c != '\n') rest
  | false, c :: rest =>
      if Unicode.isBlank c then dropComments false rest
      else if c = '#' then dropComments true rest
      else c :: rest

/-- Drops what does not count in the present mode. -/
def skip (flags : Flags) (cs : List Char) : List Char :=
  if flags.verbose then dropComments false cs else cs

end Flags
end Pattern
end DocumentCatalog
