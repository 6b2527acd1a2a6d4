/-!
What the arguments of the program ask for. The file of variables may be named before or after the
command, where the later place counts; within one place no option may be repeated.
-/

namespace DocumentCatalog
namespace CommandLine

inductive Command where
  | serve
  | compile (filter : String) (joined : Bool)
  deriving DecidableEq, Repr

structure Invocation where
  envFile : Option String
  command : Command
  deriving DecidableEq, Repr

/-- Why nothing is run. -/
inductive Refusal where
  | help
  | misuse
  deriving DecidableEq, Repr

inductive Argument where
  | envFile (path : String)
  | joined
  | help
  /-- Two hyphens: all that follows are words. -/
  | onlyWords
  | word (text : String)
  | invalid
  deriving DecidableEq, Repr

namespace Argument

/-- Options start with a hyphen; a single hyphen is a word. -/
def isOption (text : String) : Bool :=
  match text.toList with
  | '-' :: _ :: _ => true
  | _ => false

/-- The option that names a file; its path must not be empty. -/
def ofPath (path : String) : Argument :=
  if path.isEmpty then .invalid else .envFile path

/-- What follows a start, if the text has it. -/
def after? (start text : List Char) : Option String :=
  if start.isPrefixOf text then some (String.ofList (text.drop start.length)) else none

/-- An option that stands for itself. -/
def ofOption (text : String) : Argument :=
  match after? "--env-file=".toList text.toList with
  | some path => ofPath path
  | none =>
      if text = "--joined" then .joined
      else if text = "--help" ∨ (after? ['-', 'h'] text.toList).isSome then .help
      else .invalid

/-- Reads the arguments one by one. -/
def ofTexts : List String → List Argument
  | [] => []
  | text :: rest =>
      if !isOption text then .word text :: ofTexts rest
      else if text = "--" then .onlyWords :: rest.map .word
      else if text = "--env-file" then
        match rest with
        | [] => [.invalid]
        | path :: rest => (if isOption path then .invalid else ofPath path) :: ofTexts rest
      else ofOption text :: ofTexts rest

end Argument

/-- What has been said after a command. -/
structure Details where
  envFile : Option String := none
  joined : Bool := false
  words : List String := []
  deriving DecidableEq, Repr

/-- Takes in an argument of a command that allows so many words, and may be told to join. -/
def Details.add (words : Nat) (joins : Bool) (d : Details) : Argument → Except Refusal Details
  | .envFile path => if d.envFile.isSome then .error .misuse else .ok { d with envFile := path }
  | .joined => if !joins || d.joined then .error .misuse else .ok { d with joined := true }
  | .help => .error .help
  | .onlyWords => .ok d
  | .word text =>
      if d.words.length < words then .ok { d with words := d.words ++ [text] } else .error .misuse
  | .invalid => .error .misuse

namespace Invocation

def serve (envFile : Option String) (arguments : List Argument) : Except Refusal Invocation := do
  let d ← arguments.foldlM (Details.add 0 false) {}
  return ⟨d.envFile.or envFile, .serve⟩

def compile (envFile : Option String) (arguments : List Argument) : Except Refusal Invocation := do
  let d ← arguments.foldlM (Details.add 1 true) {}
  match d.words with
  | [filter] => return ⟨d.envFile.or envFile, .compile filter d.joined⟩
  | _ => throw .misuse

/-- Help may be asked for about one command. -/
def help (arguments : List Argument) : Refusal :=
  if [[], [.word "serve"], [.word "compile"], [.word "help"]].contains arguments then .help
  else .misuse

def ofArguments (envFile : Option String) : List Argument → Except Refusal Invocation
  | .envFile path :: rest =>
      if envFile.isSome then .error .misuse else ofArguments (some path) rest
  | .help :: _ => .error .help
  | .word "serve" :: rest => serve envFile rest
  | .word "compile" :: rest => compile envFile rest
  | .word "help" :: rest => .error (help rest)
  | _ => .error .misuse

def ofTexts (arguments : List String) : Except Refusal Invocation :=
  ofArguments none (Argument.ofTexts arguments)

end Invocation
end CommandLine
end DocumentCatalog
