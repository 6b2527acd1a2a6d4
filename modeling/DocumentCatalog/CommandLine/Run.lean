import DocumentCatalog.CommandLine.EnvFile
import DocumentCatalog.CommandLine.Invocation
import DocumentCatalog.Filter.Compiler

/-!
Running the program: compiling a filter, or reading the configuration of a service that is to be
started.
-/

namespace DocumentCatalog
namespace CommandLine

/-- What the program leaves behind when it ends. -/
structure Output where
  exit : Nat := 0
  stdout : String := ""
  stderr : String := ""
  deriving DecidableEq, Repr

/-- The program ends at once, or goes on to serve. -/
inductive Ending where
  | ended (output : Output)
  | serving (config : Service.Config)
  deriving DecidableEq, Repr

def Ending.failed (failure : Failure) : Ending :=
  .ended { exit := 1, stderr := failure.report }

/-- The predicate of a filter, spread over lines, and a line for everything that was dropped. -/
def compiled (filter : String) (joined : Bool) : Output :=
  let result := { Filter.Compiler.standard with joined }.run filter
  { stdout := result.predicate.toJson.pretty ++ "\n"
    stderr := String.join (result.diagnostics.map fun d => "dropped: " ++ d.message ++ "\n") }

/-- The file of variables, after an attempt to read it. One that is named must be right; the usual
one may be missing, and what is right in it counts. -/
inductive Variables where
  | named (path : String) (content : Except FileError (List Nat))
  | usual (content : Option (List Nat))

/-- The environment after the file of variables. -/
def environment (env : Service.Environment) : Variables → Except Failure Service.Environment
  | .named path (.error error) => .error ((EnvFile.Fault.unreadable error).failure path)
  | .named path (.ok octets) => (EnvFile.load env octets).mapError (·.failure path)
  | .usual none => .ok env
  | .usual (some octets) => .ok (EnvFile.loadLeading env (EnvFile.lines octets))

/-- Runs a command in an environment. -/
def run (command : Command) (env : Service.Environment) (file : Variables) : Ending :=
  match environment env file with
  | .error failure => .failed failure
  | .ok env =>
      match command with
      | .compile filter joined => .ended (compiled filter joined)
      | .serve =>
          match Service.Config.ofEnvironment env with
          | .error e => .failed e.failure
          | .ok config => .serving config

end CommandLine
end DocumentCatalog
