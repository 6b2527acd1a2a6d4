import DocumentCatalog.CommandLine.Run

/-!
The program. Arguments that ask for nothing that can be run end it with a hint.
-/

namespace DocumentCatalog
namespace CommandLine

def usage : String :=
  "Usage: document-catalog [--env-file <ENV_FILE>] <serve | compile [--joined] <FILTER>>\n"

/-- The variables that the service reads. -/
def variableNames : List String :=
  ["PORT", "ENVIRONMENT", "DATA_DIR", "COLLECTION_NAME", "RESULTS_LIMIT", "DEFAULT_SORT_FIELD",
    "ID_FIELD", "SEARCHABLE_FIELDS", "PRIVATE_FIELDS"]

def readEnvironment : IO Service.Environment := do
  let values ← variableNames.mapM fun name => do
    return (← IO.getEnv name).map fun value => (name, Text.Utf8.encode value)
  return values.filterMap id

def fileError : IO.Error → FileError
  | .noFileOrDirectory .. => .missing
  | .permissionDenied _ 13 _ => .denied
  | .inappropriateType _ 21 _ => .isDirectory
  | .inappropriateType _ 20 _ => .notDirectory
  | e => .other (toString e)

/-- The octets of a file, or why they cannot be read. -/
def readOctets (path : String) : IO (Except FileError (List Nat)) := do
  try
    return .ok ((← IO.FS.readBinFile path).toList.map UInt8.toNat)
  catch e => return .error (fileError e)

def readVariables : Option String → IO Variables
  | some path => return .named path (← readOctets path)
  | none => return .usual (← readOctets ".env").toOption

def finish (output : Output) : IO UInt32 := do
  (← IO.getStdout).putStr output.stdout
  (← IO.getStderr).putStr output.stderr
  return output.exit.toUInt32

end CommandLine
end DocumentCatalog

open DocumentCatalog

def main (arguments : List String) : IO UInt32 := do
  match CommandLine.Invocation.ofTexts arguments with
  | .error .help => CommandLine.finish { stdout := CommandLine.usage }
  | .error .misuse => CommandLine.finish { exit := 2, stderr := CommandLine.usage }
  | .ok invocation =>
      let file ← CommandLine.readVariables invocation.envFile
      match CommandLine.run invocation.command (← CommandLine.readEnvironment) file with
      | .ended output => CommandLine.finish output
      | .serving config =>
          CommandLine.finish
            { exit := 1, stderr := "Error: Cannot listen on " ++ config.listenAddress ++ "\n" }
