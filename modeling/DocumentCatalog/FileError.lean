/-!
Why a file or a directory cannot be read.
-/

namespace DocumentCatalog

inductive FileError where
  | missing
  | denied
  | notDirectory
  | isDirectory
  | notText
  | other (cause : String)
  deriving DecidableEq, Repr

def FileError.cause : FileError → String
  | missing => "No such file or directory (os error 2)"
  | denied => "Permission denied (os error 13)"
  | notDirectory => "Not a directory (os error 20)"
  | isDirectory => "Is a directory (os error 21)"
  | notText => "stream did not contain valid UTF-8"
  | other cause => cause

end DocumentCatalog
