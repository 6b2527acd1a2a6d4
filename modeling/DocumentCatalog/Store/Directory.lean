import DocumentCatalog.Failure
import DocumentCatalog.FileError
import DocumentCatalog.Json.Reader
import DocumentCatalog.Store.Collections
import DocumentCatalog.Text.FileName
import DocumentCatalog.Text.Utf8

/-!
Collections kept in the files of a directory. Every file with the right extension holds one
collection, named by the stem; all other entries are passed over.
-/

namespace DocumentCatalog
namespace Store

/-- What a path of the file system leads to. Names are octets. -/
inductive Node where
  | file (octets : List Nat)
  | directory (children : List (List Nat × Node))

namespace Node

def child? (name : List Nat) : Node → Option Node
  | .directory children => List.lookup name children
  | .file _ => none

/-- Puts a file into a directory, in place of what had the same name. -/
def write (name octets : List Nat) : Node → Node
  | .directory children => .directory ((name, .file octets) :: children.filter (·.1 != name))
  | .file former => .file former

end Node

/-- Why a file gives no octets: it cannot be opened, as without permission or behind a link that
leads nowhere, or it opens but cannot be read. -/
inductive ReadError where
  | opening (error : FileError)
  | reading (error : FileError)
  deriving DecidableEq, Repr

/-- What comes of an attempt to read a file. -/
abbrev Content := Except ReadError (List Nat)

/-- A directory can be opened like a file, but not be read like one. -/
def Node.content : Node → Content
  | .file octets => .ok octets
  | .directory _ => .error (.reading .isDirectory)

/-- Why a directory could not be loaded. Every reason names a path. -/
inductive LoadError where
  | noDirectory (path : String) (error : FileError)
  | noFile (path : String) (error : ReadError)
  | noDocuments (path : String) (refusal : Json.Refusal)
  deriving DecidableEq, Repr

namespace LoadError

/-- An attempt that failed on a path. -/
def attempt (doing path : String) (error : FileError) : String :=
  "failed to " ++ doing ++ " \x60" ++ path ++ "\x60: " ++ error.cause

def failure : LoadError → Failure
  | .noDirectory path error =>
      { reason := "Failed to read data directory " ++ path
        causes := [attempt "read directory" path error] }
  | .noFile path (.opening error) => { reason := attempt "open file" path error }
  | .noFile path (.reading error) => { reason := attempt "read from file" path error }
  | .noDocuments path refusal =>
      { reason := "Failed to parse collection file " ++ path, causes := [refusal.message] }

end LoadError

/-- The octets of the extension that files of collections have. -/
def collectionExtension : List Nat :=
  Text.Utf8.encode "json"

/-- The name of the collection that a file with this name holds, if it holds one. -/
def collectionName? (name : List Nat) : Option String :=
  match Text.FileName.splitExtension name with
  | (stem, some extension) =>
      if extension = collectionExtension then Text.Utf8.text? stem else none
  | (_, none) => none

/-- The documents in a file: the elements of one array. -/
def documents (path : String) : Content → Except LoadError (List Json)
  | .error error => .error (.noFile path error)
  | .ok octets =>
      match Text.Utf8.text? octets with
      | none => .error (.noFile path (.reading .notText))
      | some text => (Json.readArray text).mapError (.noDocuments path)

/-- Loads one entry of a directory. -/
def loadChild (path : String) (loaded : Collections) (child : List Nat × Content) :
    Except LoadError Collections :=
  match collectionName? child.1 with
  | none => .ok loaded
  | some name =>
      (documents (Text.FileName.join path (name ++ ".json")) child.2).map (loaded.insert name)

/-- Loads the entries of a directory as they are listed. The first one that cannot be loaded ends
it. -/
def loadListing (path : String) :
    Except FileError (List (List Nat × Content)) → Except LoadError Collections
  | .error error => .error (.noDirectory path error)
  | .ok children => children.foldlM (loadChild path) .empty

/-- The entries of what should be a directory. -/
def listing : Option Node → Except FileError (List (List Nat × Content))
  | none => .error .missing
  | some (.file _) => .error .notDirectory
  | some (.directory children) => .ok (children.map fun child => (child.1, child.2.content))

/-- Loads what a path leads to. -/
def load (path : String) (node : Option Node) : Except LoadError Collections :=
  loadListing path (listing node)

end Store
end DocumentCatalog
