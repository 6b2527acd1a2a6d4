import DocumentCatalog.Json.Basic
import DocumentCatalog.Text.Split

/-!
Values below a document at a dotted path. A point separates the components of a path, but may also
belong to a key: at each object the whole remaining path is tried as one key, and only when there is
no such member is its first component descended into. Nothing but objects is descended into.
-/

namespace DocumentCatalog
namespace Query

/-- The value below a document at a path given by its components. -/
def resolve? (document : Json) : List String → Option Json
  | [] => none
  | first :: rest =>
      match document.member? (Text.join '.' (first :: rest)) with
      | some value => some value
      | none => (document.member? first).bind fun inner => resolve? inner rest

def lookup? (document : Json) (path : String) : Option Json :=
  resolve? document (Text.split '.' path)

end Query
end DocumentCatalog
