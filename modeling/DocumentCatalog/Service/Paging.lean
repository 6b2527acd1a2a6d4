import DocumentCatalog.Query.Find
import DocumentCatalog.Service.Config
import DocumentCatalog.Service.Parameters

/-!
The page that a request asks for, and its order. Texts that say nothing usable are replaced by the
defaults. Documents that the asked field does not tell apart are ordered by the default field.
-/

namespace DocumentCatalog
namespace Service

/-- The number that a text holds between blanks. -/
def word? (text : Option String) : Option Nat :=
  text.bind fun text => (Text.readWord (Text.trim text)).toOption

/-- The size of a page. -/
def pageSize (take : Option String) (limit : Nat) : Nat :=
  match word? take with
  | some n => if 1 ≤ n ∧ n ≤ limit then n else limit
  | none => limit

/-- The number of a page; the first one has the number one. -/
def pageNumber (page : Option String) : Nat :=
  match word? page with
  | some n => if 1 ≤ n then n else 1
  | none => 1

/-- How many documents stand before a page, as far as a word can say. -/
def skipped (page size : Nat) : Nat :=
  min ((page - 1) * size) Text.greatestWord

def direction (text : Option String) : Query.Direction :=
  if text = some "desc" then .descending else .ascending

def sortKeys (field : Option String) (direction : Query.Direction) (defaultField : String) :
    List Query.SortKey :=
  match field.filter (· != "") with
  | none => [⟨defaultField, direction⟩]
  | some field =>
      if field = defaultField then [⟨field, direction⟩]
      else [⟨field, direction⟩, ⟨defaultField, .ascending⟩]

/-- How the documents of a request are ordered, cut and trimmed. -/
def findOptions (params : Parameters) (config : Config) : Query.Options :=
  let size := pageSize params.take config.resultsLimit
  { limit := size
    skip := skipped (pageNumber params.page) size
    sort := sortKeys params.sortField (direction params.sortDirection) config.defaultSortField
    exclude := config.privateFields }

end Service
end DocumentCatalog
