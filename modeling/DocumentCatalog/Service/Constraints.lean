import DocumentCatalog.Filter.Compiler
import DocumentCatalog.Pattern.Literal
import DocumentCatalog.Service.Config
import DocumentCatalog.Service.Parameters

/-!
What a request demands of documents: its filter, its ids and its free text. Each demand becomes a
predicate of its own and all of them are required together, so none can overwrite another.
-/

namespace DocumentCatalog
namespace Service

/-- A trimmed text, unless nothing is left of it. -/
def nonBlank? (text : Option String) : Option String :=
  (text.map Text.trim).filter (· != "")

/-- An id as documents hold it: integers of 64 bits as numbers, all others as texts. -/
def idValue (id : String) : Json :=
  match (Text.readInteger? id).bind Json.Number.ofInt? with
  | some number => .number number
  | none => .string id

/-- Asks for one of the ids of a comma-separated list. -/
def idsPredicate? (ids idField : String) : Option Filter.Predicate :=
  match Text.entries ids with
  | [] => none
  | entries => some (.equals idField (.object [("$in", .array (entries.map idValue))]))

/-- Asks one field for a text, which is taken literally and whatever its case. -/
def searchField (search field : String) : Filter.Predicate :=
  .equals field
    (.object [("$regex", .string (Pattern.literal search)), ("$options", .string "i")])

/-- Asks for a text in any of the fields. -/
def searchPredicate? (search : String) (fields : List String) : Option Filter.Predicate :=
  let p := Filter.Predicate.anyOf (fields.map (searchField search))
  if p.isEmpty then none else some p

/-- The filter of a request, compiled as it came unless it is blank. -/
def compiledFilter? (params : Parameters) : Option Filter.Compiled :=
  (params.filter.filter fun filter => Text.trim filter != "").map Filter.Compiler.standard.run

/-- Everything that a request demands. -/
def requestPredicate (params : Parameters) (config : Config) : Filter.Predicate :=
  .allOf (((compiledFilter? params).map (·.predicate)).toList ++
    ((nonBlank? params.ids).bind (idsPredicate? · config.idField)).toList ++
    ((nonBlank? params.search).bind (searchPredicate? · config.searchableFields)).toList)

end Service
end DocumentCatalog
