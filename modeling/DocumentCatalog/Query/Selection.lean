import DocumentCatalog.Filter.Predicate
import DocumentCatalog.Query.Condition

/-!
Selecting documents by predicates. A document must meet the condition of every key; two keys combine
the predicates of an array, whose other elements do not count.
-/

namespace DocumentCatalog
namespace Query

mutual

/-- Whether a document meets all of the conditions. -/
def selects (document : Json) : List (String × Json) → Bool
  | [] => true
  | (key, condition) :: rest => selectsEntry document key condition && selects document rest

/-- Whether a document meets the condition of one key. -/
def selectsEntry (document : Json) (key : String) : Json → Bool
  | .array items =>
      if key = Filter.andKey then selectsEach document items
      else if key = Filter.orKey then selectsSome document items
      else meets (lookup? document key) (.array items)
  | condition =>
      if key = Filter.andKey ∨ key = Filter.orKey then false
      else meets (lookup? document key) condition

/-- Whether a document meets each predicate of a list. -/
def selectsEach (document : Json) : List Json → Bool
  | [] => true
  | .object conditions :: rest => selects document conditions && selectsEach document rest
  | _ :: rest => selectsEach document rest

/-- Whether a document meets some predicate of a list. -/
def selectsSome (document : Json) : List Json → Bool
  | [] => false
  | .object conditions :: rest => selects document conditions || selectsSome document rest
  | _ :: rest => selectsSome document rest

end

end Query

/-- Whether a document meets the predicate. -/
def Filter.Predicate.selects (p : Filter.Predicate) (document : Json) : Bool :=
  Query.selects document p.entries

end DocumentCatalog
