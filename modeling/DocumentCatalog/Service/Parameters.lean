/-!
The parameters of a request for documents. All of them are optional and are kept as the texts they
came as; names that mean nothing are passed over, and a name that is given twice is refused.
-/

namespace DocumentCatalog
namespace Service

structure Parameters where
  page : Option String := none
  take : Option String := none
  sortField : Option String := none
  sortDirection : Option String := none
  search : Option String := none
  filter : Option String := none
  ids : Option String := none
  deriving DecidableEq, Repr

/-- A parameter that was given twice. -/
structure Duplicate where
  name : String
  deriving DecidableEq, Repr

def Duplicate.message (d : Duplicate) : String :=
  "duplicate field \x60" ++ d.name ++ "\x60"

/-- The names that parameters go by. -/
inductive Parameter where
  | page | take | sortField | sortDirection | search | filter | ids
  deriving DecidableEq, Repr

namespace Parameter

def name : Parameter → String
  | .page => "page"
  | .take => "take"
  | .sortField => "sortField"
  | .sortDirection => "sortDir"
  | .search => "search"
  | .filter => "filter"
  | .ids => "ids"

def ofName? (name : String) : Option Parameter :=
  [page, take, sortField, sortDirection, search, filter, ids].find? (·.name == name)

end Parameter

namespace Parameters

def get? (p : Parameters) : Parameter → Option String
  | .page => p.page
  | .take => p.take
  | .sortField => p.sortField
  | .sortDirection => p.sortDirection
  | .search => p.search
  | .filter => p.filter
  | .ids => p.ids

def set (p : Parameters) (value : String) : Parameter → Parameters
  | .page => { p with page := value }
  | .take => { p with take := value }
  | .sortField => { p with sortField := value }
  | .sortDirection => { p with sortDirection := value }
  | .search => { p with search := value }
  | .filter => { p with filter := value }
  | .ids => { p with ids := value }

/-- Takes in one more name and value. -/
def add (p : Parameters) (pair : String × String) : Except Duplicate Parameters :=
  match Parameter.ofName? pair.1 with
  | none => .ok p
  | some parameter =>
      if (p.get? parameter).isSome then .error ⟨pair.1⟩ else .ok (p.set pair.2 parameter)

def ofPairs (pairs : List (String × String)) : Except Duplicate Parameters :=
  pairs.foldlM add {}

end Parameters
end Service
end DocumentCatalog
