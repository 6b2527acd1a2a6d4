/-!
The expressions of a filter: one comparison, a choice among values, or two comparisons joined by a
word. Their values are still texts.
-/

namespace DocumentCatalog
namespace Filter

inductive Operator where
  | eq | lt | lte | gt | gte
  deriving DecidableEq, Repr

namespace Operator

def keyword : Operator → String
  | .eq => "eq"
  | .lt => "lt"
  | .lte => "lte"
  | .gt => "gt"
  | .gte => "gte"

def ofKeyword? (word : String) : Option Operator :=
  [eq, lt, lte, gt, gte].find? (·.keyword == word)

/-- The key of the operator in a predicate. -/
def storeKey (op : Operator) : String :=
  "$" ++ op.keyword

/-- Every operator but equality compares numbers. -/
def isComparison (op : Operator) : Bool :=
  op != .eq

end Operator

inductive Join where
  | and | or
  deriving DecidableEq, Repr

namespace Join

def keyword : Join → String
  | .and => "and"
  | .or => "or"

def ofKeyword? (word : String) : Option Join :=
  [and, or].find? (·.keyword == word)

/-- The key of the join in a predicate. -/
def storeKey (join : Join) : String :=
  "$" ++ join.keyword

end Join

/-- One side of a joined expression. -/
structure Clause where
  operator : Operator
  value : String
  deriving DecidableEq, Repr

inductive Expression where
  | simple (field : String) (operator : Operator) (value : String)
  /-- Any of the values; the operator that was written does not count. -/
  | multiple (field : String) (values : List String)
  | joined (field : String) (first : Clause) (join : Join) (second : Clause)
  deriving DecidableEq, Repr

def Expression.field : Expression → String
  | .simple field _ _ | .multiple field _ | .joined field _ _ _ => field

end Filter
end DocumentCatalog
