import DocumentCatalog.Query.Path

/-!
Comparing values. Conditions compare numbers with numbers and texts with texts only. Sorting orders
all values: by their kind first, then numbers, texts and truth values among themselves, while values
of another kind stand level with each other.
-/

namespace DocumentCatalog
namespace Query

/-- Comparison for conditions. -/
def compare? : Json → Json → Option Ordering
  | .number x, .number y => some (x.compareValue y)
  | .string x, .string y => some (compare x y)
  | _, _ => none

/-- Equality for conditions: structural, except that numbers are equal when their values are. -/
def equal : Json → Json → Bool
  | .number x, .number y => x.sameValue y
  | x, y => x.same y

/-- The place of a kind of values among the others; a missing value stands with the nulls. -/
def kindRank : Option Json → Nat
  | none | some .null => 0
  | some (.number _) => 1
  | some (.string _) => 2
  | some (.object _) => 3
  | some (.array _) => 4
  | some (.bool _) => 5

/-- Comparison for sorting. -/
def compareForSort : Option Json → Option Json → Ordering
  | some (.number x), some (.number y) => x.compareTotal y
  | some (.string x), some (.string y) => compare x y
  | some (.bool x), some (.bool y) => compare x y
  | x, y => compare (kindRank x) (kindRank y)

/-- Compares two documents by their values at a path. -/
def compareAt (path : String) (x y : Json) : Ordering :=
  compareForSort (lookup? x path) (lookup? y path)

inductive Direction where
  | ascending | descending
  deriving DecidableEq, Repr

def Direction.apply : Direction → Ordering → Ordering
  | .ascending, o => o
  | .descending, o => o.swap

structure SortKey where
  field : String
  direction : Direction
  deriving DecidableEq, Repr

def SortKey.compare (key : SortKey) (x y : Json) : Ordering :=
  key.direction.apply (compareAt key.field x y)

/-- Comparison by the first key on which the documents differ. -/
def compareByKeys : List SortKey → Json → Json → Ordering
  | [], _, _ => .eq
  | key :: keys, x, y => (key.compare x y).then (compareByKeys keys x y)

end Query
end DocumentCatalog
