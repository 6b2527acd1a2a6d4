import DocumentCatalog.Query.Selection

/-!
Finding documents: those that a predicate selects, sorted, cut to a page, and without the fields
that are not to be seen. Documents that the sort keys do not tell apart keep their order.
-/

namespace DocumentCatalog
namespace Query

structure Options where
  limit : Option Nat := none
  skip : Nat := 0
  sort : List SortKey := []
  /-- The fields that are left out of every document. -/
  exclude : List String := []
  deriving DecidableEq, Repr

/-- The documents in the order of the keys. -/
def sorted (keys : List SortKey) (documents : List Json) : List Json :=
  documents.mergeSort fun x y => (compareByKeys keys x y).isLE

/-- The documents of a page. -/
def page (skip : Nat) (limit : Option Nat) (documents : List Json) : List Json :=
  match limit with
  | none => documents.drop skip
  | some limit => (documents.drop skip).take limit

/-- Leaves fields out of a document; only objects have fields. -/
def without (exclude : List String) : Json → Json
  | .object members => .object (exclude.foldl (fun kept key => Entries.swapErase key kept) members)
  | document => document

def find (documents : List Json) (p : Filter.Predicate) (options : Options) : List Json :=
  let selected := sorted options.sort (documents.filter p.selects)
  (page options.skip options.limit selected).map (without options.exclude)

end Query
end DocumentCatalog
