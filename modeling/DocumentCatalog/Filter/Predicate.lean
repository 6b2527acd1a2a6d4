import DocumentCatalog.Filter.Expression
import DocumentCatalog.Json.Printer

/-!
Predicates on documents: objects whose keys are field paths or one of the two combining keys.
Combining predicates leaves out those that demand nothing, so that a single one stays as it is.
-/

namespace DocumentCatalog
namespace Filter

/-- The key of a list of predicates that must all hold. -/
def andKey : String := "$and"

/-- The key of a list of predicates of which one must hold. -/
def orKey : String := "$or"

structure Predicate where
  entries : Entries Json
  distinct : (Entries.keys entries).Nodup
  deriving Repr

namespace Predicate

def empty : Predicate :=
  ⟨[], by simp [Entries.keys]⟩

instance : Inhabited Predicate :=
  ⟨empty⟩

/-- Sets a key, in place of what was there before. -/
def insert (p : Predicate) (key : String) (value : Json) : Predicate :=
  ⟨Entries.insert key value p.entries, Entries.nodup_keys_insert key value p.distinct⟩

/-- Sets a key and returns what was there before. -/
def put (p : Predicate) (key : String) (value : Json) : Option Json × Predicate :=
  ((Entries.put key value p.entries).1, p.insert key value)

/-- Sets every key of the other predicate. -/
def merge (p other : Predicate) : Predicate :=
  ⟨Entries.merge p.entries other.entries, Entries.nodup_keys_merge other.entries p.distinct⟩

/-- The predicate of these entries, the last value of a repeated key counting. -/
def ofEntries (entries : Entries Json) : Predicate :=
  ⟨Entries.merge [] entries, Entries.nodup_keys_merge entries (by simp [Entries.keys])⟩

def get? (p : Predicate) (key : String) : Option Json :=
  Entries.get? p.entries key

def contains (p : Predicate) (key : String) : Bool :=
  (p.get? key).isSome

def keys (p : Predicate) : List String :=
  Entries.keys p.entries

def size (p : Predicate) : Nat :=
  p.entries.length

def isEmpty (p : Predicate) : Bool :=
  p.entries.isEmpty

def toJson (p : Predicate) : Json :=
  .object p.entries

def text (p : Predicate) : String :=
  p.toJson.compact

/-- The predicate with a single entry. -/
def equals (field : String) (value : Json) : Predicate :=
  empty.insert field value

/-- A comparison with a number. -/
def compare (field : String) (operator : Operator) (value : Binary64) : Predicate :=
  equals field (.object [(operator.storeKey, .number (.decimal value))])

/-- Puts the predicates that demand something under a key, unless there are less than two. -/
def combine (key : String) (predicates : List Predicate) : Predicate :=
  match predicates.filter (!·.isEmpty) with
  | [] => empty
  | [p] => p
  | parts => equals key (.array (parts.map toJson))

/-- Demands all of the predicates. -/
def allOf (predicates : List Predicate) : Predicate :=
  combine andKey predicates

/-- Demands one of the predicates. -/
def anyOf (predicates : List Predicate) : Predicate :=
  combine orKey predicates

end Predicate
end Filter
end DocumentCatalog
