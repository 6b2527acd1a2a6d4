import DocumentCatalog.Query.Find

/-!
Named collections of documents. A collection that is added again replaces the former one.
-/

namespace DocumentCatalog
namespace Store

structure Collections where
  entries : Entries (List Json)
  distinct : (Entries.keys entries).Nodup
  deriving Repr

namespace Collections

def empty : Collections :=
  ⟨[], by simp [Entries.keys]⟩

def insert (c : Collections) (name : String) (documents : List Json) : Collections :=
  ⟨Entries.insert name documents c.entries, Entries.nodup_keys_insert name documents c.distinct⟩

def get? (c : Collections) (name : String) : Option (List Json) :=
  Entries.get? c.entries name

/-- The names in the order of their characters. -/
def names (c : Collections) : List String :=
  (Entries.keys c.entries).mergeSort fun x y => (compare x y).isLE

/-- Finds documents of a collection; one that is missing holds none. -/
def find (c : Collections) (name : String) (p : Filter.Predicate) (options : Query.Options) :
    List Json :=
  match c.get? name with
  | some documents => Query.find documents p options
  | none => []

end Collections
end Store
end DocumentCatalog
