import DocumentCatalog.Entries

/-!
Values that are written differently in a filter than in the documents, such as those that contain
the word `and`. A value is looked up once, as a whole.
-/

namespace DocumentCatalog
namespace Filter

structure Substitutions where
  table : Entries String
  deriving DecidableEq, Repr

namespace Substitutions

def empty : Substitutions :=
  ⟨[]⟩

/-- Adds an entry; an earlier one for the same text is replaced. -/
def add (s : Substitutions) (raw normalized : String) : Substitutions :=
  ⟨Entries.insert raw normalized s.table⟩

/-- The table of these pairs, the last of equal texts counting. -/
def ofList (pairs : List (String × String)) : Substitutions :=
  pairs.foldl (fun s pair => s.add pair.1 pair.2) empty

/-- The text to use for a text: its entry, or itself. -/
def apply (s : Substitutions) (raw : String) : String :=
  (Entries.get? s.table raw).getD raw

def size (s : Substitutions) : Nat :=
  s.table.length

def isEmpty (s : Substitutions) : Bool :=
  s.table.isEmpty

/-- The names of clothes whose stored form has an ampersand. -/
def standard : Substitutions :=
  ofList
    [("Bow and Arrow", "Bow & Arrow"), ("Bow Tie and Suit", "Bow Tie & Suit"),
      ("Suit and Tie", "Suit & Tie"), ("Tennis Socks and Shoes", "Tennis Socks & Shoes")]

end Substitutions
end Filter
end DocumentCatalog
