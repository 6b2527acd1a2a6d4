import DocumentCatalog.Unicode.Property

/-!
Cutting a text at a separator, joining the pieces again, and trimming. Every occurrence of the
separator cuts, so a text has one piece more than it has separators.
-/

namespace DocumentCatalog
namespace Text

/-- The pieces between the separators, at least one. -/
def split (separator : Char) (s : String) : List String :=
  (s.toList.splitOn separator).map String.ofList

def join (separator : Char) (pieces : List String) : String :=
  String.ofList (List.intercalate [separator] (pieces.map String.toList))

/-- Cuts at the first separator alone; a text without one is the first part. -/
def splitFirst (separator : Char) (s : String) : String × String :=
  let cs := s.toList
  (String.ofList (cs.takeWhile (· != separator)),
    String.ofList ((cs.dropWhile (· != separator)).drop 1))

def trimChars (cs : List Char) : List Char :=
  ((cs.dropWhile Unicode.isBlank).reverse.dropWhile Unicode.isBlank).reverse

/-- The text without the blanks at its ends. -/
def trim (s : String) : String :=
  String.ofList (trimChars s.toList)

/-- The entries of a comma-separated list, trimmed, without the blank ones. -/
def entries (s : String) : List String :=
  ((split ',' s).map trim).filter (· != "")

end Text
end DocumentCatalog
