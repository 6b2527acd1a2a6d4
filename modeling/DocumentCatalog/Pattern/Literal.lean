/-!
Patterns that match a text literally. A backslash before a character that means something in
patterns takes its meaning away.
-/

namespace DocumentCatalog
namespace Pattern

/-- Characters that mean something in patterns, at least at some places. -/
def isMeta (c : Char) : Bool :=
  "\\.+*?()|[]\x7b\x7d^$#&-~".toList.contains c

def literalChars (cs : List Char) : List Char :=
  cs.flatMap fun c => if isMeta c then ['\\', c] else [c]

/-- The pattern that matches exactly this text. -/
def literal (s : String) : String :=
  String.ofList (literalChars s.toList)

end Pattern
end DocumentCatalog
