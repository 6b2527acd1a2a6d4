import DocumentCatalog.Text.Split

/-!
Names of files: the parts of a path, and the extension of a name. The names themselves are octets,
which need not be text.
-/

namespace DocumentCatalog
namespace Text
namespace FileName

/-- The parts of a path. Doubled and closing slashes do not count, nor does a point that stands for
the directory itself, unless the path starts with it. -/
def parts (path : String) : List String :=
  let pieces := split '/' path
  let start := match pieces with
    | "" :: _ :: _ => ["/"]
    | "." :: _ => ["."]
    | _ => []
  start ++ pieces.filter fun piece => piece != "" && piece != "."

/-- Whether two paths lead through the same parts. -/
def samePath (x y : String) : Bool :=
  parts x == parts y

/-- The path of a file in a directory. -/
def join (directory name : String) : String :=
  if directory.isEmpty || directory.toList.getLast? == some '/' then directory ++ name
  else directory ++ "/" ++ name

/-- The octet of a point. -/
def point : Nat :=
  '.'.toNat

/-- The stem before the last point, and the extension after it. A point at the very start separates
nothing. -/
def splitExtension (name : List Nat) : List Nat × Option (List Nat) :=
  let reversed := name.reverse
  let stem := ((reversed.dropWhile (· != point)).drop 1).reverse
  if stem.isEmpty then (name, none)
  else (stem, some (reversed.takeWhile (· != point)).reverse)

end FileName
end Text
end DocumentCatalog
