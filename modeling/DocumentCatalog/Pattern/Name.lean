import DocumentCatalog.Pattern.Segment
import DocumentCatalog.Unicode.Age
import DocumentCatalog.Unicode.ScriptExtension

/-!
What the name of a property, or a name with a value, stands for in a pattern.
-/

namespace DocumentCatalog
namespace Pattern
namespace CharSet

/-- Names compare without case, blanks, hyphens, low lines and all that is not ASCII, and without
`is` at their very start. -/
def normalName (name : List Char) : String :=
  let kept (cs : List Char) : List Char :=
    (cs.filter fun c => c.toNat < 0x80 && c != ' ' && c != '-' && c != '_').map Char.toLower
  match name with
  | i :: s :: rest =>
      if i.toLower = 'i' ∧ s.toLower = 's' then
        if kept rest = ['c'] then "isc" else String.ofList (kept rest)
      else String.ofList (kept name)
  | _ => String.ofList (kept name)

/-- Looks up one of several names. -/
def lookup? {α : Type} (table : List (List String × α)) (name : String) : Option α :=
  (table.find? (·.1.contains name)).map (·.2)

def script? (name : String) : Option CharSet :=
  (lookup? Unicode.Script.named name).map .spans

/-- The characters that a script uses: its own ones that it does not share, and the shared ones. -/
def scriptExtension? (name : String) : Option CharSet :=
  (Unicode.Script.named.find? (·.1.contains name)).map fun (names, own) =>
    let shared := Unicode.scriptExtensions.filter fun entry => entry.1.any names.contains
    union (diff (spans own) (spans (Unicode.scriptExtensions.flatMap (·.2))))
      (spans (shared.flatMap (·.2)))

/-- The spans of all editions up to the named one. -/
def spansUpTo? (name : String) :
    List (List String × List Unicode.Span) → Option (List Unicode.Span)
  | [] => .none
  | (names, own) :: rest =>
      if names.contains name then some own else (spansUpTo? name rest).map (own ++ ·)

/-- The characters that an edition has. -/
def age? (name : String) : Option CharSet :=
  (spansUpTo? name Unicode.Age.named).map .spans

/-- What a single name stands for. -/
def named? (name : List Char) : Option CharSet :=
  let name := normalName name
  (lookup? properties name).or ((lookup? categories name).or (script? name))

/-- What a name and a value stand for. -/
def valued? (name value : List Char) : Option CharSet :=
  let value := normalName value
  match normalName name with
  | "gc" | "generalcategory" => lookup? categories value
  | "sc" | "script" => script? value
  | "scx" | "scriptextensions" => scriptExtension? value
  | "age" => age? value
  | "gcb" | "graphemeclusterbreak" => lookup? clusterParts value
  | "wb" | "wordbreak" => lookup? wordParts value
  | "sb" | "sentencebreak" => lookup? sentenceParts value
  | _ => .none

end CharSet
end Pattern
end DocumentCatalog
