import DocumentCatalog.Unicode.CaseTable
import DocumentCatalog.Unicode.Property
import DocumentCatalog.Unicode.Recent

/-!
Lower case, character by character and for whole texts, and case folding. The capital sigma at the
end of a word becomes the final small sigma.
-/

namespace DocumentCatalog
namespace Unicode

/-- The lower-case form of a character, which for one letter takes two characters. -/
def lowercaseChar (c : Char) : List Char :=
  if c.toNat = 0x130 then ['i', Char.ofNat 0x307] else [move lowercaseTable c]

/-- Whether the first character that counts for case has one. -/
def startsCased (cs : List Char) : Bool :=
  match cs.dropWhile isCaseIgnorable with
  | [] => false
  | c :: _ => isCased c

/-- A capital sigma is final when a cased letter stands before it and none after it. -/
def lowerSigma (before after : List Char) : Char :=
  if startsCased before && !startsCased after then 'ς' else 'σ'

/-- Lower-cases `rest`, where `before` holds what precedes it, last character first. -/
def lowercaseFrom (before : List Char) : List Char → List Char
  | [] => []
  | c :: rest =>
      (if c = 'Σ' then [lowerSigma before rest] else lowercaseChar c) ++
        lowercaseFrom (c :: before) rest

def lowercase (s : String) : String :=
  String.ofList (lowercaseFrom [] s.toList)

/-- The character that stands for this one when case is disregarded. Recent characters stand for
themselves. -/
def fold (c : Char) : Char :=
  if covers recent c then c else move lowercaseTable (move foldingTable c)

/-- The characters that fold to the same one as this, without repetition. -/
def foldClass (c : Char) : List Char :=
  let representative := fold c
  representative ::
    ((origins lowercaseTable representative).filter (!covers recent ·) ++
      origins foldingTable representative)

/-- All characters that share their representative with another one, in groups. -/
def foldClasses : List (List Char) :=
  let moved := lowercaseTable.flatMap (·.source.chars) ++ foldingTable.flatMap (·.source.chars)
  ((moved.filter (!covers recent ·)).map fold).eraseDups.map foldClass

end Unicode
end DocumentCatalog
