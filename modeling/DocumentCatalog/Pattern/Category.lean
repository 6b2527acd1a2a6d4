import DocumentCatalog.Pattern.CharSet

/-!
The general categories and the properties that follow from them, as patterns know them: without the
characters of the latest edition of the tables. Surrogates are in no set, not even in a group.
-/

namespace DocumentCatalog
namespace Pattern
namespace CharSet

/-- A set without recent characters. -/
def settled (s : CharSet) : CharSet :=
  diff s (spans Unicode.recent)

/-- The one letter that has changed its category since: without case now, lower case for patterns. -/
def pharyngealLetter : CharSet := block 0x295 0x295

/-- The characters of a category. -/
def ofCategory : Unicode.Category → CharSet
  | .unassigned =>
      compl (diff (spans (Unicode.Category.listed.flatMap (·.spans))) (spans Unicode.recent))
  | .lowercaseLetter => union (settled (spans Unicode.lowercaseLetter)) pharyngealLetter
  | .otherLetter => diff (settled (spans Unicode.otherLetter)) pharyngealLetter
  | k => settled (spans k.spans)

def ofCategories (categories : List Unicode.Category) : CharSet :=
  join (categories.map ofCategory)

def cased : CharSet :=
  ofCategories [.uppercaseLetter, .lowercaseLetter, .titlecaseLetter]

def letter : CharSet :=
  union cased (ofCategories [.modifierLetter, .otherLetter])

def mark : CharSet :=
  ofCategories [.nonspacingMark, .spacingMark, .enclosingMark]

def number : CharSet :=
  ofCategories [.decimalNumber, .letterNumber, .otherNumber]

def bracket : CharSet :=
  ofCategories [.openPunctuation, .closePunctuation, .initialPunctuation, .finalPunctuation]

def punctuation : CharSet :=
  union bracket (ofCategories [.connectorPunctuation, .dashPunctuation, .otherPunctuation])

def symbol : CharSet :=
  ofCategories [.mathSymbol, .currencySymbol, .modifierSymbol, .otherSymbol]

def separator : CharSet :=
  ofCategories [.spaceSeparator, .lineSeparator, .paragraphSeparator]

def other : CharSet :=
  ofCategories [.control, .format, .privateUse, .unassigned]

/-- The categories and groups of them, with their names in lower case and without separators. -/
def categories : List (List String × CharSet) :=
  [(["any"], all), (["assigned"], compl (ofCategory .unassigned)), (["ascii"], ascii),
   (["lu", "uppercaseletter"], ofCategory .uppercaseLetter),
   (["ll", "lowercaseletter"], ofCategory .lowercaseLetter),
   (["lt", "titlecaseletter"], ofCategory .titlecaseLetter),
   (["lc", "casedletter"], cased),
   (["lm", "modifierletter"], ofCategory .modifierLetter),
   (["lo", "otherletter"], ofCategory .otherLetter),
   (["l", "letter"], letter),
   (["mn", "nonspacingmark"], ofCategory .nonspacingMark),
   (["mc", "spacingmark"], ofCategory .spacingMark),
   (["me", "enclosingmark"], ofCategory .enclosingMark),
   (["m", "mark", "combiningmark"], mark),
   (["nd", "decimalnumber", "digit"], ofCategory .decimalNumber),
   (["nl", "letternumber"], ofCategory .letterNumber),
   (["no", "othernumber"], ofCategory .otherNumber),
   (["n", "number"], number),
   (["pc", "connectorpunctuation"], ofCategory .connectorPunctuation),
   (["pd", "dashpunctuation"], ofCategory .dashPunctuation),
   (["ps", "openpunctuation"], ofCategory .openPunctuation),
   (["pe", "closepunctuation"], ofCategory .closePunctuation),
   (["pi", "initialpunctuation"], ofCategory .initialPunctuation),
   (["pf", "finalpunctuation"], ofCategory .finalPunctuation),
   (["po", "otherpunctuation"], ofCategory .otherPunctuation),
   (["p", "punctuation", "punct"], punctuation),
   (["sm", "mathsymbol"], ofCategory .mathSymbol),
   (["sc", "currencysymbol"], ofCategory .currencySymbol),
   (["sk", "modifiersymbol"], ofCategory .modifierSymbol),
   (["so", "othersymbol"], ofCategory .otherSymbol),
   (["s", "symbol"], symbol),
   (["zs", "spaceseparator"], ofCategory .spaceSeparator),
   (["zl", "lineseparator"], ofCategory .lineSeparator),
   (["zp", "paragraphseparator"], ofCategory .paragraphSeparator),
   (["z", "separator"], separator),
   (["cc", "control", "cntrl"], ofCategory .control),
   (["cf", "format"], ofCategory .format),
   (["co", "privateuse"], ofCategory .privateUse),
   (["cn", "unassigned"], ofCategory .unassigned),
   (["c", "other"], other)]

end CharSet
end Pattern
end DocumentCatalog
