import DocumentCatalog.Pattern.Category
import DocumentCatalog.Unicode.Emoji
import DocumentCatalog.Unicode.Identifier
import DocumentCatalog.Unicode.Ideograph
import DocumentCatalog.Unicode.Sign
import DocumentCatalog.Unicode.Writing

/-!
Properties that a character has or has not. Most of them follow from categories and short lists of
exceptions.
-/

namespace DocumentCatalog
namespace Pattern
namespace CharSet

def alphabetic : CharSet :=
  join [letter, ofCategory .letterNumber, settled (spans Unicode.otherAlphabetic)]

def lowercase : CharSet :=
  union (ofCategory .lowercaseLetter) (settled (spans Unicode.otherLowercase))

def uppercase : CharSet :=
  union (ofCategory .uppercaseLetter) (settled (spans Unicode.otherUppercase))

def caseIgnorable : CharSet :=
  union (ofCategories [.nonspacingMark, .enclosingMark, .format, .modifierLetter, .modifierSymbol])
    (spans Unicode.otherCaseIgnorable)

def whiteSpace : CharSet := spans Unicode.whiteSpace

def joinControl : CharSet := block 0x200C 0x200D

/-- Letters, marks, decimal digits, connecting punctuation and the two joining controls. -/
def word : CharSet :=
  join [alphabetic, mark, ofCategories [.decimalNumber, .connectorPunctuation], joinControl]

def graphemeExtend : CharSet :=
  union (ofCategories [.nonspacingMark, .enclosingMark])
    (settled (spans Unicode.otherGraphemeExtend))

def graphemeBase : CharSet :=
  compl (join [ofCategories [.control, .format, .privateUse, .unassigned], graphemeExtend,
    ofCategories [.lineSeparator, .paragraphSeparator]])

def prependedMark : CharSet := spans Unicode.prependedConcatenationMark

def variationSelector : CharSet := spans Unicode.variationSelector

def defaultIgnorable : CharSet :=
  diff (join [spans Unicode.otherDefaultIgnorable, ofCategory .format, variationSelector])
    (join [whiteSpace, prependedMark, block 0xFFF9 0xFFFB, block 0x13430 0x1343F])

def patternSyntax : CharSet :=
  union (spans Unicode.patternSyntax) (spans Unicode.patternWhiteSpace)

def idStart : CharSet :=
  diff (join [letter, ofCategory .letterNumber, spans Unicode.otherIdStart]) patternSyntax

def idContinue : CharSet :=
  diff (join [idStart, spans Unicode.otherIdContinue,
    ofCategories [.nonspacingMark, .spacingMark, .decimalNumber, .connectorPunctuation]])
    patternSyntax

/-! What the changes of case do -/

def lowercased : CharSet :=
  settled (union (spans (Unicode.lowercaseTable.map (·.source))) (block 0x130 0x130))

/-- The lower-case forms, but for two whose upper-case forms are recent. -/
def lowercaseForm : CharSet :=
  diff (settled (spans (Unicode.lowercaseTable.map (·.image)))) (spans [⟨0xA7D3, 0xA7D5, 2⟩])

def uppercased : CharSet :=
  union lowercaseForm (spans Unicode.otherUppercased)

/-- Georgian letters have capitals but no form for titles. -/
def titlecased : CharSet :=
  union (diff lowercaseForm (union (block 0x10D0 0x10FA) (block 0x10FD 0x10FF)))
    (spans Unicode.otherTitlecased)

/-- Cherokee letters fold to their capitals. -/
def casefolded : CharSet :=
  union (diff lowercased (block 0x13A0 0x13F5)) (spans Unicode.otherCasefolded)

/-- The properties with their names, in lower case and without separators. -/
def properties : List (List String × CharSet) :=
  [(["ahex", "asciihexdigit"], asciiHexDigit),
   (["alpha", "alphabetic"], alphabetic),
   (["bidic", "bidicontrol"], spans Unicode.bidiControl),
   (["bidim", "bidimirrored"], spans Unicode.mirrored),
   (["cased"], join [lowercase, uppercase, ofCategory .titlecaseLetter]),
   (["ci", "caseignorable"], caseIgnorable),
   (["cwcf", "changeswhencasefolded"], casefolded),
   (["cwcm", "changeswhencasemapped"], join [lowercased, uppercased, titlecased]),
   (["cwl", "changeswhenlowercased"], lowercased),
   (["cwt", "changeswhentitlecased"], titlecased),
   (["cwu", "changeswhenuppercased"], uppercased),
   (["dash"], spans Unicode.dash),
   (["dep", "deprecated"], spans Unicode.deprecated),
   (["di", "defaultignorablecodepoint"], defaultIgnorable),
   (["dia", "diacritic"], spans Unicode.diacritic),
   (["ebase", "emojimodifierbase"], spans Unicode.emojiModifierBase),
   (["ecomp", "emojicomponent"], spans Unicode.emojiComponent),
   (["emod", "emojimodifier"], block 0x1F3FB 0x1F3FF),
   (["emoji"], spans Unicode.emoji),
   (["epres", "emojipresentation"], spans Unicode.emojiPresentation),
   (["ext", "extender"], spans Unicode.extender),
   (["extpict", "extendedpictographic"], spans Unicode.extendedPictographic),
   (["grbase", "graphemebase"], graphemeBase),
   (["grext", "graphemeextend"], graphemeExtend),
   (["grlink", "graphemelink"], spans Unicode.graphemeLink),
   (["hex", "hexdigit"], spans Unicode.hexDigit),
   (["hyphen"], spans Unicode.hyphen),
   (["idc", "idcontinue"], idContinue),
   (["idcompatmathcontinue"], spans Unicode.mathContinue),
   (["idcompatmathstart"], spans Unicode.mathStart),
   (["ideo", "ideographic"], spans Unicode.ideographic),
   (["ids", "idstart"], idStart),
   (["idsb", "idsbinaryoperator"], spans Unicode.binaryOperator),
   (["idst", "idstrinaryoperator"], spans Unicode.trinaryOperator),
   (["idsu", "idsunaryoperator"], spans Unicode.unaryOperator),
   (["joinc", "joincontrol"], joinControl),
   (["loe", "logicalorderexception"], spans Unicode.logicalOrderException),
   (["lower", "lowercase"], lowercase),
   (["math"], union (ofCategory .mathSymbol) (spans Unicode.otherMath)),
   (["mcm", "modifiercombiningmark"], spans Unicode.modifierCombiningMark),
   (["nchar", "noncharactercodepoint"], spans Unicode.noncharacter),
   (["oalpha", "otheralphabetic"], settled (spans Unicode.otherAlphabetic)),
   (["odi", "otherdefaultignorablecodepoint"], spans Unicode.otherDefaultIgnorable),
   (["ogrext", "othergraphemeextend"], settled (spans Unicode.otherGraphemeExtend)),
   (["oidc", "otheridcontinue"], spans Unicode.otherIdContinue),
   (["oids", "otheridstart"], spans Unicode.otherIdStart),
   (["olower", "otherlowercase"], settled (spans Unicode.otherLowercase)),
   (["omath", "othermath"], spans Unicode.otherMath),
   (["oupper", "otheruppercase"], settled (spans Unicode.otherUppercase)),
   (["patsyn", "patternsyntax"], spans Unicode.patternSyntax),
   (["patws", "patternwhitespace"], spans Unicode.patternWhiteSpace),
   (["pcm", "prependedconcatenationmark"], prependedMark),
   (["qmark", "quotationmark"], spans Unicode.quotationMark),
   (["radical"], spans Unicode.radical),
   (["ri", "regionalindicator"], block 0x1F1E6 0x1F1FF),
   (["sd", "softdotted"], spans Unicode.softDotted),
   (["space", "whitespace", "wspace"], whiteSpace),
   (["sterm", "sentenceterminal"], spans Unicode.sentenceTerminal),
   (["term", "terminalpunctuation"], spans Unicode.terminalPunctuation),
   (["uideo", "unifiedideograph"], spans Unicode.unifiedIdeograph),
   (["upper", "uppercase"], uppercase),
   (["vs", "variationselector"], variationSelector),
   (["xidc", "xidcontinue"], diff idContinue (spans Unicode.unstableContinue)),
   (["xids", "xidstart"], diff idStart (spans Unicode.unstableStart))]

end CharSet
end Pattern
end DocumentCatalog
