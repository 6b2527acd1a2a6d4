import DocumentCatalog.Unicode.Letter
import DocumentCatalog.Unicode.Mark
import DocumentCatalog.Unicode.Numeric
import DocumentCatalog.Unicode.Punctuation
import DocumentCatalog.Unicode.Symbol
import DocumentCatalog.Unicode.Control
import DocumentCatalog.Unicode.Extra

/-!
The general category of a character and the properties that the library asks about. A character
that no category lists is unassigned.
-/

namespace DocumentCatalog
namespace Unicode

inductive Category where
  | uppercaseLetter | lowercaseLetter | titlecaseLetter | modifierLetter | otherLetter
  | nonspacingMark | spacingMark | enclosingMark
  | decimalNumber | letterNumber | otherNumber
  | connectorPunctuation | dashPunctuation | openPunctuation | closePunctuation
  | initialPunctuation | finalPunctuation | otherPunctuation
  | mathSymbol | currencySymbol | modifierSymbol | otherSymbol
  | spaceSeparator | lineSeparator | paragraphSeparator
  | control | format | surrogate | privateUse | unassigned
  deriving DecidableEq, Repr

namespace Category

/-- Every category that lists its characters. -/
def listed : List Category :=
  [uppercaseLetter, lowercaseLetter, titlecaseLetter, modifierLetter, otherLetter,
    nonspacingMark, spacingMark, enclosingMark, decimalNumber, letterNumber, otherNumber,
    connectorPunctuation, dashPunctuation, openPunctuation, closePunctuation,
    initialPunctuation, finalPunctuation, otherPunctuation, mathSymbol, currencySymbol,
    modifierSymbol, otherSymbol, spaceSeparator, lineSeparator, paragraphSeparator,
    control, format, surrogate, privateUse]

def spans : Category → List Span
  | uppercaseLetter => Unicode.uppercaseLetter
  | lowercaseLetter => Unicode.lowercaseLetter
  | titlecaseLetter => Unicode.titlecaseLetter
  | modifierLetter => Unicode.modifierLetter
  | otherLetter => Unicode.otherLetter
  | nonspacingMark => Unicode.nonspacingMark
  | spacingMark => Unicode.spacingMark
  | enclosingMark => Unicode.enclosingMark
  | decimalNumber => Unicode.decimalNumber
  | letterNumber => Unicode.letterNumber
  | otherNumber => Unicode.otherNumber
  | connectorPunctuation => Unicode.connectorPunctuation
  | dashPunctuation => Unicode.dashPunctuation
  | openPunctuation => Unicode.openPunctuation
  | closePunctuation => Unicode.closePunctuation
  | initialPunctuation => Unicode.initialPunctuation
  | finalPunctuation => Unicode.finalPunctuation
  | otherPunctuation => Unicode.otherPunctuation
  | mathSymbol => Unicode.mathSymbol
  | currencySymbol => Unicode.currencySymbol
  | modifierSymbol => Unicode.modifierSymbol
  | otherSymbol => Unicode.otherSymbol
  | spaceSeparator => Unicode.spaceSeparator
  | lineSeparator => Unicode.lineSeparator
  | paragraphSeparator => Unicode.paragraphSeparator
  | control => Unicode.control
  | format => Unicode.format
  | surrogate => Unicode.surrogate
  | privateUse => Unicode.privateUse
  | unassigned => []

def contains (k : Category) (c : Char) : Bool :=
  if k = unassigned then listed.all (fun other => !covers other.spans c) else covers k.spans c

end Category

/-- Space, tab, line ends and the other blank characters. -/
def isBlank (c : Char) : Bool :=
  covers whiteSpace c

def isLowercase (c : Char) : Bool :=
  covers lowercaseLetter c || covers otherLowercase c

def isUppercase (c : Char) : Bool :=
  covers uppercaseLetter c || covers otherUppercase c

/-- Characters that have a case at all. -/
def isCased (c : Char) : Bool :=
  isLowercase c || isUppercase c || covers titlecaseLetter c

/-- Characters that are passed over when the case around them is judged. -/
def isCaseIgnorable (c : Char) : Bool :=
  covers nonspacingMark c || covers enclosingMark c || covers format c || covers modifierLetter c ||
    covers modifierSymbol c || covers otherCaseIgnorable c

def isAlphabetic (c : Char) : Bool :=
  covers lowercaseLetter c || covers uppercaseLetter c || covers otherLetter c ||
    covers titlecaseLetter c || covers modifierLetter c || covers letterNumber c ||
    covers otherAlphabetic c

/-- Decimal digits, numbers written with letters and the other numeric characters. -/
def isNumeric (c : Char) : Bool :=
  covers decimalNumber c || covers letterNumber c || covers otherNumber c

/-- Characters that are drawn together with the one before them. -/
def isGraphemeExtend (c : Char) : Bool :=
  covers nonspacingMark c || covers enclosingMark c || covers otherGraphemeExtend c

/-- Characters that would merge with what stands before them. The two halfwidth sound marks have a
width of their own and stay apart. -/
def isMerging (c : Char) : Bool :=
  isGraphemeExtend c && c.toNat != 0xFF9E && c.toNat != 0xFF9F

/-- Letters that fill the place of a part of a syllable and show nothing. -/
def isFiller (c : Char) : Bool :=
  [0x115F, 0x1160, 0x3164, 0xFFA0].contains c.toNat

/-- Characters that show something of their own; of the separators only the plain space does. -/
def isPrintable (c : Char) : Bool :=
  c == ' ' ||
    !(isFiller c ||
      [Category.spaceSeparator, .lineSeparator, .paragraphSeparator, .control, .format, .surrogate,
        .privateUse, .unassigned].any (·.contains c))

end Unicode
end DocumentCatalog
