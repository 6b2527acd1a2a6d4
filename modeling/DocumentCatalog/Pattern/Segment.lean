import DocumentCatalog.Pattern.Property
import DocumentCatalog.Unicode.Script
import DocumentCatalog.Unicode.Segment

/-!
The parts that characters play where a text is cut into clusters, words and sentences.
-/

namespace DocumentCatalog
namespace Pattern
namespace CharSet

def carriageReturn : CharSet := single '\r'

def lineFeed : CharSet := single '\n'

def regionalIndicator : CharSet := block 0x1F1E6 0x1F1FF

def emojiModifier : CharSet := block 0x1F3FB 0x1F3FF

/-- Marks and all else that belongs to the character before it. -/
def clusterExtend : CharSet :=
  union graphemeExtend emojiModifier

def clusterControl : CharSet :=
  diff
    (join [ofCategories [.lineSeparator, .paragraphSeparator, .control, .format],
      inter (ofCategory .unassigned) defaultIgnorable])
    (join [carriageReturn, lineFeed, joinControl, prependedMark, block 0xE0020 0xE007F])

def clusterSpacing : CharSet :=
  union (diff (diff (ofCategory .spacingMark) clusterExtend) (spans Unicode.apartMark))
    (spans Unicode.spacingVowel)

/-- The syllables of two parts are evenly spaced among those of three. -/
def openSyllable : CharSet := spans [⟨0xAC00, 0xD788, 28⟩]

def closedSyllable : CharSet := diff (block 0xAC00 0xD7A3) openSyllable

def clusterParts : List (List String × CharSet) :=
  [(["cn", "control"], clusterControl),
   (["cr"], carriageReturn),
   (["ex", "extend"], clusterExtend),
   (["l"], spans Unicode.leadingJamo),
   (["lf"], lineFeed),
   (["lv"], openSyllable),
   (["lvt"], closedSyllable),
   (["pp", "prepend"], union prependedMark (spans Unicode.prependedLetter)),
   (["ri", "regionalindicator"], regionalIndicator),
   (["sm", "spacingmark"], clusterSpacing),
   (["t"], spans Unicode.trailingJamo),
   (["v"], spans Unicode.vowelJamo),
   (["zwj"], block 0x200D 0x200D)]

def wordExtend : CharSet :=
  join [graphemeExtend, ofCategory .spacingMark, emojiModifier]

def hebrewLetter : CharSet :=
  inter (spans Unicode.Script.hebrew) (ofCategory .otherLetter)

def wordKatakana : CharSet :=
  union (spans Unicode.Script.katakana) (spans Unicode.katakanaSign)

def wordLetter : CharSet :=
  union
    (diff alphabetic
      (join [spans Unicode.ideographic, wordKatakana, wordExtend, hebrewLetter,
        spans Unicode.unspacedLetter]))
    (spans Unicode.wordSign)

def wordNumeric : CharSet :=
  union (ofCategory .decimalNumber) (spans Unicode.numericSign)

def wordParts : List (List String × CharSet) :=
  [(["cr"], carriageReturn),
   (["dq", "doublequote"], single '"'),
   (["ex", "extendnumlet"], union (ofCategory .connectorPunctuation) (block 0x202F 0x202F)),
   (["extend"], wordExtend),
   (["fo", "format"], diff (ofCategory .format)
     (join [block 0x200B 0x200D, graphemeExtend, prependedMark])),
   (["hl", "hebrewletter"], hebrewLetter),
   (["ka", "katakana"], wordKatakana),
   (["le", "aletter"], wordLetter),
   (["lf"], lineFeed),
   (["mb", "midnumlet"], spans Unicode.midEither),
   (["ml", "midletter"], spans Unicode.midLetter),
   (["mn", "midnum"], spans Unicode.midNumber),
   (["nl", "newline"], join [block 0xB 0xC, block 0x85 0x85, block 0x2028 0x2029]),
   (["nu", "numeric"], wordNumeric),
   (["ri", "regionalindicator"], regionalIndicator),
   (["sq", "singlequote"], single '\''),
   (["wsegspace"], spans Unicode.wordSpace),
   (["zwj"], block 0x200D 0x200D)]

def sentenceExtend : CharSet :=
  join [graphemeExtend, ofCategory .spacingMark, block 0x200D 0x200D]

def sentenceLower : CharSet :=
  diff lowercase (join [graphemeExtend, block 0x10D0 0x10FA, block 0x10FD 0x10FF])

def sentenceUpper : CharSet :=
  diff (union uppercase (ofCategory .titlecaseLetter))
    (union (block 0x1C90 0x1CBA) (block 0x1CBD 0x1CBF))

def sentenceSeparator : CharSet :=
  union (block 0x85 0x85) (block 0x2028 0x2029)

def sentenceEnd : CharSet :=
  diff (spans Unicode.sentenceTerminal) (spans Unicode.sentenceDot)

def sentenceClose : CharSet :=
  union
    (diff (union bracket (spans Unicode.quotationMark))
      (union (block 0xFF02 0xFF02) (block 0xFF07 0xFF07)))
    (spans Unicode.otherClose)

def sentenceLetter : CharSet :=
  union (diff alphabetic (join [sentenceLower, sentenceUpper, sentenceExtend])) (block 0x5F3 0x5F3)

def sentenceParts : List (List String × CharSet) :=
  [(["at", "aterm"], spans Unicode.sentenceDot),
   (["cl", "close"], sentenceClose),
   (["cr"], carriageReturn),
   (["ex", "extend"], sentenceExtend),
   (["fo", "format"], diff (ofCategory .format)
     (join [joinControl, graphemeExtend, diff prependedMark (block 0x70F 0x70F)])),
   (["le", "oletter"], sentenceLetter),
   (["lf"], lineFeed),
   (["lo", "lower"], sentenceLower),
   (["nu", "numeric"], union wordNumeric (block 0x66C 0x66C)),
   (["sc", "scontinue"], spans Unicode.sentenceContinue),
   (["se", "sep"], sentenceSeparator),
   (["sp"], diff whiteSpace (join [sentenceSeparator, carriageReturn, lineFeed])),
   (["st", "sterm"], sentenceEnd),
   (["up", "upper"], sentenceUpper)]

end CharSet
end Pattern
end DocumentCatalog
