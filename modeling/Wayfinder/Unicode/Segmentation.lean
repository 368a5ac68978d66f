import Wayfinder.Unicode.Property
import Wayfinder.Unicode.ScriptTable
import Wayfinder.Unicode.SegmentationTable
/-!
# Classes of the segmentation of text

The classes of characters by which texts are divided into graphemes, words and sentences, with their
names in lower case and without separators. Characters of no class have none here.
-/

namespace Wayfinder.Unicode.Segmentation

open Category CategoryTable Property PropertyTable SegmentationTable

def carriageReturn : CharSet := .single '\r'

def lineFeed : CharSet := .single '\n'

def joiner : CharSet := ⟨[(0x200d, 0x200d)]⟩

/-! ## Graphemes -/

def graphemeControl : CharSet :=
  .unions [control, format, lineSeparator, paragraphSeparator, unassigned ∩ defaultIgnorable] \
    .unions [graphemeExtend, prependedConcatenationMark, carriageReturn, lineFeed, joiner]

def graphemeExtender : CharSet := graphemeExtend ∪ emojiModifier

def graphemePrepend : CharSet := prependedConcatenationMark ∪ prependedLetter

def graphemeSpacingMark : CharSet :=
  (spacingMark \ (graphemeExtend ∪ detachedSpacingMark)) ∪ attachedVowel

/-- The precomposed Hangul syllables: 28 for each pair of a leading consonant and a vowel. -/
def hangulSyllable : CharSet := ⟨[(0xac00, 0xd7a3)]⟩

/-- Hangul syllables without a trailing consonant, the first of each 28. -/
def openSyllable : CharSet := .ofNats ((List.range 399).map fun i => 0xac00 + 28 * i)

def closedSyllable : CharSet := hangulSyllable \ openSyllable

def graphemeClasses : List (List String × CharSet) := [
  (["cr"], carriageReturn), (["lf"], lineFeed), (["cn", "control"], graphemeControl),
  (["ex", "extend"], graphemeExtender), (["zwj"], joiner),
  (["ri", "regionalindicator"], regionalIndicator), (["pp", "prepend"], graphemePrepend),
  (["sm", "spacingmark"], graphemeSpacingMark), (["l"], leadingJamo), (["v"], vowelJamo),
  (["t"], trailingJamo), (["lv"], openSyllable), (["lvt"], closedSyllable)]

/-! ## Words -/

/-- Characters that extend the one before them within words and sentences. -/
def extend : CharSet := .unions [graphemeExtend, spacingMark, emojiModifier]

def katakana : CharSet := ScriptTable.katakana ∪ katakanaAside

def hebrewLetter : CharSet := ScriptTable.hebrew ∩ otherLetter

/-- Letters of scripts that write words without gaps. -/
def unspacedLetter : CharSet :=
  .unions [ScriptTable.hiragana, ScriptTable.thai, ScriptTable.lao, ScriptTable.myanmar,
    ScriptTable.khmer, ScriptTable.taiLe, ScriptTable.newTaiLue, ScriptTable.taiViet,
    ScriptTable.taiTham, ScriptTable.ahom]

def wordLetter : CharSet :=
  (alphabetic \ .unions [ideographic, katakana, hebrewLetter, extend, unspacedLetter]) ∪
    wordLetterAside

def wordFormat : CharSet :=
  format \ .unions [graphemeExtend, prependedConcatenationMark, joiner, ⟨[(0x200b, 0x200b)]⟩]

def wordNumeric : CharSet := decimalNumber ∪ wordNumericAside

/-- Connectors of letters, digits and Katakana. -/
def wordConnector : CharSet := connectorPunctuation ∪ ⟨[(0x202f, 0x202f)]⟩

/-- Blanks at which lines may break. -/
def wordBlank : CharSet := spaceSeparator \ ⟨[(0xa0, 0xa0), (0x2007, 0x2007), (0x202f, 0x202f)]⟩

def wordNewline : CharSet :=
  .unions [⟨[(0x0b, 0x0c), (0x85, 0x85)]⟩, lineSeparator, paragraphSeparator]

def wordClasses : List (List String × CharSet) := [
  (["cr"], carriageReturn), (["lf"], lineFeed), (["nl", "newline"], wordNewline),
  (["extend"], extend), (["zwj"], joiner), (["fo", "format"], wordFormat),
  (["ri", "regionalindicator"], regionalIndicator), (["ka", "katakana"], katakana),
  (["hl", "hebrewletter"], hebrewLetter), (["le", "aletter"], wordLetter),
  (["sq", "singlequote"], .single '\''), (["dq", "doublequote"], .single '"'),
  (["mb", "midnumlet"], midNumberOrLetter), (["ml", "midletter"], midLetter),
  (["mn", "midnum"], midNumber), (["nu", "numeric"], wordNumeric),
  (["ex", "extendnumlet"], wordConnector), (["wsegspace"], wordBlank)]

/-! ## Sentences -/

def sentenceExtend : CharSet := .unions [graphemeExtend, spacingMark, joiner]

def sentenceSeparator : CharSet := .unions [⟨[(0x85, 0x85)]⟩, lineSeparator, paragraphSeparator]

def sentenceBlank : CharSet :=
  whiteSpace \ .unions [sentenceSeparator, carriageReturn, lineFeed]

def sentenceNumeric : CharSet := wordNumeric ∪ ⟨[(0x66c, 0x66c)]⟩

def sentenceFormat : CharSet := format \ .unions [graphemeExtend, joiner, sentenceNumeric]

/-- Georgian letters do not tell the beginning of a sentence by their case. -/
def sentenceLower : CharSet :=
  lowercase \ (graphemeExtend ∪ ⟨[(0x10d0, 0x10fa), (0x10fd, 0x10ff)]⟩)

def sentenceUpper : CharSet :=
  (uppercase ∪ titlecaseLetter) \ ⟨[(0x1c90, 0x1cba), (0x1cbd, 0x1cbf)]⟩

def sentenceLetter : CharSet :=
  (alphabetic \ .unions [sentenceLower, sentenceUpper, sentenceExtend]) ∪ ⟨[(0x5f3, 0x5f3)]⟩

def sentenceClose : CharSet :=
  .unions [openPunctuation, closePunctuation, initialPunctuation, finalPunctuation,
    sentenceCloseAside]

def sentenceClasses : List (List String × CharSet) := [
  (["cr"], carriageReturn), (["lf"], lineFeed), (["ex", "extend"], sentenceExtend),
  (["se", "sep"], sentenceSeparator), (["fo", "format"], sentenceFormat),
  (["sp"], sentenceBlank), (["lo", "lower"], sentenceLower), (["up", "upper"], sentenceUpper),
  (["le", "oletter"], sentenceLetter), (["nu", "numeric"], sentenceNumeric),
  (["at", "aterm"], ambiguousTerminal), (["sc", "scontinue"], sentenceContinue),
  (["st", "sterm"], sentenceTerminal \ ambiguousTerminal), (["cl", "close"], sentenceClose)]

/-- The class that a name asks for among some. -/
def ofName? (classes : List (List String × CharSet)) (name : String) : Option CharSet :=
  (classes.find? fun entry => entry.1.contains name).map Prod.snd

end Wayfinder.Unicode.Segmentation
