import Wayfinder.Unicode.CaseFold
import Wayfinder.Unicode.Category
import Wayfinder.Unicode.PropertyTable
import Wayfinder.Unicode.SegmentationTable
/-!
# Binary properties

Properties that follow from general categories and contributory properties, and all binary properties by
their names. Names are in lower case and without separators.
-/

namespace Wayfinder.Unicode.Property

open Category CategoryTable PropertyTable SegmentationTable

def lowercase : CharSet := lowercaseLetter ∪ otherLowercase

def uppercase : CharSet := uppercaseLetter ∪ otherUppercase

def cased : CharSet := .unions [lowercase, uppercase, titlecaseLetter]

/-- Characters inside words that sentences do not look at when they look for cased ones. -/
def caseIgnorable : CharSet :=
  .unions [nonspacingMark, enclosingMark, format, modifierLetter, modifierSymbol,
    midLetter, midNumberOrLetter, .single '\'']

def alphabetic : CharSet := .unions [letter, letterNumber, otherAlphabetic]

def math : CharSet := mathSymbol ∪ otherMath

/-- Characters that notations keep for themselves. -/
def patternCharacter : CharSet := patternSyntax ∪ patternWhiteSpace

def idStart : CharSet := .unions [letter, letterNumber, otherIdStart] \ patternCharacter

def idContinue : CharSet :=
  .unions [idStart, nonspacingMark, spacingMark, decimalNumber, connectorPunctuation,
    otherIdContinue] \ patternCharacter

def xidStart : CharSet := idStart \ unstableIdStart

def xidContinue : CharSet := idContinue \ unstableIdContinue

def graphemeExtend : CharSet := .unions [nonspacingMark, enclosingMark, otherGraphemeExtend]

def graphemeBase : CharSet :=
  (.unions [other, lineSeparator, paragraphSeparator, graphemeExtend] : CharSet).compl

/-- Formats that show all the same. -/
def visibleFormat : CharSet :=
  prependedConcatenationMark ∪ ⟨[(0xfff9, 0xfffb), (0x13430, 0x13440)]⟩

def defaultIgnorable : CharSet :=
  .unions [otherDefaultIgnorable, format, variationSelector] \ visibleFormat

/-- Members of folding classes. -/
def folding : CharSet := .ofNats CaseFold.classes.flatten

def changesWhenLowercased : CharSet := (folding \ lowercase) ∪ lowercasedBesideFolding

def changesWhenUppercased : CharSet := (folding \ uppercase) ∪ uppercasedBesideFolding

def changesWhenTitlecased : CharSet := (changesWhenUppercased ∪ titlecasedOnly) \ uppercasedOnly

def changesWhenCasefolded : CharSet := (changesWhenLowercased ∪ casefoldedOnly) \ lowercasedOnly

def changesWhenCasemapped : CharSet :=
  .unions [changesWhenLowercased, changesWhenUppercased, changesWhenTitlecased]

/-- Characters of words. -/
def word : CharSet := .unions [alphabetic, mark, decimalNumber, connectorPunctuation, joinControl]

/-- Binary properties by each of their names. -/
def named : List (List String × CharSet) := [
  (["ahex", "asciihexdigit"], asciiHexDigit), (["alpha", "alphabetic"], alphabetic),
  (["bidic", "bidicontrol"], bidiControl), (["bidim", "bidimirrored"], bidiMirrored),
  (["ci", "caseignorable"], caseIgnorable), (["cased"], cased),
  (["cwcf", "changeswhencasefolded"], changesWhenCasefolded),
  (["cwcm", "changeswhencasemapped"], changesWhenCasemapped),
  (["cwl", "changeswhenlowercased"], changesWhenLowercased),
  (["cwt", "changeswhentitlecased"], changesWhenTitlecased),
  (["cwu", "changeswhenuppercased"], changesWhenUppercased),
  (["dash"], dash), (["di", "defaultignorablecodepoint"], defaultIgnorable),
  (["dep", "deprecated"], deprecated), (["dia", "diacritic"], diacritic), (["emoji"], emoji),
  (["ecomp", "emojicomponent"], emojiComponent), (["emod", "emojimodifier"], emojiModifier),
  (["ebase", "emojimodifierbase"], emojiModifierBase),
  (["epres", "emojipresentation"], emojiPresentation),
  (["extpict", "extendedpictographic"], extendedPictographic), (["ext", "extender"], extender),
  (["grbase", "graphemebase"], graphemeBase), (["grext", "graphemeextend"], graphemeExtend),
  (["grlink", "graphemelink"], graphemeLink), (["hex", "hexdigit"], hexDigit),
  (["hyphen"], hyphen), (["idsb", "idsbinaryoperator"], idsBinaryOperator),
  (["idst", "idstrinaryoperator"], idsTrinaryOperator),
  (["idsu", "idsunaryoperator"], idsUnaryOperator),
  (["idcompatmathcontinue"], idCompatMathContinue), (["idcompatmathstart"], idCompatMathStart),
  (["idc", "idcontinue"], idContinue), (["ids", "idstart"], idStart),
  (["ideo", "ideographic"], ideographic), (["joinc", "joincontrol"], joinControl),
  (["loe", "logicalorderexception"], logicalOrderException),
  (["lower", "lowercase"], lowercase), (["math"], math),
  (["mcm", "modifiercombiningmark"], modifierCombiningMark),
  (["nchar", "noncharactercodepoint"], noncharacter), (["oalpha", "otheralphabetic"], otherAlphabetic),
  (["odi", "otherdefaultignorablecodepoint"], otherDefaultIgnorable),
  (["ogrext", "othergraphemeextend"], otherGraphemeExtend),
  (["oidc", "otheridcontinue"], otherIdContinue), (["oids", "otheridstart"], otherIdStart),
  (["olower", "otherlowercase"], otherLowercase), (["omath", "othermath"], otherMath),
  (["oupper", "otheruppercase"], otherUppercase), (["patsyn", "patternsyntax"], patternSyntax),
  (["patws", "patternwhitespace"], patternWhiteSpace),
  (["pcm", "prependedconcatenationmark"], prependedConcatenationMark),
  (["qmark", "quotationmark"], quotationMark), (["radical"], radical),
  (["ri", "regionalindicator"], regionalIndicator), (["sterm", "sentenceterminal"], sentenceTerminal),
  (["sd", "softdotted"], softDotted), (["term", "terminalpunctuation"], terminalPunctuation),
  (["uideo", "unifiedideograph"], unifiedIdeograph), (["upper", "uppercase"], uppercase),
  (["vs", "variationselector"], variationSelector), (["space", "whitespace", "wspace"], whiteSpace),
  (["xidc", "xidcontinue"], xidContinue), (["xids", "xidstart"], xidStart)]

/-- The binary property that a name asks for. -/
def ofName? (name : String) : Option CharSet :=
  (named.find? fun entry => entry.1.contains name).map Prod.snd

end Wayfinder.Unicode.Property
