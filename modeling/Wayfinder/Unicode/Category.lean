import Wayfinder.Unicode.CategoryTable
/-!
# General categories

Groups of general categories, and categories and groups by their names. Names are in lower case and
without separators.
-/

namespace Wayfinder.Unicode.Category

open CategoryTable

def casedLetter : CharSet := .unions [uppercaseLetter, lowercaseLetter, titlecaseLetter]

def letter : CharSet := .unions [casedLetter, modifierLetter, otherLetter]

def mark : CharSet := .unions [nonspacingMark, spacingMark, enclosingMark]

def number : CharSet := .unions [decimalNumber, letterNumber, otherNumber]

def punctuation : CharSet :=
  .unions [connectorPunctuation, dashPunctuation, openPunctuation, closePunctuation,
    initialPunctuation, finalPunctuation, otherPunctuation]

def symbol : CharSet := .unions [mathSymbol, currencySymbol, modifierSymbol, otherSymbol]

def separator : CharSet := .unions [spaceSeparator, lineSeparator, paragraphSeparator]

def assigned : CharSet :=
  .unions [letter, mark, number, punctuation, symbol, separator, control, format, privateUse]

def unassigned : CharSet := assigned.compl

/-- Controls, formats, characters for private use and those that are not assigned. -/
def other : CharSet := .unions [control, format, privateUse, unassigned]

/-- Categories and groups of categories by each of their names. Surrogates are no characters, so their
category has no name here. -/
def named : List (List String × CharSet) := [
  (["lu", "uppercaseletter"], uppercaseLetter), (["ll", "lowercaseletter"], lowercaseLetter),
  (["lt", "titlecaseletter"], titlecaseLetter), (["lc", "casedletter"], casedLetter),
  (["lm", "modifierletter"], modifierLetter), (["lo", "otherletter"], otherLetter),
  (["l", "letter"], letter),
  (["mn", "nonspacingmark"], nonspacingMark), (["mc", "spacingmark"], spacingMark),
  (["me", "enclosingmark"], enclosingMark), (["m", "mark", "combiningmark"], mark),
  (["nd", "decimalnumber", "digit"], decimalNumber), (["nl", "letternumber"], letterNumber),
  (["no", "othernumber"], otherNumber), (["n", "number"], number),
  (["pc", "connectorpunctuation"], connectorPunctuation),
  (["pd", "dashpunctuation"], dashPunctuation), (["ps", "openpunctuation"], openPunctuation),
  (["pe", "closepunctuation"], closePunctuation),
  (["pi", "initialpunctuation"], initialPunctuation),
  (["pf", "finalpunctuation"], finalPunctuation),
  (["po", "otherpunctuation"], otherPunctuation), (["p", "punct", "punctuation"], punctuation),
  (["sm", "mathsymbol"], mathSymbol), (["sc", "currencysymbol"], currencySymbol),
  (["sk", "modifiersymbol"], modifierSymbol), (["so", "othersymbol"], otherSymbol),
  (["s", "symbol"], symbol),
  (["zs", "spaceseparator"], spaceSeparator), (["zl", "lineseparator"], lineSeparator),
  (["zp", "paragraphseparator"], paragraphSeparator), (["z", "separator"], separator),
  (["cc", "cntrl", "control"], control), (["cf", "format"], format),
  (["co", "privateuse"], privateUse), (["cn", "unassigned"], unassigned), (["c", "other"], other),
  (["any"], .full), (["assigned"], assigned), (["ascii"], ⟨[(0, 0x7f)]⟩)]

/-- The category or group that a name asks for. -/
def ofName? (name : String) : Option CharSet :=
  (named.find? fun entry => entry.1.contains name).map Prod.snd

end Wayfinder.Unicode.Category
