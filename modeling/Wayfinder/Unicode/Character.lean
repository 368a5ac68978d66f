import Wayfinder.Unicode.AdditionTable
import Wayfinder.Unicode.Property
/-!
# Characters of texts

What the rest of the library asks about single characters of texts. Here the latest additions count.
-/

namespace Wayfinder.Unicode

def isBlank (c : Char) : Bool := PropertyTable.whiteSpace.contains c

def isAlphabetic (c : Char) : Bool :=
  c.isAlpha || (c.toNat ≥ 0x80 &&
    (Property.alphabetic.contains c || AdditionTable.alphabetic.contains c))

def isNumeric (c : Char) : Bool :=
  c.isDigit || (c.toNat ≥ 0x80 && (Category.number.contains c || AdditionTable.number.contains c))

def isAlphanumeric (c : Char) : Bool := isAlphabetic c || isNumeric c

/-- Characters that would not be seen: controls, formats, separators other than the blank, characters
for private use, those that are not assigned, and those to be ignored where they cannot be shown. -/
def invisible : CharSet := .unions [Category.other, Category.separator, Property.defaultIgnorable]

/-- Whether a character shows as itself. -/
def isPrintable (c : Char) : Bool :=
  c == ' ' || !invisible.contains c || AdditionTable.visible.contains c

/-- Marks that stand on the character before them. Letters that do so too can be read alone. -/
def extendingMark : CharSet := Property.graphemeExtend ∩ Category.mark

def extendsGrapheme (c : Char) : Bool :=
  c.toNat ≥ 0x80 && (extendingMark.contains c || AdditionTable.graphemeExtend.contains c)

end Wayfinder.Unicode
