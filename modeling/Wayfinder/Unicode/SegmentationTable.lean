import Wayfinder.Unicode.CharSet
/-!
# Marks within and between words and sentences

The characters that the rules for graphemes, words and sentences name one by one.
-/

namespace Wayfinder.Unicode.SegmentationTable

/-- Marks that join letters within a word. -/
def midLetter : CharSet := ⟨[
  (0x3a, 0x3a), (0xb7, 0xb7), (0x387, 0x387), (0x55f, 0x55f), (0x5f4, 0x5f4), (0x2027, 0x2027),
  (0xfe13, 0xfe13), (0xfe55, 0xfe55), (0xff1a, 0xff1a)]⟩

/-- Marks that join digits within a number. -/
def midNumber : CharSet := ⟨[
  (0x2c, 0x2c), (0x3b, 0x3b), (0x37e, 0x37e), (0x589, 0x589), (0x60c, 0x60d), (0x66c, 0x66c),
  (0x7f8, 0x7f8), (0x2044, 0x2044), (0xfe50, 0xfe50), (0xfe54, 0xfe54), (0xff0c, 0xff0c),
  (0xff1b, 0xff1b)]⟩

/-- Marks that join letters or digits. -/
def midNumberOrLetter : CharSet := ⟨[
  (0x2e, 0x2e), (0x2018, 0x2019), (0x2024, 0x2024), (0xfe52, 0xfe52), (0xff07, 0xff07),
  (0xff0e, 0xff0e)]⟩

/-- Letters and signs that belong to the letter behind them. -/
def prependedLetter : CharSet := ⟨[
  (0xd4e, 0xd4e), (0x111c2, 0x111c3), (0x113d1, 0x113d1), (0x1193f, 0x1193f), (0x11941, 0x11941),
  (0x11a3a, 0x11a3a), (0x11a84, 0x11a89), (0x11d46, 0x11d46), (0x11f02, 0x11f02)]⟩

/-- Spacing marks that do not belong to the grapheme before them. -/
def detachedSpacingMark : CharSet := ⟨[
  (0x102b, 0x102c), (0x1038, 0x1038), (0x1062, 0x1064), (0x1067, 0x106d), (0x1083, 0x1083),
  (0x1087, 0x108c), (0x108f, 0x108f), (0x109a, 0x109c), (0x1a61, 0x1a61), (0x1a63, 0x1a64),
  (0xaa7b, 0xaa7b), (0xaa7d, 0xaa7d), (0x11720, 0x11721)]⟩

/-- Vowel letters that belong to the grapheme before them. -/
def attachedVowel : CharSet := ⟨[(0xe33, 0xe33), (0xeb3, 0xeb3)]⟩

/-- Leading consonants of Hangul syllables. -/
def leadingJamo : CharSet := ⟨[(0x1100, 0x115f), (0xa960, 0xa97c)]⟩

/-- Vowels of Hangul and Kirat Rai syllables. -/
def vowelJamo : CharSet := ⟨[
  (0x1160, 0x11a7), (0xd7b0, 0xd7c6), (0x16d63, 0x16d63), (0x16d67, 0x16d6a)]⟩

/-- Trailing consonants of Hangul syllables. -/
def trailingJamo : CharSet := ⟨[(0x11a8, 0x11ff), (0xd7cb, 0xd7fb)]⟩

/-- Characters that words treat as letters although they are not alphabetic. -/
def wordLetterAside : CharSet := ⟨[
  (0x2c2, 0x2c5), (0x2d2, 0x2d7), (0x2de, 0x2df), (0x2e5, 0x2eb), (0x2ed, 0x2ed), (0x2ef, 0x2ff),
  (0x55a, 0x55c), (0x55e, 0x55e), (0x58a, 0x58a), (0x5f3, 0x5f3), (0x70f, 0x70f), (0xa708, 0xa716),
  (0xa720, 0xa721), (0xa789, 0xa78a), (0xab5b, 0xab5b)]⟩

/-- Characters that words treat as Katakana although their script is another. -/
def katakanaAside : CharSet := ⟨[
  (0x3031, 0x3035), (0x309b, 0x309c), (0x30a0, 0x30a0), (0x30fc, 0x30fc), (0xff70, 0xff70)]⟩

/-- Characters that words treat as digits. -/
def wordNumericAside : CharSet := ⟨[
  (0x600, 0x605), (0x66b, 0x66b), (0x6dd, 0x6dd), (0x890, 0x891), (0x8e2, 0x8e2), (0x19da, 0x19da),
  (0x110bd, 0x110bd), (0x110cd, 0x110cd)]⟩

/-- Quotation marks that may close a sentence beside paired punctuation. -/
def sentenceCloseAside : CharSet := ⟨[
  (0x22, 0x22), (0x27, 0x27), (0x275b, 0x2760), (0x2e00, 0x2e01), (0x2e06, 0x2e08),
  (0x2e0b, 0x2e0b), (0x1f676, 0x1f678)]⟩

/-- Marks after which a sentence goes on. -/
def sentenceContinue : CharSet := ⟨[
  (0x2c, 0x2d), (0x3a, 0x3b), (0x37e, 0x37e), (0x55d, 0x55d), (0x60c, 0x60d), (0x7f8, 0x7f8),
  (0x1802, 0x1802), (0x1808, 0x1808), (0x2013, 0x2014), (0x3001, 0x3001), (0xfe10, 0xfe11),
  (0xfe13, 0xfe14), (0xfe31, 0xfe32), (0xfe50, 0xfe51), (0xfe54, 0xfe55), (0xfe58, 0xfe58),
  (0xfe63, 0xfe63), (0xff0c, 0xff0d), (0xff1a, 0xff1b), (0xff64, 0xff64)]⟩

/-- Full stops, which may end a sentence or an abbreviation. -/
def ambiguousTerminal : CharSet := ⟨[
  (0x2e, 0x2e), (0x2024, 0x2024), (0xfe52, 0xfe52), (0xff0e, 0xff0e)]⟩

end Wayfinder.Unicode.SegmentationTable
