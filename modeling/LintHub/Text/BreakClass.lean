import LintHub.Text.BreakClass.Ranges

/-!
# Line breaking classes

A character belongs to one class of the Unicode line breaking rules, which say by classes
where a line may be broken. Letters of scripts whose rules need a dictionary count as
ordinary letters, and so do characters without a class of their own. A class is divided
where a rule looks at more than the class: quotation marks by the side on which they
stand, brackets by their width, and the circle that carries a mark apart.
-/

namespace LintHub.Text

/-- What a character does to the places before and behind it. -/
inductive BreakClass where
  /-- Ends a line. -/
  | hard
  /-- A carriage return. -/
  | return
  /-- A line feed. -/
  | feed
  | space
  /-- A place to break that has no width. -/
  | zeroWidthSpace
  /-- A mark on the character before it. -/
  | mark
  /-- Ties the characters around it. -/
  | joiner
  /-- Forbids breaks on both sides. -/
  | wordJoiner
  /-- A blank that does not break. -/
  | glue
  | opening
  /-- Opening punctuation of the width of an ideograph. -/
  | wideOpening
  | closing
  /-- A closing bracket or parenthesis. -/
  | closingBracket
  | quote
  /-- A quotation mark that only opens. -/
  | openingQuote
  /-- A quotation mark that only closes. -/
  | closingQuote
  /-- Must not begin a line. -/
  | nonStarter
  | exclamation
  /-- Allows breaks behind it, as the slash does. -/
  | divider
  /-- Separates parts of numbers. -/
  | separator
  /-- In front of numbers. -/
  | currency
  /-- Behind numbers. -/
  | percent
  | digit
  | letter
  | hebrewLetter
  /-- The circle on which marks are shown alone. -/
  | dottedCircle
  | ideograph
  | inseparable
  | hyphen
  | breakAfter
  | breakBefore
  /-- A long dash. -/
  | dash
  /-- Stands for an object in the text. -/
  | object
  /-- Half of a flag. -/
  | flag
  /-- Takes a colour of skin. -/
  | emojiBase
  /-- A colour of skin. -/
  | emojiModifier
  /-- A place kept for an emoji. -/
  | reservedEmoji
  /-- Begins a Korean syllable. -/
  | leadingConsonant
  | vowel
  /-- Ends a Korean syllable. -/
  | trailingConsonant
  /-- A Korean syllable that a consonant may end. -/
  | openSyllable
  /-- A Korean syllable with its last consonant. -/
  | closedSyllable
  /-- A letter of a script that is broken between syllables. -/
  | aksara
  /-- Such a letter that nothing joins to the next one. -/
  | aksaraStart
  /-- A sign before such a letter. -/
  | aksaraPrebase
  /-- Joins two such letters. -/
  | virama
  /-- Ends a syllable of such letters. -/
  | finalVirama
  deriving DecidableEq, Repr

namespace BreakClass

/-- The classes with the characters in them, the commonest letters first. -/
def table : List (BreakClass × CharRanges) :=
  [(letter, [(0x61, 0x7A), (0x41, 0x5A)]), (space, [(0x20, 0x20)]), (hyphen, [(0x2D, 0x2D)]),
   (divider, [(0x2F, 0x2F)]), (closingBracket, [(0x29, 0x29), (0x5D, 0x5D)]),
   (feed, [(0xA, 0xA)]), (.return, [(0xD, 0xD)]),
   (hard, [(0xB, 0xC), (0x85, 0x85), (0x2028, 0x2029)]), (digit, digits),
   (separator, separators), (opening, openings), (closing, closings), (quote, quotes),
   (openingQuote, openingQuotes), (closingQuote, closingQuotes), (exclamation, exclamations),
   (currency, currencies), (percent, percents), (glue, glues), (breakAfter, breaksAfter),
   (breakBefore, breaksBefore), (dash, [(0x2014, 0x2014), (0x2E3A, 0x2E3B)]),
   (zeroWidthSpace, [(0x200B, 0x200B)]), (joiner, [(0x200D, 0x200D)]),
   (wordJoiner, [(0x2060, 0x2060), (0xFEFF, 0xFEFF)]), (dottedCircle, [(0x25CC, 0x25CC)]),
   (inseparable, inseparables), (nonStarter, nonStarters), (wideOpening, wideOpenings),
   (hebrewLetter, hebrewLetters), (mark, marks), (ideograph, ideographs),
   (emojiBase, emojiBases), (emojiModifier, [(0x1F3FB, 0x1F3FF)]),
   (reservedEmoji, reservedEmojis), (flag, [(0x1F1E6, 0x1F1FF)]), (object, [(0xFFFC, 0xFFFC)]),
   (leadingConsonant, leadingConsonants), (vowel, vowels),
   (trailingConsonant, trailingConsonants), (aksara, aksaras), (aksaraStart, aksaraStarts),
   (aksaraPrebase, aksaraPrebases), (virama, viramas), (finalVirama, [(0x1BF2, 0x1BF3)])]

/-- The class of a character. Of the Korean syllables every twenty-eighth is open. -/
def ofChar (c : Char) : BreakClass :=
  if 0xAC00 ≤ c.toNat ∧ c.toNat ≤ 0xD7A3 then
    if (c.toNat - 0xAC00) % 28 = 0 then openSyllable else closedSyllable
  else ((table.find? (·.2.covers c)).map (·.1)).getD letter

/-- Whether a character ends a line, whatever follows. -/
def isHard : BreakClass → Bool
  | hard | .return | feed => true
  | _ => false

/-- Whether a character goes with the one before it. -/
def isMark : BreakClass → Bool
  | mark | joiner => true
  | _ => false

/-- Opening punctuation of any width. -/
def isOpening : BreakClass → Bool
  | opening | wideOpening => true
  | _ => false

/-- Quotation marks of any side. -/
def isQuote : BreakClass → Bool
  | quote | openingQuote | closingQuote => true
  | _ => false

/-- Letters that are held together to words. -/
def isLetter : BreakClass → Bool
  | letter | hebrewLetter | dottedCircle => true
  | _ => false

/-- Characters that are broken as ideographs are. -/
def isIdeograph : BreakClass → Bool
  | ideograph | emojiBase | emojiModifier | reservedEmoji => true
  | _ => false

/-- Korean syllables and their parts. -/
def isKorean : BreakClass → Bool
  | leadingConsonant | vowel | trailingConsonant | openSyllable | closedSyllable => true
  | _ => false

/-- Letters of scripts that are broken between syllables. -/
def isAksara : BreakClass → Bool
  | aksara | aksaraStart | dottedCircle => true
  | _ => false

end BreakClass

end LintHub.Text
