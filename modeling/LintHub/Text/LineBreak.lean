import LintHub.Text.BreakClass

/-!
# Where a line may be broken

Between two characters a line may be broken or not, as the Unicode line breaking rules say
by the classes of the characters around: after blanks and hyphens, never before closing
punctuation, never inside a word or a number, between ideographs. `breaks` says it for
every character of a line.

The rules look at the character before a place and the one before that, over blanks where
a rule allows them, and in two cases at the character behind the next one.
-/

namespace LintHub.Text

/-- What is known of the text before a place. -/
structure BreakState where
  /-- The last character that is no blank, marks on it aside. -/
  last : BreakClass
  /-- The character before that one, marks on it aside, or nothing at the start. -/
  before : Option BreakClass
  /-- Whether blanks follow the last character. -/
  spaced : Bool
  /-- Whether the character right before the place ties what surrounds it. -/
  joined : Bool
  /-- Whether an odd number of halves of flags ends here. -/
  oddFlags : Bool

namespace BreakState

open BreakClass

/-- Whether a character is a mark on the one before. -/
def holdsMark (s : BreakState) (b : BreakClass) : Bool :=
  b.isMark && !s.spaced && !s.last.isHard && s.last != zeroWidthSpace

/-- The class that counts: a mark without a character counts as a letter. -/
def effective (s : BreakState) (b : BreakClass) : BreakClass :=
  if b.isMark && !s.holdsMark b then letter else b

/-- The class of the next character behind marks, or nothing at the end. -/
def follower : List Char → Option BreakClass
  | [] => none
  | c :: cs =>
    let b := BreakClass.ofChar c
    if b.isMark then follower cs else some b

/-- Whether an opening quotation mark behind this character opens: at the start, behind
blanks and behind what opens. -/
def letsOpen : Option BreakClass → Bool
  | none => true
  | some b => b.isHard || b.isOpening || b.isQuote || [glue, space, zeroWidthSpace].contains b

/-- Whether a closing quotation mark before this character closes: at the end, before
blanks and before what closes. -/
def letsClose : Option BreakClass → Bool
  | none => true
  | some b =>
    b.isHard || b.isQuote || [space, glue, wordJoiner, closing, closingBracket, exclamation,
      separator, divider, zeroWidthSpace].contains b

/-- Whether two characters that stand side by side are parts of one number. -/
def holdsNumber (a b : BreakClass) : Bool :=
  match a, b with
  | closing, percent | closing, currency | closingBracket, percent | closingBracket, currency
  | digit, percent | digit, currency | percent, digit | currency, digit
  | hyphen, digit | separator, digit | digit, digit | divider, digit => true
  | percent, b | currency, b => b.isOpening
  | _, _ => false

/-- Whether two characters that stand side by side are parts of one Korean syllable. -/
def holdsSyllable (a b : BreakClass) : Bool :=
  match a, b with
  | leadingConsonant, leadingConsonant | leadingConsonant, vowel
  | leadingConsonant, openSyllable | leadingConsonant, closedSyllable => true
  | vowel, vowel | vowel, trailingConsonant => true
  | openSyllable, vowel | openSyllable, trailingConsonant => true
  | trailingConsonant, trailingConsonant | closedSyllable, trailingConsonant => true
  | _, _ => false

/-- Whether two characters that stand side by side are parts of one word. -/
def holdsWord (a b : BreakClass) : Bool :=
  (a.isLetter && (b.isLetter || b == digit || b == currency || b == percent || b == opening))
    || (b.isLetter && (a == digit || a == currency || a == percent || a == separator
      || a == closingBracket))
    || (b == opening && a == digit) || (a == closingBracket && b == digit)
    || (a == divider && b == hebrewLetter)

/-- Whether two characters that stand side by side go together as ideographs, emoji and
Korean syllables do with what surrounds them. -/
def holdsIdeograph (a b : BreakClass) : Bool :=
  ((a.isIdeograph || a.isKorean) && b == percent)
    || (a == currency && (b.isIdeograph || b.isKorean))
    || holdsSyllable a b
    || ((a == emojiBase || a == reservedEmoji) && b == emojiModifier)

/-- Whether letters of a script that is broken between syllables are parts of one syllable.
The second letter may be the start of the next syllable but for a virama behind it. -/
def holdsAksara (before : Option BreakClass) (a b : BreakClass) (rest : List Char) : Bool :=
  (a == aksaraPrebase && b.isAksara)
    || (a.isAksara && (b == finalVirama || b == virama))
    || (a == virama && (b == aksara || b == dottedCircle) && (before.map isAksara).getD false)
    || (a.isAksara && b.isAksara && follower rest == some finalVirama)

/-- Whether two characters that stand side by side are held together. -/
def clings (s : BreakState) (b : BreakClass) (rest : List Char) : Bool :=
  let a := s.last
  if a.isQuote || b.isQuote then true
  else if a == object || b == object then false
  else if b == breakAfter || b == hyphen || b == nonStarter || b == inseparable then true
  else if a == breakBefore then true
  else if s.before == some hebrewLetter && (a == hyphen || a == breakAfter) then true
  else holdsWord a b || holdsNumber a b || holdsIdeograph a b || holdsAksara s.before a b rest
    || (a == flag && b == flag && s.oddFlags)

/-- Whether a line may be broken here, before a character of this class and the rest of
the line behind it. -/
def mayBreak (s : BreakState) (b : BreakClass) (rest : List Char) : Bool :=
  if s.last.isHard && !s.spaced then !(s.last == .return && b == feed)
  else if b.isHard || b == space || b == zeroWidthSpace then false
  else if s.last == zeroWidthSpace then true
  else if s.joined || s.holdsMark b then false
  else
    let b := s.effective b
    if b == wordJoiner || (s.last == wordJoiner && !s.spaced) then false
    else if s.last == glue && !s.spaced then false
    else if b == glue && !s.spaced && s.last != breakAfter && s.last != hyphen then false
    else if [closing, closingBracket, exclamation, separator, divider].contains b then false
    else if s.last.isOpening then false
    else if s.last == openingQuote && letsOpen s.before then false
    else if b == closingQuote && letsClose (follower rest) then false
    else if (s.last == closing || s.last == closingBracket) && b == nonStarter then false
    else if s.last == dash && b == dash then false
    else s.spaced || !s.clings b rest

/-- What is known behind a character. -/
def after (s : BreakState) (b : BreakClass) : BreakState :=
  if b == space then { s with spaced := true, joined := false }
  else if s.holdsMark b then { s with joined := b == joiner }
  else
    { last := s.effective b
      before := some (if s.spaced then space else s.last)
      spaced := false
      joined := b == joiner
      oddFlags := b == flag && !(s.last == flag && !s.spaced && s.oddFlags) }

/-- The state behind the first character of a line. -/
def start (b : BreakClass) : BreakState :=
  if b == space then ⟨wordJoiner, none, true, false, false⟩
  else ⟨if b.isMark then letter else b, none, false, b == joiner, b == flag⟩

end BreakState

/-- For each character whether a line may be broken before it. -/
def breaksFrom (s : BreakState) : List Char → List Bool
  | [] => []
  | c :: cs =>
    let b := BreakClass.ofChar c
    s.mayBreak b cs :: breaksFrom (s.after b) cs

/-- For each character of a line whether the line may be broken before it. -/
def breaks : List Char → List Bool
  | [] => []
  | c :: cs => false :: breaksFrom (.start (BreakClass.ofChar c)) cs

end LintHub.Text
