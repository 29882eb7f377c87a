import LintHub.Text.Lines
import LintHub.Text.LineBreak
import LintHub.Text.Width
import LintHub.Text.Alphanumeric

/-!
# Wrapping text

A text is cut into words where a line may be broken, and each line takes as many words
as fit into it. A hyphen inside a word is a place to break only between letters or
digits, and a word that is longer than a line is cut. Blanks between two lines are
dropped. Terminal sequences have no width and are not cut.

* `fill` puts one indent before the first line and another before all others.
-/

namespace LintHub.Text

/-- A piece of a text with a width of its own: a character or a terminal sequence. -/
structure Piece where
  chars : List Char
  width : Nat
  deriving DecidableEq, Repr

/-- How far a terminal sequence has been read. -/
inductive SequenceState where
  /-- Not inside one. -/
  | outside
  /-- Behind its first character. -/
  | begun
  /-- Inside a control sequence, which a letter or the like ends. -/
  | control
  /-- Inside a command, which a bell or a backslash behind an escape ends. -/
  | command (last : Char)

/-- The character that begins a terminal sequence. -/
def escapeChar : Char := Char.ofNat 0x1B

/-- The pieces of a text, reading on with the begun sequence in reverse. -/
def piecesFrom (state : SequenceState) (begun : List Char) : List Char → List Piece
  | [] => if begun.isEmpty then [] else [⟨begun.reverse, 0⟩]
  | c :: cs =>
    let finish : List Piece := ⟨(c :: begun).reverse, 0⟩ :: piecesFrom .outside [] cs
    match state with
    | .outside =>
      if c = escapeChar then piecesFrom .begun [c] cs
      else ⟨[c], charWidth c⟩ :: piecesFrom .outside [] cs
    | .begun =>
      if c = '[' then piecesFrom .control (c :: begun) cs
      else if c = ']' then piecesFrom (.command c) (c :: begun) cs
      else finish
    | .control =>
      if 0x40 ≤ c.toNat ∧ c.toNat ≤ 0x7E then finish else piecesFrom .control (c :: begun) cs
    | .command last =>
      if c = Char.ofNat 7 ∨ (c = '\\' ∧ last = escapeChar) then finish
      else piecesFrom (.command c) (c :: begun) cs

/-- The pieces of a text. -/
def pieces (cs : List Char) : List Piece := piecesFrom .outside [] cs

/-- Whether a piece is a terminal sequence. -/
def Piece.isSequence (p : Piece) : Bool := p.chars.head? == some escapeChar

/-- How many columns pieces take. -/
def piecesWidth : List Piece → Nat
  | [] => 0
  | p :: ps => p.width + piecesWidth ps

/-- How many columns a text takes. -/
def textWidth (cs : List Char) : Nat := piecesWidth (pieces cs)

/-- A word with the blanks behind it. -/
structure Word where
  text : List Char
  blanks : List Char
  width : Nat
  deriving DecidableEq, Repr

/-- A word without blanks. -/
def Word.bare (text : List Char) : Word := ⟨text, [], textWidth text⟩

/-- The word that a stretch of a line holds. -/
def Word.ofStretch (cs : List Char) : Word :=
  let text := (cs.reverse.dropWhile (· == ' ')).reverse
  ⟨text, cs.drop text.length, textWidth text⟩

/-- Drops the last break of a line. -/
def dropLastBreak (bs : List Bool) : List Bool :=
  match bs.reverse.span (!·) with
  | (after, _ :: before) => before.reverse ++ false :: after.reverse
  | (_, []) => bs

/-- The places where words begin, for each visible character of a line: those where it
may be broken, behind a hyphen or a soft hyphen aside. A hyphen that ends the line takes
the last of them. -/
def wordStarts (visible : List Char) : List Bool :=
  let isHyphen (c : Char) : Bool := c == '-' || c == Char.ofNat 0xAD
  let starts := ((breaks visible).zip (' ' :: visible)).map fun x => x.1 && !isHyphen x.2
  if (visible.getLast?.map isHyphen).getD false then dropLastBreak starts else starts

/-- Cuts pieces into stretches before the characters marked; a terminal sequence goes
with the character behind it. The stretch begun and the sequences before the next
character come in reverse. -/
def stretches (stretch pending : List Char) : List Bool → List Piece → List (List Char)
  | bs, p :: ps =>
    if p.isSequence then stretches stretch (p.chars.reverse ++ pending) bs ps
    else
      let (start, bs) := match bs with
        | b :: bs => (b, bs)
        | [] => (false, [])
      if start then stretch.reverse :: stretches (p.chars.reverse ++ pending) [] bs ps
      else stretches (p.chars.reverse ++ (pending ++ stretch)) [] bs ps
  | _, [] => if (pending ++ stretch).isEmpty then [] else [(pending ++ stretch).reverse]

/-- The words of a line. -/
def words (line : List Char) : List Word :=
  let ps := pieces line
  let visible := (ps.filter (!·.isSequence)).flatMap (·.chars)
  (stretches [] [] (wordStarts visible) ps).map Word.ofStretch

/-- Cuts a word behind each hyphen that stands between letters or digits. The part begun
comes in reverse. -/
def hyphenParts (part : List Char) (prev : Option Char) : List Char → List (List Char)
  | '-' :: c :: cs =>
    if (prev.map isAlphanumeric).getD false && isAlphanumeric c then
      ('-' :: part).reverse :: hyphenParts [] (some '-') (c :: cs)
    else hyphenParts ('-' :: part) (some '-') (c :: cs)
  | c :: cs => hyphenParts (c :: part) (some c) cs
  | [] => [part.reverse]

/-- The parts of a word between its hyphens; the last one keeps the blanks. -/
def Word.splitHyphens (w : Word) : List Word :=
  match (hyphenParts [] none w.text).reverse with
  | last :: before => (before.reverse.map Word.bare) ++ [⟨last, w.blanks, textWidth last⟩]
  | [] => [w]

/-- Cuts pieces into parts that fit into a line. -/
def fitParts (limit : Nat) (part : List Char) (width : Nat) : List Piece → List (List Char × Nat)
  | [] => if part.isEmpty then [] else [(part, width)]
  | p :: ps =>
    if !p.isSequence && 0 < width && limit < width + p.width then
      (part, width) :: fitParts limit p.chars p.width ps
    else fitParts limit (part ++ p.chars) (width + p.width) ps

/-- A word as parts that fit into a line; the last one keeps the blanks. -/
def Word.splitLong (limit : Nat) (w : Word) : List Word :=
  if w.width ≤ limit then [w]
  else match (fitParts limit [] 0 (pieces w.text)).reverse with
    | (last, width) :: before =>
      (before.reverse.map fun x => ⟨x.1, [], x.2⟩) ++ [⟨last, w.blanks, width⟩]
    | [] => [w]

/-- Puts words into lines of at most so many columns, as many into each as fit. The line
begun comes in reverse. -/
def firstFit (limit : Nat) (line : List Word) (width : Nat) : List Word → List (List Word)
  | [] => [line.reverse]
  | w :: ws =>
    if limit < width + w.width ∧ !line.isEmpty then
      line.reverse :: firstFit limit [w] (w.width + w.blanks.length) ws
    else firstFit limit (w :: line) (width + w.width + w.blanks.length) ws

/-- The text of a line of words, without the blanks at its end. -/
def lineText (line : List Word) : List Char :=
  match line.reverse with
  | last :: before => (before.reverse.flatMap fun w => w.text ++ w.blanks) ++ last.text
  | [] => []

/-- The lines into which a line is wrapped. The first word may be pushed off the first
line, which then is empty. -/
def wrapLine (limit : Nat) (line : List Char) : List (List Char) :=
  let ws := (words line).flatMap fun w => w.splitHyphens.flatMap (Word.splitLong limit)
  (firstFit limit [] 0 (Word.bare [] :: ws)).map lineText

/-- Wraps a text, with an indent before the first line and one before all others, both
of the same width. -/
def fill (width : Nat) (first other : String) (text : String) : String :=
  let limit := width - textWidth first.toList
  let ls := (fields '\n' text.toList).flatMap (wrapLine limit)
  match ls with
  | [] => first
  | l :: ls =>
    first ++ String.ofList l ++ String.join (ls.map fun l => "\n" ++ other ++ String.ofList l)

end LintHub.Text
