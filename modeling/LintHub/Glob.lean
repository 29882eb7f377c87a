import LintHub.Text.Lines
import LintHub.Text.SuffixRow

/-!
# Glob patterns

A pattern is a sequence of parts. `?` stands for one character, `*` for any run of
characters, `[…]` and `[!…]` for one character inside or outside a class; all of
these match separators too. `**` must be a whole component, takes the separator
behind it along and stands for any run of whole components, or for all the rest of
the text. A pattern that breaks these rules is no pattern at all.

* `Glob.parse?` reads a pattern, `Glob.Matches` says what it means and `Glob.accepts`
  decides it.
* `accepts_eq_matchesChars`: this is what one gets by trying all that a star may stand for.
-/

namespace LintHub

/-- One entry of a character class: the characters from `low` to `high`. -/
structure CharRange where
  low : Char
  high : Char
  deriving DecidableEq, Repr

/-- Whether a character lies in a class. -/
def CharRange.covers (ranges : List CharRange) (c : Char) : Bool :=
  ranges.any fun r => r.low ≤ c && c ≤ r.high

/-- One part of a pattern. -/
inductive GlobPart where
  /-- This character. -/
  | char (c : Char)
  /-- Any one character. -/
  | anyChar
  /-- Any run of characters. -/
  | anyRun
  /-- Any run of whole components. -/
  | anyComponents
  /-- One character of a class. -/
  | within (ranges : List CharRange)
  /-- One character outside a class. -/
  | except (ranges : List CharRange)
  deriving DecidableEq, Repr

/-- A well-formed pattern. -/
abbrev Glob := List GlobPart

namespace Glob

open Text.SuffixRow
open Text (SuffixRow)

/-- The entries of a class: `a-c` is a range, any other character stands for itself. -/
def classRanges : List Char → List CharRange
  | a :: '-' :: c :: cs => ⟨a, c⟩ :: classRanges cs
  | a :: cs => ⟨a, a⟩ :: classRanges cs
  | [] => []

/-- What stands before the next `]`, and what follows it. -/
def untilBracket? : List Char → Option (List Char × List Char)
  | [] => none
  | ']' :: cs => some ([], cs)
  | c :: cs => (untilBracket? cs).map fun r => (c :: r.1, r.2)

/-- The class behind a `[`, and what follows it. The first character of a class is
never its end. -/
def classPart? : List Char → Option (GlobPart × List Char)
  | '!' :: first :: cs =>
    (untilBracket? cs).map fun r => (.except (classRanges (first :: r.1)), r.2)
  | '!' :: [] => none
  | first :: cs => (untilBracket? cs).map fun r => (.within (classRanges (first :: r.1)), r.2)
  | [] => none

/-- A run of stars of this length. Two of them need a component's start in front,
and behind them a separator, which they take along, or the end. -/
def starPart? (atStart : Bool) : Nat → List Char → Option (GlobPart × List Char)
  | 1, rest => some (.anyRun, rest)
  | 2, rest =>
    if !atStart then none
    else match rest with
      | [] => some (.anyComponents, [])
      | '/' :: cs => some (.anyComponents, cs)
      | _ => none
  | _, _ => none

/-- The first part of a non-empty pattern, and what follows it. -/
def part? (atStart : Bool) : List Char → Option (GlobPart × List Char)
  | '?' :: cs => some (.anyChar, cs)
  | '*' :: cs =>
    starPart? atStart ((cs.takeWhile (· == '*')).length + 1) (cs.dropWhile (· == '*'))
  | '[' :: cs => classPart? cs
  | c :: cs => some (.char c, cs)
  | [] => none

/-- Whether a component starts behind this part of the pattern text. -/
def startsComponent (consumed : List Char) : Bool := consumed.getLast? == some '/'

/-- Reads parts; the number bounds the steps, each of which consumes a character. -/
def parts? : Nat → Bool → List Char → Option Glob
  | _, _, [] => some []
  | 0, _, _ :: _ => none
  | n + 1, atStart, c :: cs =>
    match part? atStart (c :: cs) with
    | none => none
    | some (part, rest) =>
      let consumed := (c :: cs).take ((c :: cs).length - rest.length)
      (parts? n (startsComponent consumed) rest).map (part :: ·)

/-- Reads a pattern. -/
def parse? (pattern : String) : Option Glob :=
  parts? pattern.toList.length true pattern.toList

/-- Whether a part that stands for one character stands for this one. -/
def GlobPart.accepts : GlobPart → Char → Bool
  | .char a, c => a == c
  | .anyChar, _ => true
  | .within ranges, c => CharRange.covers ranges c
  | .except ranges, c => !CharRange.covers ranges c
  | .anyRun, _ => false
  | .anyComponents, _ => false

/-- Whether a pattern matches a whole text: a star tries every end of it, and a double star
every end behind a separator. -/
def matchesChars : Glob → List Char → Bool
  | [], cs => cs.isEmpty
  | .anyRun :: ps, cs => runTest (fun _ => true) (matchesChars ps) cs
  | .anyComponents :: ps, cs =>
    matchesChars ps cs || behindTest (· == '/') (matchesChars ps) cs || matchesChars ps []
  | p :: ps, cs => oneTest (GlobPart.accepts p) (matchesChars ps) cs

/-- Whether a pattern matches each end of a text. -/
def row (cs : List Char) : Glob → SuffixRow
  | [] => ofTest List.isEmpty cs
  | .anyRun :: ps => run (fun _ => true) cs (row cs ps)
  | .anyComponents :: ps =>
    let rest := row cs ps
    (either rest (behind (· == '/') cs rest)).map (· || atEnd rest)
  | p :: ps => one (GlobPart.accepts p) cs (row cs ps)

/-- Whether a pattern matches a whole text. The work grows with the pattern times the
text, not with the number of ways in which stars may be filled. -/
def accepts (glob : Glob) (cs : List Char) : Bool := whole (row cs glob)

theorem row_eq_ofTest (glob : Glob) (cs : List Char) :
    row cs glob = ofTest (matchesChars glob) cs := by
  induction glob with
  | nil => rfl
  | cons p ps ih =>
    cases p <;>
      simp [row, matchesChars, ih, one_ofTest, run_ofTest, behind_ofTest, either_ofTest,
        map_ofTest]

theorem accepts_eq_matchesChars (glob : Glob) (cs : List Char) :
    accepts glob cs = matchesChars glob cs := by
  rw [accepts, row_eq_ofTest, whole_ofTest]

/-- What a pattern means. -/
inductive Matches : Glob → List Char → Prop where
  | nil : Matches [] []
  /-- A part for one character takes one that it accepts. -/
  | one (h : GlobPart.accepts p c = true) : Matches ps cs → Matches (p :: ps) (c :: cs)
  /-- A star takes any run of characters. -/
  | run (skipped : List Char) : Matches ps cs → Matches (.anyRun :: ps) (skipped ++ cs)
  /-- A double star may take nothing. -/
  | noComponent : Matches ps cs → Matches (.anyComponents :: ps) cs
  /-- A double star may take any text that ends in a separator. -/
  | components (skipped : List Char) :
      Matches ps cs → Matches (.anyComponents :: ps) (skipped ++ '/' :: cs)
  /-- A double star may take all the rest. -/
  | everything (rest : List Char) : Matches ps [] → Matches (.anyComponents :: ps) rest

end Glob
end LintHub
