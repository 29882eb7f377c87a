import LintHub.Text.SuffixRow
import LintHub.Text.Utf8

/-!
# Patterns of ignore rules

A pattern is matched against the bytes of a path relative to the directory of its rule.
`*` and `?` stay within one name; two stars that are a whole name stand for any number
of names; classes and groups of alternatives are allowed, and a backslash makes the
next character stand for itself.

* `rowSequence_append`: what is written one behind the other is matched one behind the
  other.
-/

namespace LintHub.Ignore

open Text.SuffixRow
open Text (SuffixRow)

/-- One part of a pattern. -/
inductive Part where
  /-- This byte. -/
  | byte (b : UInt8)
  /-- Any byte but a separator. -/
  | anyByte
  /-- Any bytes but separators. -/
  | run
  /-- Any number of names at the front, each with its separator. -/
  | leading
  /-- A separator and anything behind it. -/
  | trailing
  /-- A separator, any number of names, each with its separator. -/
  | between
  /-- Anything at all. -/
  | everything
  /-- A byte in one of the ranges, or in none of them. -/
  | oneOf (negated : Bool) (ranges : List (UInt8 × UInt8))
  /-- One of these sequences of parts. A group without any stands for nothing. -/
  | group (branches : List (List Part))
  deriving Repr

/-- A pattern: its parts from the front to the end. -/
abbrev Pattern := List Part

/-- The separator of names. -/
def slash : UInt8 := 47

/-- Whether a byte is no separator. -/
def isNameByte (b : UInt8) : Bool := b != slash

namespace Part

/-- Whether a part matches this one byte. -/
def acceptsByte : Part → UInt8 → Bool
  | byte b, c => b == c
  | anyByte, c => isNameByte c
  | oneOf negated ranges, c => (ranges.any fun r => r.1 ≤ c && c ≤ r.2) != negated
  | _, _ => false

/-- Whether a part stands for nothing. -/
def isVoid : Part → Bool
  | group branches => branches.isEmpty
  | _ => false

end Part

/-- For each end of the bytes whether nothing or some names with their separators can be
taken away so that what is left passes. -/
def namesRow (bs : Bytes) (rest : SuffixRow) : SuffixRow :=
  either rest (behind (· == slash) bs rest)

mutual

/-- For each end of the bytes whether a part matches at its front and what is left
passes. -/
def Part.row (bs : Bytes) : Part → SuffixRow → SuffixRow
  | .run, rest => Text.SuffixRow.run isNameByte bs rest
  | .leading, rest => namesRow bs rest
  | .everything, rest => Text.SuffixRow.run (fun _ => true) bs rest
  | .trailing, rest => one (· == slash) bs (Text.SuffixRow.run (fun _ => true) bs rest)
  | .between, rest => one (· == slash) bs (namesRow bs rest)
  | .group [], rest => rest
  | .group (branch :: branches), rest => rowBranches bs (branch :: branches) rest
  | p, rest => one p.acceptsByte bs rest

/-- The same of parts one behind the other. -/
def rowSequence (bs : Bytes) : List Part → SuffixRow → SuffixRow
  | [], rest => rest
  | p :: ps, rest => p.row bs (rowSequence bs ps rest)

/-- The same of the branches of a group. -/
def rowBranches (bs : Bytes) : List (List Part) → SuffixRow → SuffixRow
  | [], rest => rest.map fun _ => false
  | b :: branches, rest => either (rowSequence bs b rest) (rowBranches bs branches rest)

end

theorem rowSequence_append (bs : Bytes) (ps qs : List Part) (rest : SuffixRow) :
    rowSequence bs (ps ++ qs) rest = rowSequence bs ps (rowSequence bs qs rest) := by
  induction ps with
  | nil => simp [rowSequence]
  | cons p ps ih => simp [rowSequence, ih]

/-- Whether a pattern matches all of the bytes. -/
def Pattern.accepts (p : Pattern) (bs : Bytes) : Bool :=
  whole (rowSequence bs p (ofTest List.isEmpty bs))

/-- Why a text is no pattern. -/
inductive PatternFault where
  /-- A range that ends before it begins. -/
  | invalidRange (first last : Char)
  /-- A closing brace without an opening one. -/
  | unopenedGroup
  /-- An opening brace without a closing one. -/
  | unclosedGroup
  /-- A backslash at the end. -/
  | danglingEscape
  deriving DecidableEq, Repr

/-- The text of a fault. -/
def PatternFault.message : PatternFault → String
  | .invalidRange first last =>
    "invalid range; '" ++ first.toString ++ "' > '" ++ last.toString ++ "'"
  | .unopenedGroup =>
    "unopened alternate group; missing '\x7b' (maybe escape '\x7d' with '[\x7d]'?)"
  | .unclosedGroup =>
    "unclosed alternate group; missing '\x7d' (maybe escape '\x7b' with '[\x7b]'?)"
  | .danglingEscape => "dangling '\\'"

namespace Pattern

/-- The bytes of a character. -/
def bytesOf (c : Char) : Bytes := Text.encode [c]

/-- A range of characters as ranges of bytes. A character of several bytes counts as
those bytes, of which the ends of the range take part in it. -/
def byteRanges (first last : Char) : List (UInt8 × UInt8) :=
  let single (b : UInt8) : UInt8 × UInt8 := (b, b)
  if first = last then (bytesOf first).map single
  else match (bytesOf first).reverse, bytesOf last with
    | low :: before, high :: after =>
      before.reverse.map single ++ (low, high) :: after.map single
    | _, _ => []

/-- A class while it is read. -/
structure ClassState where
  /-- The ranges so far, the last one first. -/
  ranges : List (Char × Char)
  /-- Whether a `-` has just been read behind a character. -/
  inRange : Bool

/-- Ends the range that has been begun at a character. -/
def ClassState.close (s : ClassState) (last : Char) : Except PatternFault ClassState :=
  match s.ranges with
  | (first, _) :: rest =>
    if last < first then .error (.invalidRange first last) else .ok ⟨(first, last) :: rest, false⟩
  | [] => .ok ⟨[(last, last)], false⟩

/-- Reads the rest of a class and counts its characters; nothing if it does not end. -/
def readClass (s : ClassState) (count : Nat) :
    List Char → Except PatternFault (Option (List (Char × Char) × Nat))
  | [] => .ok none
  | c :: cs =>
    if c = ']' ∧ count ≠ 0 then
      .ok (some ((if s.inRange then ('-', '-') :: s.ranges else s.ranges).reverse, count + 1))
    else if c = '-' ∧ count ≠ 0 ∧ !s.inRange then readClass ⟨s.ranges, true⟩ (count + 1) cs
    else if s.inRange then
      match s.close c with
      | .ok s => readClass s (count + 1) cs
      | .error e => .error e
    else readClass ⟨(c, c) :: s.ranges, false⟩ (count + 1) cs

/-- Reads a class behind its opening bracket and counts its characters. -/
def class? (cs : List Char) : Except PatternFault (Option (Part × Nat)) := do
  let negated := cs.head? == some '!' || cs.head? == some '^'
  let skipped := if negated then 1 else 0
  let r ← readClass ⟨[], false⟩ 0 (cs.drop skipped)
  return r.map fun (ranges, count) =>
    (.oneOf negated (ranges.flatMap fun r => byteRanges r.1 r.2), count + skipped)

/-- A branch of a group, or the whole pattern, while it is read: the parts so far, the
last one first. -/
abbrev Branch := List Part

/-- Adds a group behind a branch. Branches of it that stand for nothing do not count. -/
def Branch.addGroup (b : Branch) (branches : List Branch) : Branch :=
  .group ((branches.map List.reverse).filter fun ps => !ps.all Part.isVoid) :: b

/-- A pattern while it is read. -/
structure State where
  current : Branch
  /-- The open groups, the inner one first: the branch that holds the group, and the
  branches of the group that are complete. -/
  groups : List (Branch × List Branch)
  /-- Whether some class did not end; then brackets stand for themselves. -/
  plainBrackets : Bool

/-- Adds parts to the branch that is being read. -/
def State.add (s : State) (parts : List Part) : State :=
  { s with current := parts.reverse ++ s.current }

/-- Adds a character that stands for itself. -/
def State.literal (s : State) (c : Char) : State := s.add ((bytesOf c).map .byte)

/-- Two stars behind something: any number of names if they are a whole name. Counts
the characters that are used up behind the stars. -/
def State.doubleStar (s : State) (prev : Option Char) (rest : List Char) : State × Nat :=
  let plain : State × Nat := (s.add [.run, .run], 0)
  let isNameStart := prev == some '/' ||
    (!s.groups.isEmpty && (prev == some ',' || prev == some '{'))
  let replace (asSuffix : Bool) : State :=
    match s.current with
    | .leading :: b => { s with current := .leading :: b }
    | .trailing :: b => { s with current := .trailing :: b }
    | b => { s with current := (if asSuffix then .trailing else .between) :: b.tail }
  if s.current.isEmpty then
    match rest with
    | [] => (s.add [.leading], 0)
    | '/' :: _ => (s.add [.leading], 1)
    | _ => plain
  else if !isNameStart then plain
  else match rest with
    | [] => (replace true, 0)
    | '/' :: _ => (replace false, 1)
    | c :: _ => if (c = ',' ∨ c = '}') ∧ !s.groups.isEmpty then (replace true, 0) else plain

/-- Reads one character, knowing the one before and those behind. Counts how many of
those behind are used up as well. -/
def State.step (s : State) (prev : Option Char) (c : Char) (rest : List Char) :
    Except PatternFault (State × Nat) :=
  match c with
  | '?' => .ok (s.add [.anyByte], 0)
  | '*' =>
    match rest with
    | '*' :: rest =>
      let (s, used) := s.doubleStar prev rest
      .ok (s, used + 1)
    | _ => .ok (s.add [.run], 0)
  | '[' =>
    if s.plainBrackets then .ok (s.literal c, 0)
    else match class? rest with
      | .error e => .error e
      | .ok none => .ok ({ s with plainBrackets := true }.literal c, 0)
      | .ok (some (part, used)) => .ok (s.add [part], used)
  | '{' => .ok ({ s with current := [], groups := (s.current, []) :: s.groups }, 0)
  | '}' =>
    match s.groups with
    | [] => .error .unopenedGroup
    | (outer, done) :: groups =>
      .ok ({ s with current := Branch.addGroup outer (done ++ [s.current]), groups := groups }, 0)
  | ',' =>
    match s.groups with
    | [] => .ok (s.literal c, 0)
    | (outer, done) :: groups =>
      .ok ({ s with current := [], groups := (outer, done ++ [s.current]) :: groups }, 0)
  | '\\' =>
    match rest with
    | [] => .error .danglingEscape
    | d :: _ => .ok (s.literal d, 1)
  | c => .ok (s.literal c, 0)

/-- Reads on; the number says how many characters are used up already. -/
def readFrom (s : State) (prev : Option Char) : Nat → List Char → Except PatternFault State
  | _, [] => .ok s
  | n + 1, c :: cs => readFrom s (some c) n cs
  | 0, c :: cs =>
    match s.step prev c cs with
    | .ok (s, n) => readFrom s (some c) n cs
    | .error e => .error e

/-- Reads a pattern. One that consists of two stars matches everything. -/
def parse (cs : List Char) : Except PatternFault Pattern := do
  let s ← readFrom ⟨[], [], false⟩ none 0 cs
  if !s.groups.isEmpty then throw .unclosedGroup
  match s.current with
  | [.leading] => return [.everything]
  | parts => return parts.reverse

end Pattern
end LintHub.Ignore
