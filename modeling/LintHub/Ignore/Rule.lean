import LintHub.Ignore.Pattern
import LintHub.Text.Blank
import LintHub.Text.Lines

/-!
# Ignore rules

A rule file has one rule on a line. `#` begins a comment and `!` a rule that keeps what
it matches; a separator at the end asks for a directory, one at the front or in the
middle ties the rule to the directory of its file. Of the rules that match, the last
one decides. A line that is no pattern is a fault and has no other effect; what is not
UTF-8 ends the file.
-/

namespace LintHub.Ignore

/-- One rule. -/
structure Rule where
  pattern : Pattern
  /-- Whether what matches is kept. -/
  keeps : Bool
  /-- Whether only directories match. -/
  directoriesOnly : Bool
  deriving Repr

/-- What is wrong with a line. -/
inductive LineFault where
  /-- The text, without blanks at its end, is no pattern. -/
  | pattern (text : String) (cause : PatternFault)
  /-- The line is not UTF-8. -/
  | notText
  deriving DecidableEq, Repr

/-- The text of a fault. -/
def LineFault.message : LineFault → String
  | .pattern text cause => "error parsing glob '" ++ text ++ "': " ++ cause.message
  | .notText => "stream did not contain valid UTF-8"

namespace Rule

/-- A line without the blanks at its end; an escaped blank there is kept. -/
def trimLine (line : List Char) : List Char :=
  if line.reverse.take 2 = [' ', '\\'] then line else Text.trimEnd line

/-- Drops a separator at the end, escaped or not. -/
def dropSlash (cs : List Char) : List Char × Bool :=
  match cs.reverse with
  | '/' :: '\\' :: rest => (rest.reverse, true)
  | '/' :: rest => (rest.reverse, true)
  | _ => (cs, false)

/-- The text that is read as a pattern: a rule that is not tied to its directory holds
at any depth, and one for everything in a directory does not hold for the directory. -/
def patternText (isTied : Bool) (cs : List Char) : List Char :=
  let atAnyDepth := !isTied && !cs.contains '/' && cs != ['*', '*']
  let cs := if atAnyDepth then '*' :: '*' :: '/' :: cs else cs
  if ['/', '*', '*'].isSuffixOf cs then cs ++ ['/', '*'] else cs

/-- The rule that a trimmed line holds, which is not empty and no comment. -/
def parse (line : List Char) : Except PatternFault Rule := do
  let (keeps, isTied, cs) :=
    match line with
    | '\\' :: '!' :: cs => (false, false, '!' :: cs)
    | '\\' :: '#' :: cs => (false, false, '#' :: cs)
    | '!' :: '/' :: cs => (true, true, cs)
    | '!' :: cs => (true, false, cs)
    | '/' :: cs => (false, true, cs)
    | cs => (false, false, cs)
  let (cs, directoriesOnly) := dropSlash cs
  let pattern ← Pattern.parse (patternText isTied cs)
  return ⟨pattern, keeps, directoriesOnly⟩

/-- Whether a rule matches what has this path, seen from the rule's directory. -/
def applies (r : Rule) (path : Bytes) (isDirectory : Bool) : Bool :=
  (!r.directoriesOnly || isDirectory) && r.pattern.accepts path

end Rule

/-- Whether to keep what has this path: the last rule that applies decides, if any. -/
def verdict? (rules : List Rule) (path : Bytes) (isDirectory : Bool) : Option Bool :=
  (rules.reverse.find? fun r => r.applies path isDirectory).map (·.keeps)

/-- The rules of a file, and its faults with the numbers of their lines. -/
structure RuleFile where
  rules : List Rule
  faults : List (Nat × LineFault)
  deriving Repr

namespace RuleFile

/-- A file without rules. -/
def empty : RuleFile := ⟨[], []⟩

/-- Adds the rule of a line. -/
def addLine (f : RuleFile) (number : Nat) (line : List Char) : RuleFile :=
  if line.head? = some '#' then f
  else match Rule.trimLine line with
    | [] => f
    | text =>
      match Rule.parse text with
      | .ok r => { f with rules := f.rules ++ [r] }
      | .error e => { f with faults := f.faults ++ [(number, .pattern (String.ofList text) e)] }

/-- The lines of a file up to the first that is not UTF-8, and whether there is one. -/
def readLines (bytes : Bytes) : List (List Char) × Bool :=
  let units := Text.decodeUnits bytes
  let good := (units.takeWhile Option.isSome).filterMap id
  let good := good.dropWhile fun c => c == Char.ofNat 0xFEFF
  if units.all Option.isSome then (Text.lines good, false)
  else (Text.lines (good.reverse.dropWhile (· != '\n')).reverse, true)

/-- The rules in the contents of a file. A byte order mark at the front does not count. -/
def ofBytes (bytes : Bytes) : RuleFile :=
  let (lines, isCut) := readLines bytes
  let f := lines.zipIdx.foldl (fun f l => f.addLine (l.2 + 1) l.1) empty
  if isCut then { f with faults := f.faults ++ [(lines.length + 1, .notText)] } else f

/-- What a reader is told about a file: its faults, unless the only one is that the
file is not UTF-8. -/
def messages (f : RuleFile) (path : String) : List String :=
  match f.faults with
  | [(_, .notText)] => []
  | faults =>
    faults.map fun x => path ++ ": line " ++ toString x.1 ++ ": " ++ x.2.message

end RuleFile
end LintHub.Ignore
