import LintHub.Output
import LintHub.Proofs.Text.Rows
import LintHub.Proofs.Text.Scanning

/-!
# Issues as they are printed

TSLint, CoffeeLint and CSS Lint print an issue on one line, each in a format of its own. No
format quotes anything, so a path must not look as if it ended early; a message may hold
whatever fits on the line.

* `LineFormat.line`: an entry as it is printed.
* `LineFormat.Admits`: the entries that a format has room for.
* `LineFormat.ReadAs`: the diagnostic that an entry stands for.
-/

namespace LintHub.Output

open Text

/-- An issue as a tool prints it. Lines and columns count from one. -/
structure Entry where
  path : Path
  line : Nat
  /-- Where the issue ends, if the tool says so; only CoffeeLint prints it. -/
  lineEnd : String
  /-- Not printed by CoffeeLint. -/
  column : Nat
  severity : Severity
  message : String

/-- The levels in CSV. -/
def Csv.levels : List String := ["error", "warn", "warning"]

/-- A level in any case. -/
def Csv.IsLevel (w : List Char) : Prop := ∃ u ∈ levels, sameWord w u.toList = true

/-- The fields behind a CSV path, up to the message. -/
inductive Csv.Fields : List Char → Prop where
  | mk {line lineEnd level : List Char} (hline : IsNumber line)
      (hend : ∀ c ∈ lineEnd, c.isDigit = true)
      (hlevel : IsLevel level) :
      Fields (',' :: (line ++ ',' :: (lineEnd ++ ',' :: (level ++ [',']))))

/-- The formats with one issue on each line. -/
inductive LineFormat where
  | prose
  | csv
  | compact
  deriving DecidableEq

namespace LineFormat

/-- The linter that prints a format. -/
def kind : LineFormat → Kind
  | .prose => .tsLint
  | .csv => .coffeeLint
  | .compact => .cssLint

/-- The word for a severity. -/
def word : LineFormat → Severity → String
  | .prose, .error => "ERROR"
  | .prose, .warning => "WARNING"
  | .csv, .error => "error"
  | .csv, .warning => "warn"
  | .compact, .error => "Error"
  | .compact, .warning => "Warning"

/-- An issue on one line. -/
def line (f : LineFormat) (e : Entry) : String :=
  match f with
  | .prose =>
    f.word e.severity ++ ": " ++ e.path.text ++
      "[" ++ toString e.line ++ ", " ++ toString e.column ++ "]: " ++ e.message
  | .csv =>
    e.path.text ++ "," ++ toString e.line ++ "," ++ e.lineEnd ++ "," ++
      f.word e.severity ++ "," ++ e.message
  | .compact =>
    e.path.text ++ ": line " ++ toString e.line ++ ", col " ++ toString e.column ++ ", " ++
      f.word e.severity ++ " - " ++ e.message

/-- What follows a path, up to the message or its level. -/
def IsPlace : LineFormat → List Char → Prop
  | .prose => TwoNumbers "[".toList ", ".toList "]: ".toList
  | .csv => Csv.Fields
  | .compact => TwoNumbers ": line ".toList ", col ".toList ", ".toList

/-- Where no place may be found: in a path, and in CSV not with the comma behind it either. -/
def front (f : LineFormat) (p : Path) : List Char :=
  match f with
  | .csv => p.chars ++ [',']
  | _ => p.chars

/-- The entries that a format has room for. CSS Lint speaks of the files it was given. -/
structure Admits (f : LineFormat) (files : List Path) (e : Entry) : Prop where
  path : Plain e.path.chars
  message : Plain e.message.toList
  line : 1 ≤ e.line ∧ e.line < UInt32.size
  column : 1 ≤ e.column ∧ e.column < UInt32.size
  lineEnd : ∀ c ∈ e.lineEnd.toList, c.isDigit = true
  unplaced : ∀ m, f.IsPlace m → ¬ m <:+: f.front e.path
  given : f = .compact → ∃ file ∈ files, Path.Same file e.path

/-- The diagnostic that an entry stands for. -/
structure ReadAs (f : LineFormat) (e : Entry) (d : Diagnostic) : Prop where
  file : Path.Same d.file e.path
  line : d.line.map (·.toNat + 1) = some e.line
  column : d.column.map (·.toNat + 1) = if f = .csv then none else some e.column
  severity : d.severity = e.severity
  message : d.message = e.message
  code : d.code = none
  linter : d.linter = f.kind

variable {f : LineFormat} {files : List Path} {e : Entry}

/-- The words for a severity have no blanks in them. -/
theorem isBlank_of_mem_word (f : LineFormat) (s : Severity) :
    ∀ c ∈ (f.word s).toList, isBlank c = false := by
  have hall : ((f.word s).toList.all fun c => !isBlank c) = true := by
    cases f <;> cases s <;> decide
  simpa using hall

/-- A line ends with its message, and all in front of that stays on it. -/
theorem Admits.plain_line (h : f.Admits files e) : Plain (f.line e).toList := by
  have hnumber (n : Nat) : '\n' ∉ Nat.toDigits 10 n := by
    rw [← numeral_eq]
    exact notMem_of_isNumber (isNumber_numeral n) rfl
  have hend : '\n' ∉ e.lineEnd.toList := fun hmem => by cases h.lineEnd _ hmem
  have hword : '\n' ∉ (f.word e.severity).toList := fun hmem => by
    cases isBlank_of_mem_word f e.severity _ hmem
  obtain ⟨p, ps, hpath⟩ : ∃ p ps, e.path.text.toList = p :: ps :=
    List.exists_cons_of_ne_nil h.path.nonempty
  have hfirst : isBlank p = false := h.path.head p (congrArg List.head? hpath)
  have hline : '\n' ∉ p :: ps := hpath ▸ h.path.oneLine
  rw [List.mem_cons, not_or] at hline
  cases f with
  | prose =>
    simp only [LineFormat.line, String.toList_append]
    refine Plain.append ?_ ?_ ?_ h.message
    · simp
    · simpa [hnumber, hpath, hline] using hword
    · cases e.severity <;> simp [LineFormat.word] <;> rfl
  | csv =>
    simp only [LineFormat.line, String.toList_append]
    refine Plain.append ?_ ?_ ?_ h.message
    · simp
    · simpa [hnumber, hpath, hend, hline] using hword
    · simpa [hpath] using hfirst
  | compact =>
    simp only [LineFormat.line, String.toList_append]
    refine Plain.append ?_ ?_ ?_ h.message
    · simp
    · simpa [hnumber, hpath, hline] using hword
    · simpa [hpath] using hfirst

end LineFormat

/-- **A position** is read as the number before the one that is printed. -/
theorem position?_numeral {n : Nat} (h : 1 ≤ n ∧ n < UInt32.size) :
    (position? (numeral n)).map (·.toNat + 1) = some n := by
  have hposition := toNat_position? (numeral n)
  rw [decimal_numeral, if_pos h.2] at hposition
  have hmap : (position? (numeral n)).map (·.toNat + 1) =
      ((position? (numeral n)).map UInt32.toNat).map (· + 1) := by rw [Option.map_map]; rfl
  rw [hmap, hposition, Option.map_some, Nat.sub_add_cancel h.1]

end LintHub.Output
