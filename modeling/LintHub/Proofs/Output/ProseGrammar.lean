import LintHub.Proofs.Output.Grammar
import LintHub.Proofs.Text.Rows

/-!
# The grammar of prose

A line of TSLint's prose is split at a position in brackets. Of all the places where it can be
split the first one counts, and a word for a level in front of the line counts only if the line
can still be split without it; else it is part of the file's name.

* `Prose.lineParts?_eq_some_iff`: how a line is split.
* `tsLint_read_iff`: what is read from an output.
-/

namespace LintHub.Output

open Text

namespace Prose

variable {s t rest : List Char} {p : Parts} {severity : Severity}

/-- A text is a file, a position in brackets, a colon, a blank and a message. -/
structure IsSplit (s : List Char) (p : Parts) : Prop where
  text : s = p.file ++ "[".toList ++ p.line ++ ", ".toList ++ p.column ++ "]: ".toList ++ p.message
  file : p.file ≠ []
  line : IsNumber p.line
  column : IsNumber p.column
  message : p.message ≠ []

/-- Of all the ways to split a text, the one with the shortest file. -/
structure IsFirstSplit (s : List Char) (p : Parts) : Prop extends IsSplit s p where
  first : ∀ q, IsSplit s q → p.file.length ≤ q.file.length

/-- A text is a level, in any case, and the rest. -/
inductive Leveled : List Char → Severity → List Char → Prop where
  | error {w rest : List Char} (h : sameWord w "error: ".toList = true) :
      Leveled (w ++ rest) .error rest
  | warning {w rest : List Char} (h : sameWord w "warning: ".toList = true) :
      Leveled (w ++ rest) .warning rest

/-- A line is a severity and its parts. -/
inductive Parted (t : List Char) : Severity → Parts → Prop where
  /-- What follows a level can be split. -/
  | leveled {severity : Severity} {rest : List Char} {p : Parts} (level : Leveled t severity rest)
      (split : IsFirstSplit rest p) : Parted t severity p
  /-- There is no level, or what follows it cannot be split. -/
  | bare {p : Parts} (level : ∀ severity rest q, Leveled t severity rest → ¬ IsSplit rest q)
      (split : IsFirstSplit t p) : Parted t .warning p

/-- What a line says: file and message are trimmed, as the line is before it is split. -/
def Says (line : List Char) (d : Diagnostic) : Prop :=
  ∃ p, Parted (trim line) d.severity p ∧
    d.file.chars = trim p.file ∧ d.message.toList = trim p.message ∧
    IsPosition p.line d.line ∧ IsPosition p.column d.column ∧
    d.code = none ∧ d.linter = .tsLint

theorem isSplit_iff : IsSplit s p ↔
    p.file ≠ [] ∧ Finds location? s p.file (p.line, p.column, p.message) := by
  have hlocation (cs : List Char) : location? cs =
      twoNumbers? "[".toList ", ".toList "]: ".toList cs := rfl
  constructor
  · intro h
    refine ⟨h.file, "[".toList ++ (p.line ++ (", ".toList ++ (p.column ++
      ("]: ".toList ++ p.message)))), ?_, ?_⟩
    · simp only [h.text, List.append_assoc]
    · rw [hlocation]
      exact twoNumbers?_append h.line rfl h.column rfl h.message
  · rintro ⟨hfile, rest, hs, hscan⟩
    rw [hlocation, twoNumbers?_eq_some_iff rfl rfl] at hscan
    obtain ⟨v₁, v₂, v₃, ⟨h₁, h₂, h₃⟩, ⟨hline, hcolumn, hmessage⟩, hrest⟩ := hscan
    obtain rfl := eq_of_sameWord rfl h₁
    obtain rfl := eq_of_sameWord rfl h₂
    obtain rfl := eq_of_sameWord rfl h₃
    exact ⟨by simp only [hs, hrest, List.append_assoc], hfile, hline, hcolumn, hmessage⟩

/-- **A text is split** at the first place where it can be. -/
theorem split?_eq_some_iff : split? s = some p ↔ IsFirstSplit s p := by
  have hparts : split? s = some p ↔
      shortestNonempty location? s = some (p.file, p.line, p.column, p.message) := by
    unfold split?
    rw [Option.map_eq_some_iff]
    constructor
    · rintro ⟨⟨file, line, column, message⟩, h, rfl⟩
      exact h
    · exact fun h => ⟨_, h, rfl⟩
  rw [hparts, shortestNonempty_eq_some_iff, ← isSplit_iff]
  constructor
  · rintro ⟨hsplit, hfirst⟩
    exact ⟨hsplit, fun q hq => hfirst q.file _ (isSplit_iff.1 hq).1 (isSplit_iff.1 hq).2⟩
  · rintro ⟨hsplit, hfirst⟩
    exact ⟨hsplit, fun file a hne hfinds =>
      hfirst ⟨file, a.1, a.2.1, a.2.2⟩ (isSplit_iff.2 ⟨hne, hfinds⟩)⟩

theorem split?_eq_none_iff : split? s = none ↔ ∀ p, ¬ IsSplit s p := by
  unfold split?
  rw [Option.map_eq_none_iff, shortestNonempty_eq_none_iff]
  constructor
  · exact fun h p hp => h p.file _ (isSplit_iff.1 hp).1 (isSplit_iff.1 hp).2
  · exact fun h file a hne hfinds => h ⟨file, a.1, a.2.1, a.2.2⟩ (isSplit_iff.2 ⟨hne, hfinds⟩)

theorem level?_eq_some_iff : level? t = some (severity, rest) ↔ Leveled t severity rest := by
  constructor
  · intro h
    unfold level? at h
    split at h
    · rename_i r herror
      cases h
      obtain ⟨w, hw, rfl⟩ := dropWord_eq_some_iff.1 herror
      exact .error hw
    · obtain ⟨r, hwarning, hr⟩ := Option.map_eq_some_iff.1 h
      cases hr
      obtain ⟨w, hw, rfl⟩ := dropWord_eq_some_iff.1 hwarning
      exact .warning hw
  · intro h
    cases h with
    | error hw =>
      unfold level?
      rw [dropWord_append hw]
    | @warning w rest hw =>
      -- the two words differ in their first letters
      have hother : dropWord "error: ".toList (w ++ rest) = none := by
        cases w with
        | nil => cases sameWord_iff.1 hw
        | cons c w =>
          obtain ⟨hc, -⟩ := List.cons.inj (sameWord_iff.1 hw)
          exact dropWord_eq_none (by rw [hc]; decide) _ _
      unfold level?
      rw [hother, dropWord_append hw]
      rfl

/-- What is left of a line behind its level, split. -/
def leveledParts? (t : List Char) : Option (Severity × Parts) :=
  (level? t).bind fun (severity, rest) => (split? rest).map fun p => (severity, p)

theorem leveledParts?_eq_some_iff : leveledParts? t = some (severity, p) ↔
    ∃ rest, Leveled t severity rest ∧ IsFirstSplit rest p := by
  simp only [leveledParts?, Option.bind_eq_some_iff, Option.map_eq_some_iff, Prod.mk.injEq]
  constructor
  · rintro ⟨⟨severity, rest⟩, hlevel, p, hsplit, rfl, rfl⟩
    exact ⟨rest, level?_eq_some_iff.1 hlevel, split?_eq_some_iff.1 hsplit⟩
  · rintro ⟨rest, hlevel, hsplit⟩
    exact ⟨(severity, rest), level?_eq_some_iff.2 hlevel, p, split?_eq_some_iff.2 hsplit, rfl, rfl⟩

theorem leveledParts?_eq_none_iff : leveledParts? t = none ↔
    ∀ severity rest q, Leveled t severity rest → ¬ IsSplit rest q := by
  simp only [leveledParts?, Option.bind_eq_none_iff, Option.map_eq_none_iff, split?_eq_none_iff]
  constructor
  · exact fun h severity rest q hlevel => h (severity, rest) (level?_eq_some_iff.2 hlevel) q
  · exact fun h r hlevel q => h r.1 r.2 q (level?_eq_some_iff.1 hlevel)

theorem lineParts?_eq (t : List Char) :
    lineParts? t = (leveledParts? t).or ((split? t).map fun p => (.warning, p)) := by
  unfold lineParts? leveledParts?
  cases (level? t).bind _ <;> rfl

/-- **A line is parted** behind its level if it can be, and otherwise as it is. -/
theorem lineParts?_eq_some_iff : lineParts? t = some (severity, p) ↔ Parted t severity p := by
  rw [lineParts?_eq, Option.or_eq_some_iff]
  constructor
  · rintro (hleveled | ⟨hnone, hbare⟩)
    · obtain ⟨rest, hlevel, hsplit⟩ := leveledParts?_eq_some_iff.1 hleveled
      exact .leveled hlevel hsplit
    · obtain ⟨q, hsplit, heq⟩ := Option.map_eq_some_iff.1 hbare
      cases heq
      exact .bare (leveledParts?_eq_none_iff.1 hnone) (split?_eq_some_iff.1 hsplit)
  · intro h
    cases h with
    | leveled level split => exact .inl (leveledParts?_eq_some_iff.2 ⟨_, level, split⟩)
    | bare level split =>
      exact .inr ⟨leveledParts?_eq_none_iff.2 level, by rw [split?_eq_some_iff.2 split]; rfl⟩

/-- What stands in front of a text that can be split may count to the file. -/
theorem IsSplit.behind (h : IsSplit s p) (front : List Char) :
    IsSplit (front ++ s) { p with file := front ++ p.file } where
  text := by simp only [h.text, List.append_assoc]
  file := List.append_ne_nil_of_right_ne_nil front h.file
  line := h.line
  column := h.column
  message := h.message

/-- **A line says nothing** if it cannot be split, for a level does not help it. -/
theorem diagnostic?_eq_none_iff (line : List Char) :
    diagnostic? line = none ↔ ∀ p, ¬ IsSplit (trim line) p := by
  unfold diagnostic?
  rw [Option.map_eq_none_iff, lineParts?_eq, Option.or_eq_none_iff, Option.map_eq_none_iff,
    leveledParts?_eq_none_iff, split?_eq_none_iff]
  refine ⟨fun h => h.2, fun h => ⟨fun severity rest q level hq => ?_, h⟩⟩
  generalize trim line = t at level h
  cases level with
  | @error w => exact h _ (hq.behind w)
  | @warning w => exact h _ (hq.behind w)

/-- **A line** is read as what it says. -/
theorem diagnostic?_eq_some_iff (line : List Char) (d : Diagnostic) :
    diagnostic? line = some d ↔ Says line d := by
  unfold diagnostic?
  rw [Option.map_eq_some_iff]
  constructor
  · rintro ⟨⟨severity, p⟩, hparts, rfl⟩
    exact ⟨p, lineParts?_eq_some_iff.1 hparts, by simp [Path.chars, Path.ofChars],
      String.toList_ofList, isPosition_position? p.line, isPosition_position? p.column, rfl, rfl⟩
  · obtain ⟨file, line, column, message, severity, code, linter⟩ := d
    rintro ⟨p, hparts, hfile, hmessage, hline, hcolumn, rfl, rfl⟩
    refine ⟨(severity, p), lineParts?_eq_some_iff.2 hparts, ?_⟩
    simp only [← hfile, ← hmessage, position?_eq_iff.2 hline, position?_eq_iff.2 hcolumn,
      String.ofList_toList, Path.chars, Path.ofChars]

end Prose

/-- **What is read from prose** is what its lines say, whatever the output and the files are. -/
theorem tsLint_read_iff (output : String) (files : List Path) (ds : List Diagnostic) :
    Kind.tsLint.read output files = ds ↔
      ∃ ls, Lined output.toList ls ∧ LineByLine Prose.Says ls ds := by
  unfold Kind.read Prose.read
  simp only
  rw [lineByLine_iff Prose.diagnostic?_eq_some_iff]
  constructor
  · exact fun h => ⟨_, lines_eq_iff.1 rfl, h⟩
  · rintro ⟨ls, hlines, h⟩
    rwa [lines_eq_iff.2 hlines]

end LintHub.Output
