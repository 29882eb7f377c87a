import LintHub.Proofs.Output.Grammar
import LintHub.Proofs.Output.Reported
import LintHub.Proofs.Text.Rows

/-!
# The grammar of the compact format

A line of CSS Lint's compact format says something if a position and a message stand anywhere on
it; the first position counts. What stands in front of it is looked up among the files that the
linter was given, and what stands behind it may begin with a level and a dash.

* `Compact.splitLevel_eq_iff`: the level of a message.
* `Compact.fileFor_eq_iff`: the file that a line is about.
* `cssLint_read_iff`: what is read from an output.
-/

namespace LintHub.Output

open Text

namespace Compact

variable {line s level rest text message : List Char} {p : Parts} {severity : Severity}
  {files : List Path} {file : Path}

/-- Somewhere on a line there is a position, in any case, and a message behind it. -/
structure IsPlaced (s : List Char) (p : Parts) : Prop where
  text : ∃ v₁ v₂ v₃, sameWord v₁ ": line ".toList = true ∧ sameWord v₂ ", col ".toList = true ∧
    sameWord v₃ ", ".toList = true ∧
    s = p.file ++ v₁ ++ p.line ++ v₂ ++ p.column ++ v₃ ++ p.message
  line : IsNumber p.line
  column : IsNumber p.column
  message : p.message ≠ []

/-- Of all positions on a line, the one with the shortest text in front. -/
structure IsFirstPlaced (s : List Char) (p : Parts) : Prop extends IsPlaced s p where
  first : ∀ q, IsPlaced s q → p.file.length ≤ q.file.length

/-- The first dash of a message and what stands around it. -/
structure IsDashed (s level rest : List Char) : Prop where
  text : s = level ++ " - ".toList ++ rest
  first : ∀ level' rest', s = level' ++ " - ".toList ++ rest' → level.length ≤ level'.length

/-- A message is a severity and a text. -/
inductive Graded (s : List Char) : Severity → List Char → Prop where
  | error {level rest : List Char} (dash : IsDashed s level rest)
      (word : sameWord level "error".toList = true) : Graded s .error rest
  | warning {level rest : List Char} (dash : IsDashed s level rest)
      (word : sameWord level "warning".toList = true) : Graded s .warning rest
  /-- There is no dash, or no level in front of it. -/
  | plain (noLevel : ∀ level rest, IsDashed s level rest →
      sameWord level "error".toList = false ∧ sameWord level "warning".toList = false) :
      Graded s .warning s

/-- The file that a text stands for: the first one that it names, up to blanks around it, or else
the first one of all. -/
inductive StandsFor (files : List Path) (text : List Char) : Path → Prop where
  | named {before after : List Path} {file : Path} (here : files = before ++ file :: after)
      (same : file.Same (.ofChars (trim text)))
      (first : ∀ g ∈ before, ¬ g.Same (.ofChars (trim text))) : StandsFor files text file
  | unnamed {first : Path} (here : files.head? = some first)
      (none : ∀ g ∈ files, ¬ g.Same (.ofChars (trim text))) : StandsFor files text first

theorem StandsFor.mem (h : StandsFor files text file) : file ∈ files := by
  cases h with
  | named here same first => rw [here]; simp
  | unnamed here none => exact List.mem_of_head? here

/-- What a line says of these files: only the message is trimmed, before its level is split off. -/
def Says (files : List Path) (line : List Char) (d : Diagnostic) : Prop :=
  ∃ p, IsFirstPlaced line p ∧ StandsFor files p.file d.file ∧
    Graded (trim p.message) d.severity d.message.toList ∧
    IsPosition p.line d.line ∧ IsPosition p.column d.column ∧
    d.code = none ∧ d.linter = .cssLint

theorem isPlaced_iff : IsPlaced s p ↔ Finds location? s p.file (p.line, p.column, p.message) := by
  have hlocation (cs : List Char) : location? cs =
      twoNumbers? ": line ".toList ", col ".toList ", ".toList cs := rfl
  constructor
  · rintro ⟨⟨v₁, v₂, v₃, h₁, h₂, h₃, htext⟩, hline, hcolumn, hmessage⟩
    refine ⟨v₁ ++ (p.line ++ (v₂ ++ (p.column ++ (v₃ ++ p.message)))), ?_, ?_⟩
    · simp only [htext, List.append_assoc]
    · rw [hlocation, twoNumbers?_eq_some_iff rfl rfl]
      exact ⟨v₁, v₂, v₃, ⟨h₁, h₂, h₃⟩, ⟨hline, hcolumn, hmessage⟩, rfl⟩
  · rintro ⟨rest, hs, hscan⟩
    rw [hlocation, twoNumbers?_eq_some_iff rfl rfl] at hscan
    obtain ⟨v₁, v₂, v₃, ⟨h₁, h₂, h₃⟩, ⟨hline, hcolumn, hmessage⟩, hrest⟩ := hscan
    exact ⟨⟨v₁, v₂, v₃, h₁, h₂, h₃, by simp only [hs, hrest, List.append_assoc]⟩, hline, hcolumn,
      hmessage⟩

/-- **A line is split** at the first position on it. -/
theorem split?_eq_some_iff : split? s = some p ↔ IsFirstPlaced s p := by
  have hparts : split? s = some p ↔
      shortest location? s = some (p.file, p.line, p.column, p.message) := by
    unfold split?
    rw [Option.map_eq_some_iff]
    constructor
    · rintro ⟨⟨file, line, column, message⟩, h, rfl⟩
      exact h
    · exact fun h => ⟨_, h, rfl⟩
  rw [hparts, shortest_eq_some_iff_first, ← isPlaced_iff]
  constructor
  · rintro ⟨hplaced, hfirst⟩
    exact ⟨hplaced, fun q hq => hfirst q.file _ (isPlaced_iff.1 hq)⟩
  · rintro ⟨hplaced, hfirst⟩
    exact ⟨hplaced, fun file a hfinds => hfirst ⟨file, a.1, a.2.1, a.2.2⟩ (isPlaced_iff.2 hfinds)⟩

theorem split?_eq_none_iff : split? s = none ↔ ∀ p, ¬ IsPlaced s p := by
  unfold split?
  rw [Option.map_eq_none_iff, shortest_eq_none_iff]
  constructor
  · exact fun h p hp => h p.file _ (isPlaced_iff.1 hp)
  · exact fun h file a hfinds => h ⟨file, a.1, a.2.1, a.2.2⟩ (isPlaced_iff.2 hfinds)

theorem finds_dash_iff : Finds dash? s level rest ↔ s = level ++ " - ".toList ++ rest := by
  constructor
  · rintro ⟨behind, rfl, hscan⟩
    obtain ⟨v, hv, rfl⟩ := dropWord_eq_some_iff.1 hscan
    rw [eq_of_sameWord rfl hv, List.append_assoc]
  · intro h
    exact ⟨" - ".toList ++ rest, by rw [h, List.append_assoc],
      dropWord_append (sameWord_refl _) rest⟩

theorem shortest_dash_eq_some_iff :
    shortest dash? s = some (level, rest) ↔ IsDashed s level rest := by
  rw [shortest_eq_some_iff_first, finds_dash_iff]
  constructor
  · exact fun h => ⟨h.1, fun level' rest' heq => h.2 level' rest' (finds_dash_iff.2 heq)⟩
  · exact fun h =>
      ⟨h.text, fun level' rest' hfinds => h.first level' rest' (finds_dash_iff.1 hfinds)⟩

theorem IsDashed.unique {level' rest' : List Char} (h : IsDashed s level rest)
    (h' : IsDashed s level' rest') : level = level' ∧ rest = rest' := by
  have heq := (shortest_dash_eq_some_iff.2 h).symm.trans (shortest_dash_eq_some_iff.2 h')
  exact Prod.mk.inj (Option.some.inj heq)

theorem graded_splitLevel (s : List Char) : Graded s (splitLevel s).1 (splitLevel s).2 := by
  unfold splitLevel
  cases hdash : shortest dash? s with
  | none =>
    refine .plain fun level rest h => ?_
    rw [shortest_dash_eq_some_iff.2 h] at hdash
    cases hdash
  | some r =>
    obtain ⟨level, rest⟩ := r
    have hdashed : IsDashed s level rest := shortest_dash_eq_some_iff.1 hdash
    simp only
    by_cases herror : sameWord level "error".toList = true
    · rw [if_pos herror]
      exact .error hdashed herror
    · rw [if_neg herror]
      by_cases hwarning : sameWord level "warning".toList = true
      · rw [if_pos hwarning]
        exact .warning hdashed hwarning
      · rw [if_neg hwarning]
        refine .plain fun level' rest' h => ?_
        obtain ⟨rfl, -⟩ := hdashed.unique h
        exact ⟨eq_false_of_ne_true herror, eq_false_of_ne_true hwarning⟩

/-- The two words for levels are different. -/
theorem sameWord_error_of_warning (h : sameWord level "warning".toList = true) :
    sameWord level "error".toList = false := by
  apply eq_false_of_ne_true
  intro herror
  have heq := (sameWord_iff.1 herror).symm.trans (sameWord_iff.1 h)
  exact absurd heq (by decide)

/-- **A message** is graded in just one way. -/
theorem splitLevel_eq_iff : splitLevel s = (severity, rest) ↔ Graded s severity rest := by
  constructor
  · intro h
    have hgraded := graded_splitLevel s
    rwa [h] at hgraded
  · intro h
    unfold splitLevel
    cases h with
    | error dash word =>
      rw [shortest_dash_eq_some_iff.2 dash]
      simp only [word, if_true]
    | warning dash word =>
      rw [shortest_dash_eq_some_iff.2 dash]
      simp only [word, sameWord_error_of_warning word, Bool.false_eq_true, if_true, if_false]
    | plain noLevel =>
      cases hdash : shortest dash? s with
      | none => rfl
      | some r =>
        obtain ⟨herror, hwarning⟩ := noLevel r.1 r.2 (shortest_dash_eq_some_iff.1 hdash)
        simp only [herror, hwarning, Bool.false_eq_true, if_false]

/-- **A line is about** just one of the files. -/
theorem fileFor_eq_iff {first : Path} (hfirst : files.head? = some first) :
    fileFor first files text = file ↔ StandsFor files text file := by
  unfold fileFor
  cases hfind : files.find? fun f => decide (f.Same (.ofChars (trim text))) with
  | none =>
    have hnone : ∀ g ∈ files, ¬ g.Same (.ofChars (trim text)) := fun g hg hsame =>
      List.find?_eq_none.1 hfind g hg (decide_eq_true hsame)
    rw [Option.getD_none]
    constructor
    · rintro rfl
      exact .unnamed hfirst hnone
    · intro h
      cases h with
      | named here same first => exact absurd same (hnone file (by rw [here]; simp))
      | unnamed here none => exact Option.some.inj (hfirst.symm.trans here)
  | some f =>
    obtain ⟨hsame, before, after, hhere, hbefore⟩ := List.find?_eq_some_iff_append.1 hfind
    have hmem : f ∈ files := List.mem_of_find?_eq_some hfind
    rw [Option.getD_some]
    constructor
    · rintro rfl
      exact .named hhere (of_decide_eq_true hsame) fun g hg => by simpa using hbefore g hg
    · intro h
      cases h with
      | @named before' after' file here same first =>
        have hfind' : files.find? (fun f => decide (f.Same (.ofChars (trim text)))) = some file :=
          List.find?_eq_some_iff_append.2 ⟨decide_eq_true same, before', after', here,
            fun g hg => by simpa using first g hg⟩
        exact Option.some.inj (hfind.symm.trans hfind')
      | unnamed here none => exact absurd (of_decide_eq_true hsame) (none f hmem)

/-- **A line says nothing** if there is no position on it, whatever the files are. -/
theorem diagnostic?_eq_none_iff (first : Path) (files : List Path) (line : List Char) :
    diagnostic? first files line = none ↔ ∀ p, ¬ IsPlaced line p := by
  unfold diagnostic?
  rw [Option.map_eq_none_iff, split?_eq_none_iff]

/-- **A line** is read as what it says. -/
theorem diagnostic?_eq_some_iff {first : Path} (hfirst : files.head? = some first)
    (line : List Char) (d : Diagnostic) :
    diagnostic? first files line = some d ↔ Says files line d := by
  unfold diagnostic?
  rw [Option.map_eq_some_iff]
  constructor
  · rintro ⟨p, hsplit, rfl⟩
    refine ⟨p, split?_eq_some_iff.1 hsplit, (fileFor_eq_iff hfirst).1 rfl, ?_,
      isPosition_position? p.line, isPosition_position? p.column, rfl, rfl⟩
    rw [String.toList_ofList]
    exact graded_splitLevel (trim p.message)
  · obtain ⟨file, line, column, message, severity, code, linter⟩ := d
    rintro ⟨p, hplaced, hfile, hgraded, hline, hcolumn, rfl, rfl⟩
    refine ⟨p, split?_eq_some_iff.2 hplaced, ?_⟩
    simp only [splitLevel_eq_iff.2 hgraded, (fileFor_eq_iff hfirst).2 hfile,
      position?_eq_iff.2 hline, position?_eq_iff.2 hcolumn, String.ofList_toList]

end Compact

/-- **What is read from the compact format** is what its lines say of the files, and nothing if
there are no files; it always is about one of them. -/
theorem cssLint_read_iff (output : String) (files : List Path) (ds : List Diagnostic) :
    (Kind.cssLint.read output files = ds ↔
      (files = [] ∧ ds = []) ∨
      (files ≠ [] ∧ ∃ ls, Lined output.toList ls ∧ LineByLine (Compact.Says files) ls ds)) ∧
    ∀ d ∈ Kind.cssLint.read output files, d.file ∈ files := by
  refine ⟨?_, fun d hd => (Kind.read_reportedBy .cssLint output files d hd).file rfl⟩
  unfold Kind.read Compact.read
  cases files with
  | nil => simp [eq_comm]
  | cons first rest =>
    simp only
    rw [lineByLine_iff (Compact.diagnostic?_eq_some_iff rfl)]
    constructor
    · exact fun h => .inr ⟨by simp, _, lines_eq_iff.1 rfl, h⟩
    · rintro (⟨hnil, -⟩ | ⟨-, ls, hlines, h⟩)
      · cases hnil
      · rwa [lines_eq_iff.2 hlines]

end LintHub.Output
