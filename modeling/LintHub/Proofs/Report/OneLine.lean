import LintHub.Proofs.Output.CompactGrammar
import LintHub.Proofs.Output.Csv
import LintHub.Proofs.Output.ProseGrammar
import LintHub.Proofs.Starts
import LintHub.Report

/-!
# When a diagnostic stays on its line

The compact report ends each diagnostic with a line feed, and it prints the diagnostic as it is.
So it has one line for each diagnostic just if none of them has a line feed of its own. The
formats that are read line by line never put one there. Two other sources may: the complaints of
a linter that wrote nothing else, which become a message as a whole, and the texts that ESLint
gives in JSON.

* `Report.toList_compact`: the compact report, diagnostic by diagnostic.
* `Linter.oneLine_reportOf_iff`: which outputs are reported on whole lines.
* `Checker.compact_lines`: the lines of a call's report, and where a broken one comes from.
-/

namespace LintHub

namespace Diagnostic

variable {d : Diagnostic}

/-- Nothing in the diagnostic ends the line that it is printed on. -/
def OneLine (d : Diagnostic) : Prop := '\n' ∉ d.display.toList

theorem notMem_positionSuffix (d : Diagnostic) : '\n' ∉ d.positionSuffix.toList := by
  have hnumber (n : Nat) : '\n' ∉ Nat.toDigits 10 n := by
    rw [← Text.numeral_eq]
    exact Text.notMem_of_isNumber (Text.isNumber_numeral n) rfl
  unfold positionSuffix
  cases d.line with
  | none => simp
  | some l =>
    cases d.column with
    | none => simp [hnumber]
    | some c => simp [hnumber]

theorem mem_codeSuffix_iff : '\n' ∈ d.codeSuffix.toList ↔ ∃ c ∈ d.code, '\n' ∈ c.toList := by
  unfold codeSuffix
  cases d.code with
  | none => simp
  | some c => simp

/-- What may break the line is the file, the rule or the message. -/
theorem oneLine_iff : d.OneLine ↔
    '\n' ∉ d.file.chars ∧ '\n' ∉ d.message.toList ∧ ∀ c ∈ d.code, '\n' ∉ c.toList := by
  have hseverity : '\n' ∉ d.severity.word.toList := by cases d.severity <;> decide
  have hname : '\n' ∉ d.linter.displayName.toList := by cases d.linter <;> decide
  have hcolon : '\n' ∉ ": ".toList := by decide
  have hopen : '\n' ∉ " (".toList := by decide
  have hclose : '\n' ∉ ") ".toList := by decide
  simp only [OneLine, display, String.toList_append, List.mem_append, mem_codeSuffix_iff,
    notMem_positionSuffix, hseverity, hname, hcolon, hopen, hclose, or_false, not_or, not_exists,
    not_and, Path.chars]
  tauto

end Diagnostic

namespace Report

/-- **The compact report** is the diagnostics one after the other, each ended by a line feed. -/
theorem toList_compact (runs : List LintRun) : (render .compact runs).toList =
    Text.ended '\n' ((Compact.diagnostics runs).map (·.display.toList)) := by
  unfold render unlines Compact.reportLines Text.ended
  simp [String.toList_join, List.flatMap_def, Function.comp_def]

end Report

namespace Output

open Text

variable {line : List Char} {files : List Path} {d : Diagnostic}

/-- A line of prose gives a diagnostic on one line. -/
theorem Prose.oneLine (h : diagnostic? line = some d) (hline : '\n' ∉ line) : d.OneLine := by
  obtain ⟨p, hparted, hfile, hmessage, -, -, hcode, -⟩ := (diagnostic?_eq_some_iff line d).1 h
  generalize d.severity = severity at hparted
  -- the parts are parts of the line, with or without a level
  have hparts : ∃ s, IsSplit s p ∧ s ⊆ trim line := by
    cases hparted with
    | @leveled _ rest _ level split =>
      refine ⟨rest, split.toIsSplit, ?_⟩
      generalize trim line = t at level
      cases level <;> exact List.subset_append_right _ _
    | bare level split => exact ⟨_, split.toIsSplit, List.Subset.refl _⟩
  obtain ⟨s, hsplit, hs⟩ := hparts
  have hfree : '\n' ∉ s := fun hmem => hline ((trim_sublist line).subset (hs hmem))
  rw [hsplit.text] at hfree
  simp only [List.mem_append, not_or] at hfree
  refine Diagnostic.oneLine_iff.2 ⟨?_, ?_, by simp [hcode]⟩
  · rw [hfile]
    exact fun hmem => hfree.1.1.1.1.1.1 ((trim_sublist p.file).subset hmem)
  · rw [hmessage]
    exact fun hmem => hfree.2 ((trim_sublist p.message).subset hmem)

/-- So does a line of CSV. -/
theorem Csv.oneLine (h : diagnostic? line = some d) (hline : '\n' ∉ line) : d.OneLine := by
  obtain ⟨p, hsplit, rfl⟩ := Option.map_eq_some_iff.1 h
  obtain ⟨⟨file, hit⟩, hcut, rfl⟩ := Option.map_eq_some_iff.1 hsplit
  obtain ⟨⟨-, rest, htext, hscan⟩, -⟩ := shortestNonempty_eq_some_iff.1 hcut
  obtain ⟨fields, -, rfl⟩ := exists_fields hscan
  have hfree : '\n' ∉ trim line := fun hmem => hline ((trim_sublist line).subset hmem)
  rw [htext] at hfree
  simp only [List.mem_append, not_or] at hfree
  refine Diagnostic.oneLine_iff.2 ⟨?_, ?_, nofun⟩
  · rw [Path.chars_ofChars]
    exact hfree.1
  · rw [String.toList_ofList]
    exact fun hmem => hfree.2.2 ((trim_sublist _).subset hmem)

theorem Compact.subset_of_graded {s message : List Char} {severity : Severity}
    (h : Graded s severity message) : message ⊆ s := by
  cases h with
  | error dash word =>
    rw [dash.text]
    exact List.subset_append_right _ _
  | warning dash word =>
    rw [dash.text]
    exact List.subset_append_right _ _
  | plain noLevel => exact List.Subset.refl _

/-- So does a line of the compact format, if the files of the batch keep to one line. -/
theorem Compact.oneLine {first : Path} (hfirst : files.head? = some first)
    (hfiles : ∀ f ∈ files, '\n' ∉ f.chars) (h : diagnostic? first files line = some d)
    (hline : '\n' ∉ line) : d.OneLine := by
  obtain ⟨p, hplaced, hfile, hgraded, -, -, hcode, -⟩ :=
    (diagnostic?_eq_some_iff hfirst line d).1 h
  obtain ⟨v₁, v₂, v₃, -, -, -, htext⟩ := hplaced.text
  rw [htext] at hline
  simp only [List.mem_append, not_or] at hline
  refine Diagnostic.oneLine_iff.2 ⟨hfiles d.file hfile.mem, fun hfeed => ?_, by simp [hcode]⟩
  exact hline.2 ((trim_sublist p.message).subset (subset_of_graded hgraded hfeed))

/-- What of these results reaches a diagnostic as it is has no line feed in it. -/
def Results.Unbroken (results : List FileResult) : Prop :=
  ∀ r ∈ results, ∀ m ∈ r.messages,
    '\n' ∉ r.file.chars ∧ '\n' ∉ m.text.toList ∧ ∀ rule ∈ m.rule, '\n' ∉ rule.toList

theorem Results.oneLine_flatMap_iff {results : List FileResult} :
    (∀ d ∈ results.flatMap FileResult.diagnostics, d.OneLine) ↔ Unbroken results := by
  have hmessage (file : Path) (m : Message) : (m.diagnostic file).OneLine ↔
      '\n' ∉ file.chars ∧ '\n' ∉ m.text.toList ∧ ∀ rule ∈ m.rule, '\n' ∉ rule.toList :=
    Diagnostic.oneLine_iff
  simp only [Unbroken, FileResult.diagnostics, List.mem_flatMap, List.mem_map,
    forall_exists_index, and_imp, ← hmessage]
  exact ⟨fun h r hr m hm => h _ r hr m hm rfl, fun h d r hr m hm hd => hd ▸ h r hr m hm⟩

/-- What a linter wrote is reported on whole lines: complaints count only without anything else
and are then one message, and of all that a linter can write otherwise only the texts of ESLint
may break a line. -/
def KeepsLines (kind : Kind) (o : Output) : Prop :=
  if o.stdout = "" then '\n' ∉ o.stderr.toList
  else kind = .esLint → ∀ results ∈ Results.results? o.stdout, Results.Unbroken results

end Output

namespace Linter

open Output

variable {σ : Type} {l : Linter} {c : LintContext} {run : Runner σ} {files : List Path}
  {s : Session σ} {r : LintRun}

theorem oneLine_ofFile_iff {kind : Kind} {file : Path} {severity : Severity} {message : String}
    (hfile : '\n' ∉ file.chars) :
    (Diagnostic.ofFile kind file severity message).OneLine ↔ '\n' ∉ message.toList := by
  rw [Diagnostic.oneLine_iff]
  simp [Diagnostic.ofFile, hfile]

/-- Only ESLint can break a line in what it writes to standard output. -/
theorem oneLine_read_iff (kind : Kind) (output : String) (hfiles : ∀ f ∈ files, '\n' ∉ f.chars) :
    (∀ d ∈ kind.read output files, d.OneLine) ↔
      (kind = .esLint → ∀ results ∈ Results.results? output, Results.Unbroken results) := by
  cases kind with
  | esLint =>
    unfold Kind.read Results.read
    simp only [true_implies]
    cases Results.results? output with
    | none => simp
    | some results => simpa using Results.oneLine_flatMap_iff
  | tsLint =>
    refine ⟨fun _ => nofun, fun _ d hd => ?_⟩
    obtain ⟨line, hline, hd⟩ := List.mem_filterMap.1 hd
    exact Prose.oneLine hd (Text.notMem_of_mem_lines hline)
  | coffeeLint =>
    refine ⟨fun _ => nofun, fun _ d hd => ?_⟩
    obtain ⟨line, hline, hd⟩ := List.mem_filterMap.1 hd
    exact Csv.oneLine hd (Text.notMem_of_mem_lines hline)
  | cssLint =>
    refine ⟨fun _ => nofun, fun _ d hd => ?_⟩
    cases files with
    | nil => cases hd
    | cons first rest =>
      obtain ⟨line, hline, hd⟩ := List.mem_filterMap.1 hd
      exact Compact.oneLine rfl hfiles hd (Text.notMem_of_mem_lines hline)

/-- **An output is reported on whole lines** just if it keeps to them. -/
theorem oneLine_reportOf_iff {kind : Kind} {o : Output} (hne : files ≠ [])
    (hfiles : ∀ f ∈ files, '\n' ∉ f.chars) :
    (∀ d ∈ reportOf kind files o, d.OneLine) ↔ KeepsLines kind o := by
  unfold reportOf KeepsLines
  by_cases hout : o.stdout = ""
  · rw [if_neg (not_not.2 hout), if_pos hout]
    by_cases herr : o.stderr = ""
    · simp [herr]
    · obtain ⟨first, rest, rfl⟩ := List.exists_cons_of_ne_nil hne
      simp [herr, oneLine_ofFile_iff (hfiles first (List.mem_cons_self ..))]
  · rw [if_pos hout, if_neg hout]
    exact oneLine_read_iff kind o.stdout hfiles

/-- A linter that is not started says at most that a file is not there. -/
theorem oneLine_of_not_due (hfiles : ∀ f ∈ files, '\n' ∉ f.chars) (hdue : ¬ l.Due s.tree files)
    (h : (l.run c run files s).1 = .ok r) : ∀ d ∈ r.diagnostics, d.OneLine := by
  rcases run_cases l s files with hl | ⟨hl, missing, hm⟩ | ⟨hl, rfl⟩ | ⟨hl, hall, first, rest, rfl⟩
  · rw [run_of_disabled hl] at h
    cases h
    simp
  · rw [run_of_missing hl hm] at h
    cases h
    have hfile := hfiles missing (List.mem_of_find?_eq_some hm)
    intro d hd
    obtain rfl := List.mem_singleton.1 hd
    exact (oneLine_ofFile_iff hfile).2 (by decide)
  · rw [run_of_nil hl] at h
    cases h
    simp
  · exact absurd ⟨hl, by simp, hall⟩ hdue

/-- One that is started says what its output means. -/
theorem oneLine_iff_of_due (hfiles : ∀ f ∈ files, '\n' ∉ f.chars) (hdue : l.Due s.tree files)
    (h : (l.run c run files s).1 = .ok r) :
    ∃ i o, l.StartsOn c s.tree files i ∧ (run i s.runner s.tree).1 = .ok o ∧
      ((∀ d ∈ r.diagnostics, d.OneLine) ↔ KeepsLines l.kind o) := by
  obtain ⟨i, o, hstart, ho, rfl⟩ := exists_output_of_due hdue h
  exact ⟨i, o, hstart, ho, oneLine_reportOf_iff hdue.2.1 hfiles⟩

end Linter

namespace Checker

variable {σ : Type} {k : Checker} {run : Runner σ} {files : List Path} {s : Session σ}
  {runs : List LintRun}

/-- **The lines of the compact report.** It is the diagnostics of the call in order, each ended by
a line feed. Its lines are the diagnostics, and there are as many of the one as of the other, just
if no diagnostic has a line feed of its own. If the names of the files have none, then a run whose
linter was not started has none either; and one whose linter was started has one just if the
output does not keep to lines, which takes complaints or ESLint. -/
theorem compact_lines (h : (k.lint run files s).1 = .ok runs) :
    let ds := Report.Compact.diagnostics runs
    let report := (Report.render .compact runs).toList
    report = Text.ended '\n' (ds.map (·.display.toList)) ∧
    (Text.fields '\n' report = ds.map (·.display.toList) ++ [[]] ↔ ∀ d ∈ ds, d.OneLine) ∧
    (report.count '\n' = ds.length ↔ ∀ d ∈ ds, d.OneLine) ∧
    ∀ r ∈ runs, (∀ f ∈ r.files, '\n' ∉ f.chars) →
      (∃ s₁ : Session σ, k.Answers run r s₁) ∧
      ∀ s₁ : Session σ, k.Answers run r s₁ →
        (¬ (k.linter r.linter).Due s₁.tree r.files → ∀ d ∈ r.diagnostics, d.OneLine) ∧
        ((k.linter r.linter).Due s₁.tree r.files → ∃ i o,
          (k.linter r.linter).StartsOn k.context s₁.tree r.files i ∧
          (run i s₁.runner s₁.tree).1 = .ok o ∧
          ((∀ d ∈ r.diagnostics, d.OneLine) ↔ Output.KeepsLines r.linter o)) := by
  intro ds report
  have hreport : report = Text.ended '\n' (ds.map (·.display.toList)) := Report.toList_compact runs
  have hall : (∀ l ∈ ds.map (·.display.toList), '\n' ∉ l) ↔ ∀ d ∈ ds, d.OneLine := by
    simp only [List.forall_mem_map, Diagnostic.OneLine]
  refine ⟨hreport, ?_, ?_, fun r hr hfiles => ⟨answered_of_lint h r hr, fun s₁ hanswer => ?_⟩⟩
  · rw [hreport, Text.fields_ended_iff, hall]
  · rw [hreport, ← hall, ← Text.count_ended_iff, List.length_map]
  · refine ⟨fun hdue => Linter.oneLine_of_not_due hfiles hdue hanswer, fun hdue => ?_⟩
    obtain ⟨i, o, hstart, ho, hiff⟩ := Linter.oneLine_iff_of_due hfiles hdue hanswer
    rw [linter_kind] at hiff
    exact ⟨i, o, hstart, ho, hiff⟩

/-- Answers every start with a complaint on one line. -/
def murmuring : Runner Unit := fun _ u t => (.ok ⟨"", "out of memory", some 1⟩, u, t)

theorem compact_lines_murmuring :
    let s : Session Unit := ⟨twoFiles, (), [], []⟩
    let d : Diagnostic := .ofFile .tsLint ⟨"/b.ts"⟩ .error "out of memory"
    let runs : List LintRun := [⟨.tsLint, [⟨"/b.ts"⟩], [d]⟩]
    (twoLinters.lint murmuring [⟨"/b.ts"⟩] s).1 = .ok runs ∧ d.OneLine ∧
      Text.fields '\n' (Report.render .compact runs).toList = [d.display.toList, []] := by
  intro s d runs
  have hlint : (twoLinters.lint murmuring [⟨"/b.ts"⟩] s).1 = .ok runs := by decide +kernel
  obtain ⟨-, hfields, -, hruns⟩ := compact_lines hlint
  obtain ⟨⟨s₁, hanswer⟩, hlines⟩ := hruns ⟨.tsLint, [⟨"/b.ts"⟩], [d]⟩ (List.mem_cons_self ..)
    (by decide)
  obtain ⟨hidle, hstarted⟩ := hlines s₁ hanswer
  have hd : d.OneLine := by
    by_cases hdue : (twoLinters.linter .tsLint).Due s₁.tree [⟨"/b.ts"⟩]
    · obtain ⟨i, o, -, ho, hiff⟩ := hstarted hdue
      -- the complaint keeps to one line
      obtain rfl : ⟨"", "out of memory", some 1⟩ = o := Except.ok.inj ho
      have hkeeps : Output.KeepsLines .tsLint ⟨"", "out of memory", some 1⟩ := by
        unfold Output.KeepsLines
        rw [if_pos rfl]
        decide
      exact hiff.2 hkeeps d (List.mem_cons_self ..)
    · exact hidle hdue d (List.mem_cons_self ..)
  exact ⟨hlint, hd, hfields.2 (List.forall_mem_singleton.2 hd)⟩

/-- ESLint shows a line of the source in its message, and TSLint ends with a trace of its stack. -/
def rambling : Runner Unit := fun i u t =>
  (.ok (if i.files = [⟨"/b.ts"⟩] then ⟨"", "Cannot find module\n    at require", some 1⟩
    else ⟨"[\x7b\"filePath\": \"/a.js\", \"messages\": [\x7b\"message\": " ++
      "\"Unexpected token\\n  1 | var\"\x7d]\x7d]", "", some 1⟩), u, t)

/-- Two diagnostics, on four lines. -/
theorem compact_lines_rambling :
    let s : Session Unit := ⟨twoFiles, (), [], []⟩
    let runs : List LintRun :=
      [⟨.esLint, [⟨"/a.js"⟩], [.ofFile .esLint ⟨"/a.js"⟩ .warning "Unexpected token\n  1 | var"]⟩,
        ⟨.tsLint, [⟨"/b.ts"⟩],
          [.ofFile .tsLint ⟨"/b.ts"⟩ .error "Cannot find module\n    at require"]⟩]
    (twoLinters.lint rambling [⟨"/a.js"⟩, ⟨"/b.ts"⟩] s).1 = .ok runs ∧
      (Report.Compact.diagnostics runs).length = 2 ∧
      Text.fields '\n' (Report.render .compact runs).toList =
        ["/a.js: warning (ESLint) Unexpected token".toList, "  1 | var".toList,
          "/b.ts: error (TSLint) Cannot find module".toList, "    at require".toList, []] := by
  decide +kernel

end Checker
end LintHub
