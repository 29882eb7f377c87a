import LintHub.Output

/-!
# What any output can report

Whatever a linter writes, its diagnostics are of one form: the positions leave room for one
more in 32 bits, and some of the fields are only there for some of the linters.

* `Kind.read_reportedBy`: the diagnostics that are read from any output.
-/

namespace LintHub

/-- A diagnostic that a linter of this kind may report on these files. -/
structure Diagnostic.ReportedBy (d : Diagnostic) (kind : Kind) (files : List Path) : Prop where
  linter : d.linter = kind
  line_le : ∀ n, d.line = some n → n.toNat ≤ UInt32.size - 2
  column_le : ∀ n, d.column = some n → n.toNat ≤ UInt32.size - 2
  /-- Only ESLint names the rule. -/
  code : d.code ≠ none → kind = .esLint
  /-- CoffeeLint gives no column. -/
  noColumn : kind = .coffeeLint → d.column = none
  /-- CSS Lint is taken to speak of the files that it was given. -/
  file : kind = .cssLint → d.file ∈ files

namespace Output

theorem zeroBased_le (n : UInt32) : (zeroBased n).toNat ≤ UInt32.size - 2 := by
  have hlt : n.toNat < UInt32.size := n.toNat_lt
  rw [toNat_zeroBased]
  omega

theorem position?_le {ds : List Char} {n : UInt32} (h : position? ds = some n) :
    n.toNat ≤ UInt32.size - 2 := by
  unfold position? at h
  simp only at h
  split at h
  · cases h
    exact zeroBased_le _
  · cases h

theorem zeroBased_map_le {m : Option UInt32} {n : UInt32} (h : m.map zeroBased = some n) :
    n.toNat ≤ UInt32.size - 2 := by
  obtain ⟨m, -, rfl⟩ := Option.map_eq_some_iff.1 h
  exact zeroBased_le m

theorem Prose.reportedBy {line : List Char} {d : Diagnostic} (h : diagnostic? line = some d)
    (files : List Path) : d.ReportedBy .tsLint files := by
  obtain ⟨⟨severity, p⟩, -, rfl⟩ := Option.map_eq_some_iff.1 h
  exact ⟨rfl, fun _ => position?_le, fun _ => position?_le, fun hcode => absurd rfl hcode,
    nofun, nofun⟩

theorem Csv.reportedBy {line : List Char} {d : Diagnostic} (h : diagnostic? line = some d)
    (files : List Path) : d.ReportedBy .coffeeLint files := by
  obtain ⟨p, -, rfl⟩ := Option.map_eq_some_iff.1 h
  exact ⟨rfl, fun _ => position?_le, nofun, fun hcode => absurd rfl hcode, fun _ => rfl, nofun⟩

/-- A text names one of the files, or else the first of them is meant. -/
theorem Compact.fileFor_mem (first : Path) (rest : List Path) (text : List Char) :
    fileFor first (first :: rest) text ∈ first :: rest := by
  unfold fileFor
  generalize hfind : (first :: rest).find? _ = found
  cases found with
  | none => exact List.mem_cons_self ..
  | some f => exact List.mem_of_find?_eq_some hfind

theorem Compact.reportedBy {first : Path} {rest : List Path} {line : List Char} {d : Diagnostic}
    (h : diagnostic? first (first :: rest) line = some d) :
    d.ReportedBy .cssLint (first :: rest) := by
  obtain ⟨p, -, rfl⟩ := Option.map_eq_some_iff.1 h
  exact ⟨rfl, fun _ => position?_le, fun _ => position?_le, fun hcode => absurd rfl hcode,
    nofun, fun _ => fileFor_mem first rest p.file⟩

theorem Results.reportedBy (file : Path) (m : Message) (files : List Path) :
    (m.diagnostic file).ReportedBy .esLint files :=
  ⟨rfl, fun _ => zeroBased_map_le, fun _ => zeroBased_map_le, fun _ => rfl, nofun, nofun⟩

end Output

/-- **Whatever a linter writes**, each diagnostic that is read from it is of this form. -/
theorem Kind.read_reportedBy (kind : Kind) (output : String) (files : List Path) :
    ∀ d ∈ kind.read output files, d.ReportedBy kind files := by
  intro d hd
  cases kind with
  | esLint =>
    unfold read Output.Results.read at hd
    simp only at hd
    split at hd
    · cases hd
    · obtain ⟨r, -, hd⟩ := List.mem_flatMap.1 hd
      obtain ⟨m, -, rfl⟩ := List.mem_map.1 hd
      exact Output.Results.reportedBy r.file m files
  | tsLint =>
    obtain ⟨line, -, hline⟩ := List.mem_filterMap.1 hd
    exact Output.Prose.reportedBy hline files
  | coffeeLint =>
    obtain ⟨line, -, hline⟩ := List.mem_filterMap.1 hd
    exact Output.Csv.reportedBy hline files
  | cssLint =>
    cases files with
    | nil => cases hd
    | cons first rest =>
      obtain ⟨line, -, hline⟩ := List.mem_filterMap.1 hd
      exact Output.Compact.reportedBy hline

end LintHub
