import LintHub.Proofs.Lint
import LintHub.Proofs.Output.Reported
import LintHub.Report.Text

/-!
# Positions that people read

The text report adds one to a position in 32 bits; a diagnostic shown on one line adds it
without a limit. On what `lint` returns the two are the same number, since every diagnostic
there leaves room for one more, whichever linter it is from.

* `run_reportedBy`: what a run of a linter holds.
* `positions_agree`: the runs of a call, and the two ways to print their positions.
-/

namespace LintHub

theorem Diagnostic.ofFile_reportedBy {kind : Kind} {file : Path} {files : List Path}
    (h : file ∈ files) (severity : Severity) (message : String) :
    (Diagnostic.ofFile kind file severity message).ReportedBy kind files :=
  ⟨rfl, nofun, nofun, fun hcode => absurd rfl hcode, fun _ => rfl, fun _ => h⟩

namespace Linter

variable {σ : Type} {l : Linter} {c : LintContext} {run : Runner σ} {files : List Path}
  {s : Session σ}

theorem diagnose_reportedBy (kind : Kind) (first : Path) (rest : List Path) (o : Output) :
    ∀ d ∈ diagnose kind first (first :: rest) o, d.ReportedBy kind (first :: rest) := by
  intro d hd
  unfold diagnose at hd
  split at hd
  · exact kind.read_reportedBy o.stdout (first :: rest) d hd
  · split at hd
    · obtain rfl := List.mem_singleton.1 hd
      exact Diagnostic.ofFile_reportedBy (List.mem_cons_self ..) .error o.stderr
    · cases hd

/-- **A run of a linter** holds only what its linter may report on its files. -/
theorem run_reportedBy {r : LintRun} (h : (l.run c run files s).1 = .ok r) :
    ∀ d ∈ r.diagnostics, d.ReportedBy r.linter r.files := by
  rcases run_cases l s files with hl | ⟨hl, missing, hm⟩ | ⟨hl, rfl⟩ | ⟨hl, hall, first, rest, rfl⟩
  · rw [run_of_disabled hl] at h
    cases h
    simp
  · rw [run_of_missing hl hm] at h
    cases h
    intro d hd
    obtain rfl := List.mem_singleton.1 hd
    have hmem : missing ∈ files := List.mem_of_find?_eq_some hm
    exact Diagnostic.ofFile_reportedBy hmem .error Diagnostic.missingFileMessage
  · rw [run_of_nil hl] at h
    cases h
    simp
  · rw [run_of_files hl hall] at h
    simp only at h
    split at h
    · cases h
    · rename_i o _
      cases h
      exact diagnose_reportedBy l.kind first rest o

end Linter

namespace Report

/-- Below the largest number, one more is no overflow. -/
theorem oneBased_toNat {n : UInt32} (h : n.toNat ≤ UInt32.size - 2) :
    (oneBased n).toNat = n.toNat + 1 := by
  have hsize : UInt32.size = 4294967296 := rfl
  unfold oneBased
  rw [UInt32.toNat_add, UInt32.toNat_one]
  exact Nat.mod_eq_of_lt (by omega)

/-- The number is the same in 64 bits. -/
theorem oneBased_toUInt64 {n : UInt32} (h : n.toNat ≤ UInt32.size - 2) :
    (oneBased n).toUInt64 = n.toUInt64 + 1 := by
  have hsize : UInt32.size = 4294967296 := rfl
  apply UInt64.toNat_inj.1
  rw [UInt32.toNat_toUInt64, oneBased_toNat h, UInt64.toNat_add, UInt32.toNat_toUInt64,
    UInt64.toNat_one]
  exact (Nat.mod_eq_of_lt (by omega)).symm

theorem position_some {n : UInt32} (h : n.toNat ≤ UInt32.size - 2) :
    position (some n) = toString (n.toNat + 1) := by
  rw [position, oneBased_toNat h]

/-- A position behind a file name, in the numbers of the report. -/
def suffix (d : Diagnostic) : String :=
  match d.line, d.column with
  | none, _ => ""
  | some l, none => ":" ++ position (some l)
  | some l, some c => ":" ++ position (some l) ++ ":" ++ position (some c)

theorem positionSuffix_eq_suffix {d : Diagnostic} {kind : Kind} {files : List Path}
    (h : d.ReportedBy kind files) : d.positionSuffix = suffix d := by
  unfold Diagnostic.positionSuffix suffix
  cases hline : d.line with
  | none => rfl
  | some l =>
    cases hcolumn : d.column with
    | none => simp [position_some (h.line_le l hline)]
    | some c =>
      simp [position_some (h.line_le l hline), position_some (h.column_le c hcolumn),
        String.append_assoc]

end Report

namespace Checker

variable {σ : Type} {k : Checker} {run : Runner σ} {files : List Path} {s : Session σ}
  {runs : List LintRun}

/-- **Positions never overflow.** Every diagnostic of a call is one that the linter of its run
may report on the files of its run; adding one to its positions in 32 bits gives the next
number, the one that 64 bits give; and the report prints the numbers that the diagnostic on one
line shows. -/
theorem positions_agree (h : (k.lint run files s).1 = .ok runs) :
    ∀ r ∈ runs, ∀ d ∈ r.diagnostics,
      d.ReportedBy r.linter r.files ∧
      (∀ n, d.line = some n ∨ d.column = some n →
        (Report.oneBased n).toNat = n.toNat + 1 ∧
        (Report.oneBased n).toUInt64 = n.toUInt64 + 1 ∧
        Report.position (some n) = toString (n.toUInt64 + 1).toNat) ∧
      d.positionSuffix = Report.suffix d := by
  intro r hr d hd
  have hreported : d.ReportedBy r.linter r.files :=
    forall_of_lint_ok (fun _ _ _ _ hrun => Linter.run_reportedBy hrun) h r hr d hd
  refine ⟨hreported, fun n hn => ?_, Report.positionSuffix_eq_suffix hreported⟩
  have hle : n.toNat ≤ UInt32.size - 2 := by
    rcases hn with hline | hcolumn
    · exact hreported.line_le n hline
    · exact hreported.column_le n hcolumn
  have hwide := Report.oneBased_toUInt64 hle
  refine ⟨Report.oneBased_toNat hle, hwide, ?_⟩
  rw [← hwide, UInt32.toNat_toUInt64, Report.position]

/-- Answers every start with an issue at the last position that there is, and one behind it. -/
def farAway : Runner Unit := fun _ u t =>
  (.ok ⟨"/b.ts[4294967295, 4294967296]: far", "", some 0⟩, u, t)

theorem positions_agree_far_away :
    let s : Session Unit := ⟨twoFiles, (), [], []⟩
    let d : Diagnostic := ⟨⟨"/b.ts"⟩, some 4294967294, none, "far", .warning, none, .tsLint⟩
    (twoLinters.lint farAway [⟨"/b.ts"⟩] s).1 = .ok [⟨.tsLint, [⟨"/b.ts"⟩], [d]⟩] ∧
      (Report.oneBased 4294967294).toNat = 4294967295 ∧
      d.positionSuffix = ":4294967295" := by
  intro s d
  have hlint : (twoLinters.lint farAway [⟨"/b.ts"⟩] s).1 = .ok [⟨.tsLint, [⟨"/b.ts"⟩], [d]⟩] := by
    decide +kernel
  obtain ⟨-, hnumbers, hsuffix⟩ := positions_agree hlint _ (List.mem_cons_self ..) d
    (List.mem_cons_self ..)
  exact ⟨hlint, (hnumbers 4294967294 (.inl rfl)).1, hsuffix.trans (by decide +kernel)⟩

end Checker
end LintHub
