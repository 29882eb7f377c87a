import LintHub.Exchange
import LintHub.Proofs.Json.Numbers

/-!
# Diagnostics, runs and summaries read back

What is written of a diagnostic or of a run as JSON is read back as it was: whatever its texts
are, with a position or without, with a rule's code, an empty code or none.

* `fields?_toJson`: the members that a reader finds under their names.
* `ofJson?_toJson`: what is read back.
* `isText_toJson`: each is a value that JSON can say.
-/

namespace LintHub

open Json

/-- Reading takes back what writing did, item by item. -/
theorem mapM_map_of_inverse {α β : Type} {f : α → β} {read : β → Option α}
    (h : ∀ a, read (f a) = some a) (as : List α) : (as.map f).mapM read = some as := by
  induction as with
  | nil => rfl
  | cons a as ih => simp [h, ih]

@[simp]
theorem Severity.ofJson?_text (s : Severity) : ofJson? (.text s.word) = some s := by
  cases s <;> rfl

@[simp]
theorem Kind.ofJson?_text (k : Kind) : ofJson? (.text k.tool) = some k := by
  cases k <;> decide

@[simp]
theorem Path.ofJson?_text (p : Path) : ofJson? (.text p.text) = some p := rfl

@[simp]
theorem asText?_text (s : String) : (Value.text s).asText? = some s := rfl

@[simp]
theorem word32?_nat (n : UInt32) : word32? (.nat n.toNat) = some n := by
  rw [word32?, natBelow?_nat n.toNat_lt_size, Option.map_some, UInt32.ofNat_toNat]

/-- A value that is written as `null` when it is left out is read back, unless it is itself
written so. -/
theorem optionalField?_optional {α : Type} {f : α → Value} {read : Value → Option α}
    (h : ∀ a, read (f a) = some a) (hnull : ∀ a, f a ≠ .null) (a : Option α) :
    optionalField? read (some (.optional f a)) = some a := by
  cases a with
  | none => rfl
  | some a =>
    have hread : optionalField? read (some (f a)) = (read (f a)).map some := by
      unfold optionalField?
      split
      · contradiction
      · rename_i heq
        exact absurd (Option.some.inj heq) (hnull a)
      · rename_i heq
        rw [Option.some.inj heq]
    rw [Value.optional, hread, h, Option.map_some]

namespace Diagnostic

/-- A position as JSON. -/
def placeJson : Option UInt32 → Value := .optional fun n => .nat n.toNat

theorem optionalField?_placeJson (n : Option UInt32) :
    optionalField? word32? (some (placeJson n)) = some n :=
  optionalField?_optional word32?_nat (fun _ => nofun) n

/-- The members of a diagnostic under their names; only a rule's code may be missing. -/
theorem fields?_toJson (d : Diagnostic) :
    fields? fieldNames d.toJson =
      some [some (.text d.file.text), some (placeJson d.line), some (placeJson d.column),
        some (.text d.message), some (.text d.severity.word), d.code.map .text,
        some (.text d.linter.tool)] := by
  obtain ⟨file, line, column, message, severity, code, linter⟩ := d
  cases code with
  | none =>
    rw [toJson, fields?_record (by simp)]
    simp [fieldNames, placeJson, List.lookup_cons]
  | some c =>
    rw [toJson, fields?_record (by simp)]
    simp [fieldNames, placeJson, List.lookup_cons]

/-- **A diagnostic** is read back. -/
theorem ofJson?_toJson (d : Diagnostic) : ofJson? d.toJson = some d := by
  have hcode : optionalField? Value.asText? (d.code.map .text) = some d.code := by
    cases d.code <;> rfl
  rw [ofJson?, fields?_toJson]
  simp [optionalField?_placeJson, hcode]

theorem isText_toJson (d : Diagnostic) : d.toJson.IsText := by
  have hplace (n : Option UInt32) : (placeJson n).IsText := .optional (fun _ => .nat _) n
  refine .record fun m hm => ?_
  rw [List.mem_append, List.mem_append] at hm
  rcases hm with (hm | hm) | hm
  · simp only [List.mem_cons, List.not_mem_nil, or_false] at hm
    rcases hm with rfl | rfl | rfl | rfl | rfl
    · exact .text _
    · exact hplace d.line
    · exact hplace d.column
    · exact .text _
    · exact .text _
  · cases hcode : d.code with
    | none =>
      rw [hcode] at hm
      exact absurd hm List.not_mem_nil
    | some c =>
      rw [hcode, List.mem_singleton] at hm
      exact hm ▸ .text c
  · rw [List.mem_singleton] at hm
    exact hm ▸ .text _

end Diagnostic

namespace LintRun

/-- The members of a run under their names. -/
theorem fields?_toJson (r : LintRun) :
    fields? fieldNames r.toJson =
      some [some (.text r.linter.tool), some (.array (r.files.map fun f => .text f.text)),
        some (.array (r.diagnostics.map Diagnostic.toJson))] := by
  rw [toJson, fields?_record (by simp)]
  simp [fieldNames, List.lookup_cons]

/-- **A run** is read back. -/
theorem ofJson?_toJson (r : LintRun) : ofJson? r.toJson = some r := by
  have hfiles : (r.files.map fun f => Value.text f.text).mapM Path.ofJson? = some r.files :=
    mapM_map_of_inverse Path.ofJson?_text r.files
  have hdiagnostics :
      (r.diagnostics.map Diagnostic.toJson).mapM Diagnostic.ofJson? = some r.diagnostics :=
    mapM_map_of_inverse Diagnostic.ofJson?_toJson r.diagnostics
  rw [ofJson?, fields?_toJson]
  simp [Value.asList?, hfiles, hdiagnostics]

theorem isText_toJson (r : LintRun) : r.toJson.IsText := by
  refine .record fun m hm => ?_
  simp only [List.mem_cons, List.not_mem_nil, or_false] at hm
  rcases hm with rfl | rfl | rfl
  · exact .text _
  · refine .array fun v hv => ?_
    obtain ⟨f, -, rfl⟩ := List.mem_map.1 hv
    exact .text _
  · refine .array fun v hv => ?_
    obtain ⟨d, -, rfl⟩ := List.mem_map.1 hv
    exact d.isText_toJson

end LintRun

namespace Summary

theorem isText_toJson (s : Summary) : s.toJson.IsText := by
  refine .record fun m hm => ?_
  simp only [List.mem_cons, List.not_mem_nil, or_false] at hm
  rcases hm with rfl | rfl | rfl | rfl <;> exact .nat _

/-- The summary a JSON value writes. -/
def ofJson? (v : Value) : Option Summary :=
  match fields? ["runs", "files", "errors", "warnings"] v with
  | some [some runs, some files, some errors, some warnings] => do
    let runs ← runs.asNat?
    let files ← files.asNat?
    let errors ← errors.asNat?
    let warnings ← warnings.asNat?
    return { runs, files, errors, warnings }
  | _ => none

/-- **A summary** is read back. -/
theorem ofJson?_toJson (s : Summary) : ofJson? s.toJson = some s := by
  rw [ofJson?, toJson, fields?_record (by simp)]
  simp [List.lookup_cons]

end Summary

end LintHub
