import LintHub.Output
import LintHub.Proofs.Json.Records
import Mathlib.Algebra.GroupWithZero.Nat

/-!
# The grammar of ESLint's results

ESLint writes one JSON array with a result for each file, and each result has its messages. What a
value must be to count as a message or as a result is said here field by field. An output counts
only as a whole: one value of another form, however deep inside, and nothing is read.

* `Results.Message.ofJson?_eq_some_iff`, `Results.FileResult.ofJson?_eq_some_iff`: which values
  are read.
* `Results.results?_eq_some_iff`: which outputs are read.
* `esLint_read_iff`: what is read from an output.
-/

namespace LintHub.Output

open Json

namespace Results

variable {v : Value} {m : Message} {r : FileResult} {rs : List FileResult} {output : String}

/-- A value is a number of 32 bits. -/
def IsWord (v : Value) (n : UInt32) : Prop := IsNat v n.toNat

/-- A value is a number of 8 bits. -/
def IsByte (v : Value) (n : Nat) : Prop := IsNat v n ∧ n < 256

/-- A value is a text. -/
def IsText (v : Value) (s : String) : Prop := v = .text s

/-- A value is a message: its text is there, its severity is zero unless given, and its place and
rule may be left out. -/
inductive Message.IsWritten : Value → Message → Prop where
  | mk {v : Value} {m : Message} {line column severity rule : Option Value}
      (fields : HasFields ["line", "column", "message", "severity", "ruleId"] v
        [line, column, some (.text m.text), severity, rule])
      (hline : Optional IsWord line m.line) (hcolumn : Optional IsWord column m.column)
      (hseverity : Defaulted 0 IsByte severity m.severity)
      (hrule : Optional IsText rule m.rule) : IsWritten v m

/-- A value is the result of a file: its path is there, and there are no messages unless given. -/
inductive FileResult.IsWritten : Value → FileResult → Prop where
  | mk {v : Value} {r : FileResult} {messages : Option Value}
      (fields : HasFields ["filePath", "messages"] v [some (.text r.file.text), messages])
      (hmessages : Defaulted [] (IsList Message.IsWritten) messages r.messages) : IsWritten v r

/-- An output is a JSON text for these results. -/
def Decodes (output : String) (rs : List FileResult) : Prop :=
  ∃ v, parse? output = some v ∧ IsList FileResult.IsWritten v rs

/-- What is made of a message: its numbers count from one and those of a diagnostic from zero. -/
structure Reports (file : Path) (m : Message) (d : Diagnostic) : Prop where
  file : d.file = file
  message : d.message = m.text
  severity : d.severity = .error ↔ m.severity = 2
  line : d.line.map UInt32.toNat = m.line.map fun n => n.toNat - 1
  column : d.column.map UInt32.toNat = m.column.map fun n => n.toNat - 1
  code : d.code = m.rule
  linter : d.linter = .esLint

/-- These are the diagnostics of these results, one for each message, file by file. -/
inductive Issues : List FileResult → List Diagnostic → Prop where
  | none : Issues [] []
  | file {r : FileResult} {rs : List FileResult} {ds rest : List Diagnostic}
      (messages : List.Forall₂ (Reports r.file) r.messages ds) :
      Issues rs rest → Issues (r :: rs) (ds ++ rest)

theorem word32?_eq_some_iff (v : Value) (n : UInt32) : word32? v = some n ↔ IsWord v n := by
  unfold word32? IsWord
  rw [Option.map_eq_some_iff]
  constructor
  · rintro ⟨k, hk, rfl⟩
    obtain ⟨hnat, hlt⟩ := natBelow?_eq_some_iff.1 hk
    rwa [UInt32.toNat_ofNat_of_lt' hlt]
  · intro h
    exact ⟨n.toNat, natBelow?_eq_some_iff.2 ⟨h, n.toNat_lt⟩, UInt32.ofNat_toNat⟩

/-- **A message is read** just where one is written. -/
theorem Message.ofJson?_eq_some_iff (v : Value) (m : Message) :
    ofJson? v = some m ↔ IsWritten v m := by
  constructor
  · intro h
    unfold ofJson? at h
    split at h
    · rename_i line column text severity rule hfields
      simp only [bind, Option.bind_eq_some_iff, pure, Option.some.injEq] at h
      obtain ⟨line', hline, column', hcolumn, text', htext, severity', hseverity, rule', hrule,
        rfl⟩ := h
      obtain rfl := asText?_eq_some_iff.1 htext
      exact .mk (fields?_eq_some_iff.1 hfields)
        ((optionalField?_eq_some_iff word32?_eq_some_iff).1 hline)
        ((optionalField?_eq_some_iff word32?_eq_some_iff).1 hcolumn)
        ((defaultField?_eq_some_iff fun _ _ => natBelow?_eq_some_iff).1 hseverity)
        ((optionalField?_eq_some_iff fun _ _ => asText?_eq_some_iff).1 hrule)
    · cases h
  · rintro ⟨fields, hline, hcolumn, hseverity, hrule⟩
    have hline' := (optionalField?_eq_some_iff word32?_eq_some_iff).2 hline
    have hcolumn' := (optionalField?_eq_some_iff word32?_eq_some_iff).2 hcolumn
    have hseverity' := (defaultField?_eq_some_iff fun _ _ => natBelow?_eq_some_iff).2 hseverity
    have hrule' := (optionalField?_eq_some_iff fun _ _ => asText?_eq_some_iff).2 hrule
    have htext : (Value.text m.text).asText? = some m.text := rfl
    unfold ofJson?
    rw [fields?_eq_some_iff.2 fields]
    simp only [bind, hline', hcolumn', htext, hseverity', hrule', Option.bind_some]
    rfl

/-- **A file's result is read** just where one is written. -/
theorem FileResult.ofJson?_eq_some_iff (v : Value) (r : FileResult) :
    ofJson? v = some r ↔ IsWritten v r := by
  have hmessages (v : Value) (ms : List Message) :
      messages? v = some ms ↔ IsList Message.IsWritten v ms := by
    simp only [messages?, bind, Option.bind_eq_some_iff, asList?_eq_some_iff,
      mapM_eq_some_iff Message.ofJson?_eq_some_iff]
    rfl
  constructor
  · intro h
    unfold ofJson? at h
    split at h
    · rename_i file messages hfields
      simp only [bind, Option.bind_eq_some_iff, pure, Option.some.injEq] at h
      obtain ⟨file', hfile, messages', hms, rfl⟩ := h
      obtain ⟨text, htext, rfl⟩ := Option.map_eq_some_iff.1 hfile
      obtain rfl := asText?_eq_some_iff.1 htext
      exact .mk (fields?_eq_some_iff.1 hfields) ((defaultField?_eq_some_iff hmessages).1 hms)
    · cases h
  · rintro ⟨fields, hms⟩
    have hms' := (defaultField?_eq_some_iff hmessages).2 hms
    have hfile : Path.ofJson? (.text r.file.text) = some r.file := rfl
    unfold ofJson?
    rw [fields?_eq_some_iff.2 fields]
    simp only [bind, hfile, hms', Option.bind_some]
    rfl

/-- **An output is read** if all of it is written so. -/
theorem results?_eq_some_iff : results? output = some rs ↔ Decodes output rs := by
  simp only [results?, bind, Option.bind_eq_some_iff, asList?_eq_some_iff,
    mapM_eq_some_iff FileResult.ofJson?_eq_some_iff]
  rfl

theorem map_zeroBased_eq_iff {n place : Option UInt32} :
    n.map zeroBased = place ↔ place.map UInt32.toNat = n.map fun n => n.toNat - 1 := by
  have hzero : (n.map zeroBased).map UInt32.toNat = n.map fun n => n.toNat - 1 := by
    rw [Option.map_map]
    exact congrArg (n.map ·) (funext toNat_zeroBased)
  constructor
  · rintro rfl
    exact hzero
  · intro h
    have hinj : Function.Injective (Option.map UInt32.toNat) :=
      Option.map_injective fun _ _ => UInt32.toNat_inj.1
    exact hinj (hzero.trans h.symm)

theorem diagnostic_eq_iff {file : Path} {d : Diagnostic} :
    m.diagnostic file = d ↔ Reports file m d := by
  constructor
  · rintro rfl
    have hseverity : (m.diagnostic file).severity = .error ↔ m.severity = 2 := by
      by_cases h : m.severity = 2 <;> simp [Message.diagnostic, errorLevel, h]
    exact ⟨rfl, rfl, hseverity, map_zeroBased_eq_iff.1 rfl, map_zeroBased_eq_iff.1 rfl, rfl, rfl⟩
  · obtain ⟨file', line, column, message, severity, code, linter⟩ := d
    rintro ⟨rfl, rfl, hseverity, hline, hcolumn, rfl, rfl⟩
    have hlevel : (if m.severity = errorLevel then Severity.error else .warning) = severity := by
      cases severity with
      | error => exact if_pos (hseverity.1 rfl)
      | warning => exact if_neg fun h => nomatch hseverity.2 h
    simp only [Message.diagnostic, map_zeroBased_eq_iff.2 hline, map_zeroBased_eq_iff.2 hcolumn,
      hlevel]

/-- One diagnostic for each message, in order. -/
theorem flatMap_diagnostics_eq_iff {ds : List Diagnostic} :
    rs.flatMap FileResult.diagnostics = ds ↔ Issues rs ds := by
  have hfile (r : FileResult) : List.Forall₂ (Reports r.file) r.messages r.diagnostics := by
    unfold FileResult.diagnostics
    rw [List.forall₂_map_right_iff]
    exact List.forall₂_same.2 fun m _ => diagnostic_eq_iff.1 rfl
  constructor
  · rintro rfl
    induction rs with
    | nil => exact .none
    | cons r rs ih =>
      rw [List.flatMap_cons]
      exact .file (hfile r) ih
  · intro h
    induction h with
    | none => rfl
    | @file r rs ds rest messages _ ih =>
      have hds : r.diagnostics = ds := by
        unfold FileResult.diagnostics
        rw [← List.forall₂_eq_eq_eq, List.forall₂_map_left_iff]
        exact messages.imp fun m d => diagnostic_eq_iff.2
      rw [List.flatMap_cons, hds, ih]

theorem Issues.length {ds : List Diagnostic} (h : Issues rs ds) :
    ds.length = (rs.map fun r => r.messages.length).sum := by
  induction h with
  | none => rfl
  | file messages _ ih =>
    rw [List.length_append, ih, ← messages.length_eq, List.map_cons, List.sum_cons]

/-- A value can be read as a file's result if each of the messages in it can be read. -/
theorem FileResult.exists_isWritten_iff : (∃ r, IsWritten v r) ↔
    ∃ file messages, HasFields ["filePath", "messages"] v [some (.text file), messages] ∧
      (messages = none ∨
        ∃ ms, messages = some (.array ms) ∧ ∀ m ∈ ms, ∃ x, Message.IsWritten m x) := by
  constructor
  · rintro ⟨r, fields, hmessages⟩
    refine ⟨r.file.text, _, fields, ?_⟩
    generalize r.messages = ms at hmessages
    cases hmessages with
    | absent => exact .inl rfl
    | given said =>
      obtain ⟨items, rfl, hitems⟩ := said
      exact .inr ⟨items, rfl, exists_forall₂_iff.1 ⟨_, hitems⟩⟩
  · rintro ⟨file, messages, fields, rfl | ⟨ms, rfl, hms⟩⟩
    · exact ⟨⟨⟨file⟩, []⟩, .mk fields .absent⟩
    · obtain ⟨xs, hxs⟩ := exists_forall₂_iff.2 hms
      exact ⟨⟨⟨file⟩, xs⟩, .mk fields (.given ⟨ms, rfl, hxs⟩)⟩

theorem exists_decodes_iff : (∃ rs, Decodes output rs) ↔
    ∃ items, parse? output = some (.array items) ∧
      ∀ item ∈ items, ∃ r, FileResult.IsWritten item r := by
  constructor
  · rintro ⟨rs, v, hv, items, rfl, hitems⟩
    exact ⟨items, hv, exists_forall₂_iff.1 ⟨rs, hitems⟩⟩
  · rintro ⟨items, hv, hitems⟩
    obtain ⟨rs, hrs⟩ := exists_forall₂_iff.2 hitems
    exact ⟨rs, _, hv, items, rfl, hrs⟩

end Results

/-- **What is read from ESLint's output** is one diagnostic for each message, in order, if the
output is an array of results as a whole, and else nothing; and a single value that is no result,
or a single message in one of them that is none, makes that it is not. -/
theorem esLint_read_iff (output : String) (files : List Path) (ds : List Diagnostic) :
    (Kind.esLint.read output files = ds ↔
      (∃ rs, Results.Decodes output rs ∧ Results.Issues rs ds ∧
        ds.length = (rs.map fun r => r.messages.length).sum) ∨
      ((∀ rs, ¬ Results.Decodes output rs) ∧ ds = [])) ∧
    ((∃ rs, Results.Decodes output rs) ↔
      ∃ items, parse? output = some (.array items) ∧ ∀ item ∈ items, ∃ file messages,
        HasFields ["filePath", "messages"] item [some (.text file), messages] ∧
          (messages = none ∨ ∃ ms, messages = some (.array ms) ∧
            ∀ m ∈ ms, ∃ x, Results.Message.IsWritten m x)) := by
  refine ⟨?_, ?_⟩
  · unfold Kind.read Results.read
    simp only
    cases hresults : Results.results? output with
    | none =>
      have hnone (rs : List Results.FileResult) : ¬ Results.Decodes output rs := fun h => by
        rw [Results.results?_eq_some_iff.2 h] at hresults
        cases hresults
      constructor
      · rintro rfl
        exact .inr ⟨hnone, rfl⟩
      · rintro (⟨rs, h, -⟩ | ⟨-, rfl⟩)
        · exact absurd h (hnone rs)
        · rfl
    | some rs =>
      have hrs : Results.Decodes output rs := Results.results?_eq_some_iff.1 hresults
      simp only [Results.flatMap_diagnostics_eq_iff]
      constructor
      · exact fun h => .inl ⟨rs, hrs, h, h.length⟩
      · rintro (⟨rs', h, hissues, -⟩ | ⟨hnone, -⟩)
        · rw [Results.results?_eq_some_iff.2 h] at hresults
          rwa [← Option.some.inj hresults]
        · exact absurd hrs (hnone rs)
  · rw [Results.exists_decodes_iff]
    simp only [Results.FileResult.exists_isWritten_iff]

end LintHub.Output
