import LintHub.Proofs.Output.Compact
import LintHub.Proofs.Output.Csv
import LintHub.Proofs.Output.Prose
import Mathlib.Data.List.Forall2

/-!
# Line formats are read back

* `LineFormat.read_rows`: what TSLint, CoffeeLint and CSS Lint print is read as one diagnostic for
  each entry, in order. A message may look like any part of a line.
-/

namespace LintHub.Output

open Text

theorem forall₂_filterMap {α β γ : Type} {R : α → γ → Prop} {print : α → β} {scan : β → Option γ}
    {as : List α} (h : ∀ a ∈ as, ∃ c, scan (print a) = some c ∧ R a c) :
    List.Forall₂ R as ((as.map print).filterMap scan) := by
  induction as with
  | nil => exact .nil
  | cons a as ih =>
    obtain ⟨ha, has⟩ := List.forall_mem_cons.1 h
    obtain ⟨c, hc, hR⟩ := ha
    rw [List.map_cons, List.filterMap_cons_some hc]
    exact .cons hR (ih has)

/-- **What is printed is read back**, entry by entry. -/
theorem LineFormat.read_rows (f : LineFormat) {files : List Path} {entries : List Entry}
    {output : String} (hrows : Rows (entries.map fun e => (f.line e).toList) output.toList)
    (h : ∀ e ∈ entries, f.Admits files e) :
    List.Forall₂ f.ReadAs entries (f.kind.read output files) := by
  have hlines : lines output.toList = entries.map fun e => (f.line e).toList := by
    apply lines_of_rows hrows
    intro l hl
    obtain ⟨e, he, rfl⟩ := List.mem_map.1 hl
    exact (h e he).plain_line
  cases f with
  | prose =>
    unfold kind Kind.read Prose.read
    simp only [hlines]
    exact forall₂_filterMap fun e he => Prose.exists_readAs (h e he)
  | csv =>
    unfold kind Kind.read Csv.read
    simp only [hlines]
    exact forall₂_filterMap fun e he => Csv.exists_readAs (h e he)
  | compact =>
    unfold kind Kind.read Compact.read
    simp only [hlines]
    cases files with
    | cons first rest => exact forall₂_filterMap fun e he => Compact.exists_readAs first (h e he)
    -- without files there is nothing that an entry could be about
    | nil =>
      cases entries with
      | nil => exact .nil
      | cons e entries =>
        obtain ⟨file, hfile, -⟩ := (h e (List.mem_cons_self ..)).given rfl
        cases hfile

/-- Entries whose paths and messages are full of commas. -/
def commas : List Entry :=
  [⟨⟨"a,1"⟩, 2, "3", 1, .error, "b,4,,warn,c"⟩, ⟨⟨"/,5,"⟩, 4294967295, "", 1, .warning, "error"⟩]

theorem four_commas {m : List Char} (h : Csv.Fields m) : 4 ≤ m.count ',' := by
  obtain ⟨hline, hend, hlevel⟩ := h
  simp only [List.count_cons, List.count_append, beq_self_eq_true, if_true]
  omega

/-- Three commas are not enough to be taken for fields. -/
theorem admits_commas : ∀ e ∈ commas, LineFormat.csv.Admits [] e := by
  have hplain : ∀ e ∈ commas, Plain e.path.chars ∧ Plain e.message.toList := by decide
  have hnumbers : ∀ e ∈ commas, (1 ≤ e.line ∧ e.line < UInt32.size) ∧
      (1 ≤ e.column ∧ e.column < UInt32.size) ∧ e.lineEnd.toList.all Char.isDigit = true := by decide
  have hfew : ∀ e ∈ commas, (LineFormat.csv.front e.path).count ',' < 4 := by decide
  intro e he
  obtain ⟨hline, hcolumn, hend⟩ := hnumbers e he
  refine ⟨(hplain e he).1, (hplain e he).2, hline, hcolumn, List.all_eq_true.1 hend, ?_, nofun⟩
  intro m hm hin
  have hle : m.count ',' ≤ (LineFormat.csv.front e.path).count ',' := hin.sublist.count_le ','
  have hmany := four_commas hm
  have hless := hfew e he
  omega

/-- A path and a line that could be a line and its end. -/
theorem LineFormat.read_rows_commas :
    let output := "a,1,2,3,error,b,4,,warn,c\n/,5,,4294967295,,warn,error\n"
    Rows (commas.map fun e => (csv.line e).toList) output.toList ∧
      (∀ e ∈ commas, csv.Admits [] e) ∧
      List.Forall₂ csv.ReadAs commas (Kind.coffeeLint.read output []) := by
  intro output
  have hlines : (commas.map fun e => (csv.line e).toList) =
      ["a,1,2,3,error,b,4,,warn,c".toList, "/,5,,4294967295,,warn,error".toList] := by
    decide +kernel
  have htext : output.toList = "a,1,2,3,error,b,4,,warn,c".toList ++ '\n' ::
      ("/,5,,4294967295,,warn,error".toList ++ ['\n']) := by
    decide +kernel
  have hrows : Rows (commas.map fun e => (csv.line e).toList) output.toList := by
    rw [hlines, htext]
    exact .more _ (.more _ .none)
  exact ⟨hrows, admits_commas, read_rows csv hrows admits_commas⟩

end LintHub.Output
