import LintHub.Proofs.FileTree.Paths
import LintHub.Proofs.Output.Entry

/-!
# Reading the compact format back
-/

namespace LintHub.Output.Compact

open Text LineFormat

variable {files : List Path} {e : Entry} {p m : List Char}

theorem toList_line (e : Entry) : (compact.line e).toList =
    e.path.chars ++ (": line ".toList ++ (numeral e.line ++ (", col ".toList ++
      (numeral e.column ++ (", ".toList ++ ((compact.word e.severity).toList ++ (" - ".toList ++
        e.message.toList))))))) := by
  simp only [LineFormat.line, String.toList_append, List.append_assoc]
  rfl

/-- The first place on a line is the one behind its path. -/
theorem split?_append (hm : m ≠ []) (hfree : ∀ q, compact.IsPlace q → ¬ q <:+: p)
    (line column : Nat) :
    split? (p ++ (": line ".toList ++ (numeral line ++ (", col ".toList ++ (numeral column ++
      (", ".toList ++ m)))))) = some ⟨p, numeral line, numeral column, m⟩ := by
  have hhit : location? (": line ".toList ++ (numeral line ++ (", col ".toList ++
      (numeral column ++ (", ".toList ++ m))))) = some (numeral line, numeral column, m) :=
    twoNumbers?_append (isNumber_numeral line) rfl (isNumber_numeral column) rfl hm
  have hmark : ∀ q, compact.IsPlace q → ∃ tail, q = ':' :: tail ∧ ':' ∉ tail := fun q hq =>
    hq.eq_cons (caseless_of_lt (by decide)) rfl rfl rfl (by decide) (by decide) (by decide)
  have hcut := shortest_append hhit
    fun _ _ => scan_eq_none_of_mark (fun _ _ => exists_twoNumbers) hmark hfree ⟨_, rfl⟩
  unfold split?
  exact congrArg _ hcut

/-- A dash behind the level is the first one, since the words for a level hold none. -/
theorem splitLevel_append (s : Severity) (cs : List Char) :
    splitLevel ((compact.word s).toList ++ (" - ".toList ++ cs)) = (s, cs) := by
  have hcut : shortest dash? ((compact.word s).toList ++ (" - ".toList ++ cs)) =
      some ((compact.word s).toList, cs) := by
    apply shortest_append (dropWord_append (sameWord_refl _) cs)
    intro x q hword hne
    obtain ⟨c, q, rfl⟩ := List.exists_cons_of_ne_nil hne
    apply dropWord_eq_none
    intro hblank
    have hmem : c ∈ (compact.word s).toList := by rw [hword]; simp
    obtain rfl : c = ' ' := caseless_of_lt (by decide) c hblank
    cases isBlank_of_mem_word compact s _ hmem
  rw [splitLevel, hcut]
  cases s with
  | error => rfl
  | warning => rfl

theorem same_fileFor {path : Path} (first : Path) (hpath : Plain path.chars)
    (h : ∃ file ∈ files, Path.Same file path) :
    Path.Same (fileFor first files path.chars) path := by
  obtain ⟨file, hmem, hsame⟩ := h
  unfold fileFor
  rw [hpath.trim_eq, Path.ofChars_chars]
  cases hfind : files.find? _ with
  | none => exact absurd (decide_eq_true hsame) (List.find?_eq_none.1 hfind file hmem)
  | some f =>
    have hf := List.find?_some hfind
    exact of_decide_eq_true hf

/-- The message and its level are plain as the message is. -/
theorem plain_leveled (h : Plain m) (s : Severity) :
    Plain ((compact.word s).toList ++ (" - ".toList ++ m)) := by
  rw [← List.append_assoc]
  apply h.append
  · simp
  · cases s <;> decide
  · intro c hc
    have hhead : (((compact.word s).toList ++ " - ".toList).head?.all fun c => !isBlank c) =
        true := by cases s <;> decide
    rw [Option.all_eq_true] at hhead
    simpa using hhead c hc

/-- **A line is read as its entry**: its path names one of the files. -/
theorem exists_readAs (first : Path) (h : compact.Admits files e) :
    ∃ d, diagnostic? first files (compact.line e).toList = some d ∧ compact.ReadAs e d := by
  have hmessage := plain_leveled h.message e.severity
  have hfree : ∀ q, compact.IsPlace q → ¬ q <:+: e.path.chars := h.unplaced
  have hsplit := split?_append hmessage.nonempty hfree e.line e.column
  rw [← toList_line] at hsplit
  have hline := position?_numeral h.line
  have hcolumn := position?_numeral h.column
  unfold diagnostic?
  rw [hsplit, Option.map_some]
  simp only [hmessage.trim_eq, splitLevel_append]
  exact ⟨_, rfl, {
    file := same_fileFor first h.path (h.given rfl)
    line := hline
    column := hcolumn.trans (if_neg nofun).symm
    severity := rfl
    message := String.ofList_toList
    code := rfl
    linter := rfl }⟩

end LintHub.Output.Compact
