import LintHub.Proofs.FileTree.Paths
import LintHub.Proofs.Output.Entry

/-!
# Reading prose back
-/

namespace LintHub.Output.Prose

open Text LineFormat

variable {files : List Path} {e : Entry} {p m : List Char}

theorem toList_line (e : Entry) : (prose.line e).toList =
    (prose.word e.severity).toList ++ (": ".toList ++ (e.path.chars ++ ("[".toList ++
      (numeral e.line ++ (", ".toList ++ (numeral e.column ++ ("]: ".toList ++
        e.message.toList))))))) := by
  simp only [LineFormat.line, String.toList_append, List.append_assoc]
  rfl

/-- The first place behind a path is the one that is printed there. -/
theorem split?_append (hp : p ≠ []) (hm : m ≠ []) (hfree : ∀ q, prose.IsPlace q → ¬ q <:+: p)
    (line column : Nat) :
    split? (p ++ ("[".toList ++ (numeral line ++ (", ".toList ++ (numeral column ++
      ("]: ".toList ++ m)))))) = some ⟨p, numeral line, numeral column, m⟩ := by
  have hhit : location? ("[".toList ++ (numeral line ++ (", ".toList ++ (numeral column ++
      ("]: ".toList ++ m))))) = some (numeral line, numeral column, m) :=
    twoNumbers?_append (isNumber_numeral line) rfl (isNumber_numeral column) rfl hm
  have hmark : ∀ q, prose.IsPlace q → ∃ tail, q = '[' :: tail ∧ '[' ∉ tail := fun q hq =>
    hq.eq_cons (caseless_of_lt (by decide)) rfl rfl rfl (by decide) (by decide) (by decide)
  have hcut := shortestNonempty_append hp hhit
    fun _ _ => scan_eq_none_of_mark (fun _ _ => exists_twoNumbers) hmark hfree ⟨_, rfl⟩
  unfold split?
  exact congrArg _ hcut

theorem level?_append (s : Severity) (cs : List Char) :
    level? ((prose.word s).toList ++ (": ".toList ++ cs)) = some (s, cs) := by
  cases s with
  | error => rfl
  | warning => rfl

/-- **A line is read as its entry**: the level in front of it counts, since the rest can be cut. -/
theorem exists_readAs (h : prose.Admits files e) :
    ∃ d, diagnostic? (prose.line e).toList = some d ∧ prose.ReadAs e d := by
  have hline := (h.plain_line.trim_eq).trans (toList_line e)
  have hsplit := split?_append h.path.nonempty h.message.nonempty h.unplaced e.line e.column
  have hparts : lineParts? (trim (prose.line e).toList) =
      some (e.severity, ⟨e.path.chars, numeral e.line, numeral e.column, e.message.toList⟩) := by
    simp only [hline, lineParts?, level?_append, Option.bind_some, hsplit, Option.map_some]
  have hfile : Path.ofChars (trim e.path.chars) = e.path := by
    rw [h.path.trim_eq, Path.ofChars_chars]
  have hmessage : String.ofList (trim e.message.toList) = e.message := by
    rw [h.message.trim_eq, String.ofList_toList]
  unfold diagnostic?
  rw [hparts]
  simp only [Option.map_some, hfile, hmessage]
  exact ⟨_, rfl, {
    file := rfl
    line := position?_numeral h.line
    column := (position?_numeral h.column).trans (if_neg nofun).symm
    severity := rfl
    message := rfl
    code := rfl
    linter := rfl }⟩

end LintHub.Output.Prose
