import LintHub.Proofs.FileTree.Paths
import LintHub.Proofs.Output.CsvGrammar

/-!
# Reading CSV back

The fields behind a path share their separator, so that the border between a path and what
follows it can be crossed: the comma in front of the line may be the second, third or last one of
fields that begin inside the path. The first two ways fail, for a level is no number. The last one
is the reason why a path is looked at with the comma behind it.
-/

namespace LintHub.Output.Csv

open Text LineFormat

variable {files : List Path} {e : Entry} {p m cs r : List Char}

theorem toList_line (e : Entry) : (csv.line e).toList =
    e.path.chars ++ ',' :: (numeral e.line ++ ',' :: (e.lineEnd.toList ++ ',' ::
      ((csv.word e.severity).toList ++ ',' :: e.message.toList))) := by
  simp only [LineFormat.line, String.toList_append, List.append_assoc]
  rfl

theorem isLevelOf_word (s : Severity) : IsLevelOf (csv.word s).toList s := by
  cases s with
  | error => exact ⟨⟨"error", by decide, sameWord_refl _⟩, by decide⟩
  | warning => exact ⟨⟨"warn", by decide, sameWord_refl _⟩, by decide⟩

/-- What is found behind a file is there, and the message is the rest. -/
theorem exists_fields {hit : List Char × Severity × List Char} (h : tail? cs = some hit) :
    ∃ q, Fields q ∧ cs = q ++ hit.2.2 := by
  obtain ⟨lineEnd, level, ⟨hline, hend, hlevel, -⟩, rfl⟩ := tail?_eq_some_iff.1 h
  exact ⟨_, .mk hline hend hlevel.level, by simp⟩

/-- The fields are read where they are printed. -/
theorem tail?_append {lineEnd : List Char} (hend : ∀ c ∈ lineEnd, c.isDigit = true) (hm : m ≠ [])
    (line : Nat) (s : Severity) :
    tail? (',' :: (numeral line ++ ',' :: (lineEnd ++ ',' :: ((csv.word s).toList ++ ',' :: m)))) =
      some (numeral line, s, m) :=
  tail?_eq_some_iff.2
    ⟨lineEnd, _, ⟨isNumber_numeral line, hend, isLevelOf_word s, hm⟩, rfl⟩

theorem IsLevel.not_digits {w : List Char} (h : IsLevel w) : ¬ ∀ c ∈ w, c.isDigit = true := by
  obtain ⟨u, hu, hw⟩ := h
  have hletter : ∀ u ∈ levels, ((u.toList.map Char.toLower).any fun c => !c.isDigit) = true := by
    decide
  obtain ⟨c, hc, hdigit⟩ := List.any_eq_true.1 (hletter u hu)
  exact not_digits_of_sameWord hw ⟨c, hc, by simpa using hdigit⟩

/-- Fields that are cut at a comma inside them: what is left begins with an end, with a level, or
not at all. -/
theorem Fields.cut {q t : List Char} (h : Fields (q ++ ',' :: t)) (hq : q ≠ []) :
    (∃ lineEnd level, (∀ c ∈ lineEnd, c.isDigit = true) ∧ IsLevel level ∧
      t = lineEnd ++ ',' :: (level ++ [','])) ∨
    (∃ level, IsLevel level ∧ t = level ++ [',']) ∨ t = [] := by
  generalize hm : q ++ ',' :: t = fields at h
  obtain ⟨hline, hend, hlevel⟩ := h
  obtain ⟨c, q, rfl⟩ := List.exists_cons_of_ne_nil hq
  obtain ⟨-, hm⟩ := List.cons.inj hm
  rcases cut_cases hm (notMem_comma hline.digits) with ⟨-, ht⟩ | ⟨q₁, -, hm₁⟩
  · exact .inl ⟨_, _, hend, hlevel, ht⟩
  rcases cut_cases hm₁ (notMem_comma hend) with ⟨-, ht⟩ | ⟨q₂, -, hm₂⟩
  · exact .inr (.inl ⟨_, hlevel, ht⟩)
  rcases cut_cases hm₂ (IsLevel.notMem_comma hlevel) with ⟨-, ht⟩ | ⟨q₃, -, hm₃⟩
  · exact .inr (.inr ht)
  · simp at hm₃

/-- **No fields across the border** between a path and what is printed behind it. -/
theorem tail?_eq_none (hfree : ∀ f, Fields f → ¬ f <:+: p ++ [',']) {lineEnd rest : List Char}
    (hend : ∀ c ∈ lineEnd, c.isDigit = true) (line : Nat) (x q : List Char) (hp : p = x ++ q)
    (hq : q ≠ []) :
    tail? (q ++ ',' :: (numeral line ++ ',' :: (lineEnd ++ ',' :: rest))) = none := by
  cases hhit : tail? (q ++ ',' :: (numeral line ++ ',' :: (lineEnd ++ ',' :: rest))) with
  | none => rfl
  | some hit =>
    obtain ⟨f, hf, heq⟩ := exists_fields hhit
    have hnumber := (isNumber_numeral line).digits
    rcases List.append_eq_append_iff.1 heq with ⟨t, hcut, ht⟩ | ⟨t, hinside, -⟩
    · cases t with
      | nil =>
        rw [List.append_nil] at hcut
        exact absurd ⟨x, [','], by rw [hcut, hp]⟩ (hfree f hf)
      | cons y t =>
        rw [List.cons_append] at ht
        obtain ⟨rfl, hbehind⟩ := List.cons.inj ht
        rw [hcut] at hf
        rcases hf.cut hq with ⟨lineEnd', level, hend', hlevel, rfl⟩ | ⟨level, hlevel, rfl⟩ | rfl
        -- the end meets the line, and the level meets the end
        · rw [List.append_assoc, List.cons_append, List.append_assoc] at hbehind
          obtain ⟨-, hlevels⟩ :=
            cut_unique hbehind (notMem_comma hnumber) (notMem_comma hend')
          obtain ⟨rfl, -⟩ := cut_unique hlevels (notMem_comma hend) hlevel.notMem_comma
          exact absurd hend hlevel.not_digits
        -- the level meets the line
        · rw [List.append_assoc] at hbehind
          obtain ⟨hlevelEq, -⟩ :=
            cut_unique hbehind (notMem_comma hnumber) hlevel.notMem_comma
          exact absurd (hlevelEq ▸ hnumber) hlevel.not_digits
        -- the border is behind the last comma
        · exact absurd ⟨x, [], by rw [hp]; simp⟩ (hfree _ hf)
    · exact absurd ⟨x, t ++ [','], by rw [hp, hinside]; simp⟩ (hfree f hf)

theorem split?_append (hp : p ≠ []) (hm : m ≠ []) (hfree : ∀ f, Fields f → ¬ f <:+: p ++ [','])
    {lineEnd : List Char} (hend : ∀ c ∈ lineEnd, c.isDigit = true) (line : Nat) (s : Severity) :
    split? (p ++ ',' :: (numeral line ++ ',' :: (lineEnd ++ ',' ::
      ((csv.word s).toList ++ ',' :: m)))) = some ⟨p, numeral line, s, m⟩ := by
  have hcut :=
    shortestNonempty_append hp (tail?_append hend hm line s) (tail?_eq_none hfree hend line)
  unfold split?
  exact congrArg _ hcut

/-- **A line is read as its entry**; the column is not printed. -/
theorem exists_readAs (h : csv.Admits files e) :
    ∃ d, diagnostic? (csv.line e).toList = some d ∧ csv.ReadAs e d := by
  have hsplit :=
    split?_append h.path.nonempty h.message.nonempty h.unplaced h.lineEnd e.line e.severity
  rw [← toList_line] at hsplit
  have hmessage : String.ofList (trim e.message.toList) = e.message := by
    rw [h.message.trim_eq, String.ofList_toList]
  unfold diagnostic?
  rw [h.plain_line.trim_eq, hsplit]
  simp only [Option.map_some, hmessage, Path.ofChars_chars]
  exact ⟨_, rfl, {
    file := rfl
    line := position?_numeral h.line
    column := rfl
    severity := rfl
    message := rfl
    code := rfl
    linter := rfl }⟩

end LintHub.Output.Csv
