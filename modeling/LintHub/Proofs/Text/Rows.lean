import LintHub.Text.Blank
import LintHub.Text.Lines
import Mathlib.Data.List.Basic

/-!
# Texts in rows

A text is cut where its lines end, with or without a carriage return. What is printed one row
after another is read back as it was, if no row has a line feed in it or a blank at one of its
ends.

* `head?_trim`, `getLast?_trim`: what is trimmed neither begins nor ends with a blank.
* `lines_eq_iff`: the lines of a text, said without the function that cuts it (`Lined`).
* `Plain`: the rows that neither trimming nor cutting changes.
* `lines_of_rows`: the lines of a text in rows are its rows.
-/

namespace LintHub.Text

variable {cs l rest : List Char} {ls : List (List Char)}

/-- What stands on one line, without blanks around it. -/
structure Plain (cs : List Char) : Prop where
  nonempty : cs ≠ []
  oneLine : '\n' ∉ cs
  head : ∀ c ∈ cs.head?, isBlank c = false
  last : ∀ c ∈ cs.getLast?, isBlank c = false

instance (cs : List Char) : Decidable (Plain cs) :=
  decidable_of_iff (cs ≠ [] ∧ '\n' ∉ cs ∧ (cs.head?.all fun c => !isBlank c) = true ∧
      (cs.getLast?.all fun c => !isBlank c) = true)
    ⟨fun ⟨h₁, h₂, h₃, h₄⟩ => ⟨h₁, h₂, by simpa [Option.all_eq_true] using h₃,
      by simpa [Option.all_eq_true] using h₄⟩,
      fun h => ⟨h.nonempty, h.oneLine, by simpa [Option.all_eq_true] using h.head,
        by simpa [Option.all_eq_true] using h.last⟩⟩

theorem trimStart_eq_self (h : ∀ c ∈ cs.head?, isBlank c = false) : trimStart cs = cs := by
  cases cs with
  | nil => rfl
  | cons c cs => rw [trimStart, List.dropWhile_cons, if_neg (by simp [h c rfl])]

theorem trimEnd_eq_self (h : ∀ c ∈ cs.getLast?, isBlank c = false) : trimEnd cs = cs := by
  have hreverse : trimStart cs.reverse = cs.reverse :=
    trimStart_eq_self (by rwa [List.head?_reverse])
  unfold trimEnd
  rw [← trimStart, hreverse, List.reverse_reverse]

theorem Plain.trim_eq (h : Plain cs) : trim cs = cs := by
  rw [trim, trimStart_eq_self h.head, trimEnd_eq_self h.last]

/-- What is put in front may end in a blank. -/
theorem Plain.append {a : List Char} (hne : a ≠ []) (hline : '\n' ∉ a)
    (hhead : ∀ c ∈ a.head?, isBlank c = false) (h : Plain cs) : Plain (a ++ cs) where
  nonempty := List.append_ne_nil_of_left_ne_nil hne cs
  oneLine := by simp [hline, h.oneLine]
  head := by rwa [List.head?_append_of_ne_nil a hne]
  last := by rw [List.getLast?_append_of_ne_nil a h.nonempty]; exact h.last

/-- What is left after the end is trimmed begins as before. -/
theorem trimEnd_prefix (cs : List Char) : trimEnd cs <+: cs := by
  have hsuffix := List.reverse_prefix.2 (List.dropWhile_suffix (l := cs.reverse) isBlank)
  rwa [List.reverse_reverse] at hsuffix

theorem head?_trim (cs : List Char) : ∀ c ∈ (trim cs).head?, isBlank c = false := by
  intro c hc
  obtain ⟨rest, hrest⟩ := trimEnd_prefix (trimStart cs)
  have hhead : (trimStart cs).head? = some c := by
    rw [← hrest, List.head?_append, show (trimEnd (trimStart cs)).head? = some c from hc]
    rfl
  have hblank := List.head?_dropWhile_not isBlank cs
  rw [← trimStart, hhead] at hblank
  exact hblank

theorem getLast?_trim (cs : List Char) : ∀ c ∈ (trim cs).getLast?, isBlank c = false := by
  intro c hc
  rw [trim, trimEnd, List.getLast?_reverse] at hc
  have hblank := List.head?_dropWhile_not isBlank (trimStart cs).reverse
  rw [hc] at hblank
  exact hblank

/-- Trimming leaves nothing to trim. -/
theorem trim_trim (cs : List Char) : trim (trim cs) = trim cs := by
  rw [trim, trimStart_eq_self (head?_trim cs), trimEnd_eq_self (getLast?_trim cs)]

/-- Trimming takes nothing but blanks away. -/
theorem trim_sublist (cs : List Char) : (trim cs).Sublist cs := by
  have hend (ds : List Char) : (trimEnd ds).Sublist ds := by
    have hreverse := (List.dropWhile_sublist (l := ds.reverse) isBlank).reverse
    rwa [List.reverse_reverse] at hreverse
  exact (hend (trimStart cs)).trans (List.dropWhile_sublist isBlank)

theorem dropReturn_eq_self (h : '\r' ∉ cs.getLast?) : dropReturn cs = cs := by
  fun_induction dropReturn cs with
  | case1 => rfl
  | case2 => exact absurd rfl h
  | case3 c cs hreturn ih =>
    cases cs with
    | nil => rfl
    | cons x cs => rw [ih (by rwa [List.getLast?_cons_cons] at h)]

theorem Plain.dropReturn_eq (h : Plain cs) : dropReturn cs = cs := by
  apply dropReturn_eq_self
  intro hlast
  cases h.last _ hlast

theorem lines_go_append (h : '\n' ∉ cs) (line rest : List Char) :
    lines.go line (cs ++ rest) = lines.go (cs.reverse ++ line) rest := by
  induction cs generalizing line with
  | nil => rfl
  | cons c cs ih =>
    obtain ⟨hc, hcs⟩ := not_or.1 (mt List.mem_cons.2 h)
    rw [List.cons_append, lines.go]
    · rw [ih hcs, List.reverse_cons, List.append_assoc]
      rfl
    · exact fun heq => hc heq.symm

/-- **A line ends** at the first line feed. -/
theorem lines_append_feed (h : '\n' ∉ l) :
    lines (l ++ '\n' :: rest) = dropReturn l :: lines rest := by
  unfold lines
  rw [lines_go_append h, lines.go, List.append_nil, List.reverse_reverse]

theorem lines_of_notMem (h : '\n' ∉ l) (hne : l ≠ []) : lines l = [l] := by
  have hgo := lines_go_append h [] []
  simpa [lines, lines.go, hne] using hgo

/-- These are the lines of a text. Each is ended by a line feed, or by a carriage return and a
line feed; the last one may be ended by the text. -/
inductive Lined : List Char → List (List Char) → Prop where
  | none : Lined [] []
  | last {l : List Char} (hne : l ≠ []) (hline : '\n' ∉ l) : Lined l [l]
  | feed {l text : List Char} {ls : List (List Char)} (hline : '\n' ∉ l)
      (hreturn : '\r' ∉ l.getLast?) : Lined text ls → Lined (l ++ '\n' :: text) (l :: ls)
  | returnFeed {l text : List Char} {ls : List (List Char)} (hline : '\n' ∉ l) :
      Lined text ls → Lined (l ++ '\r' :: '\n' :: text) (l :: ls)

theorem dropReturn_append_return (l : List Char) : dropReturn (l ++ ['\r']) = l := by
  induction l with
  | nil => rfl
  | cons c l ih =>
    rw [List.cons_append, dropReturn, ih]
    exact fun _ hnil => absurd hnil (by simp)

/-- What a line feed ends is a line, without a carriage return in front of it. -/
theorem Lined.dropReturn {text : List Char} (hline : '\n' ∉ l) (h : Lined text ls) :
    Lined (l ++ '\n' :: text) (Text.dropReturn l :: ls) := by
  by_cases hlast : '\r' ∈ l.getLast?
  · obtain ⟨init, rfl⟩ := List.getLast?_eq_some_iff.1 hlast
    rw [dropReturn_append_return, List.append_assoc]
    exact .returnFeed (fun hmem => hline (List.mem_append_left _ hmem)) h
  · rw [dropReturn_eq_self hlast]
    exact .feed hline hlast h

theorem lined_go (cs line : List Char) (hline : '\n' ∉ line) :
    Lined (line.reverse ++ cs) (lines.go line cs) := by
  induction cs generalizing line with
  | nil =>
    rw [lines.go, List.append_nil]
    cases line with
    | nil => exact .none
    | cons c line => exact .last (by simp) (mt List.mem_reverse.1 hline)
  | cons c cs ih =>
    by_cases hc : c = '\n'
    · subst hc
      rw [lines.go]
      exact .dropReturn (by simpa using hline) (ih [] (by simp))
    · rw [lines.go]
      · have hrest := ih (c :: line) (by simp [Ne.symm hc, hline])
        rwa [List.reverse_cons, List.append_assoc] at hrest
      · exact hc

/-- **The lines of a text** are just these. -/
theorem lines_eq_iff {text : List Char} : lines text = ls ↔ Lined text ls := by
  constructor
  · rintro rfl
    exact lined_go text [] (by simp)
  · intro h
    induction h with
    | none => rfl
    | last hne hline => exact lines_of_notMem hline hne
    | feed hline hreturn _ ih => rw [lines_append_feed hline, dropReturn_eq_self hreturn, ih]
    | @returnFeed l text ls hline _ ih =>
      have happend : l ++ '\r' :: '\n' :: text = (l ++ ['\r']) ++ '\n' :: text := by simp
      rw [happend, lines_append_feed (by simp [hline]), dropReturn_append_return, ih]

theorem Lined.oneLine {text : List Char} (h : Lined text ls) : ∀ l ∈ ls, '\n' ∉ l := by
  induction h with
  | none => simp
  | last hne hline => simpa using hline
  | feed hline hreturn _ ih => exact List.forall_mem_cons.2 ⟨hline, ih⟩
  | returnFeed hline _ ih => exact List.forall_mem_cons.2 ⟨hline, ih⟩

/-- No line has a line feed in it. -/
theorem notMem_of_mem_lines {text : List Char} (h : l ∈ lines text) : '\n' ∉ l :=
  (lines_eq_iff.1 rfl).oneLine l h

theorem lines_cons (h : Plain l) : lines (l ++ '\n' :: rest) = l :: lines rest := by
  rw [lines_append_feed h.oneLine, h.dropReturn_eq]

theorem lines_last (h : Plain l) : lines l = [l] := lines_of_notMem h.oneLine h.nonempty

/-- A text of rows, each ended by a line feed; the last one may go without. -/
inductive Rows : List (List Char) → List Char → Prop where
  | none : Rows [] []
  | last (l : List Char) : Rows [l] l
  | more {ls : List (List Char)} {text : List Char} (l : List Char) :
      Rows ls text → Rows (l :: ls) (l ++ '\n' :: text)

/-- **Cutting a text into lines** gives its rows. -/
theorem lines_of_rows {text : List Char} (h : Rows ls text) (hplain : ∀ l ∈ ls, Plain l) :
    lines text = ls := by
  induction h with
  | none => rfl
  | last l => exact lines_last (hplain l (List.mem_singleton_self l))
  | more l _ ih =>
    obtain ⟨hl, hls⟩ := List.forall_mem_cons.1 hplain
    rw [lines_cons hl, ih hls]

end LintHub.Text
