import LintHub.Text.Lines
import Mathlib.Data.List.Basic

/-!
# The fields of a text

A text is cut at a separator and put together again, and neither loses anything. A text that has
no separator in it stands in another one just if it stands in one of the fields, and one that has
separators around it has to be a row of whole fields.

* `fields_joinFields`: cutting what was put together.
* `fields_ended_iff`: cutting what ends in a separator, again and again.
* `infix_iff`, `sep_infix_iff`, `sep_infix_sep_iff`: what stands where among the fields.
-/

namespace LintHub.Text

variable {sep : Char} {cs x : List Char} {ls : List (List Char)}

theorem fields_append_sep (sep : Char) (cs ds : List Char) :
    fields sep (cs ++ sep :: ds) = fields sep cs ++ fields sep ds := by
  induction cs with
  | nil => simp [fields]
  | cons c cs ih =>
    rw [List.cons_append, fields, fields]
    split
    · rw [ih, List.cons_append]
    · rw [ih]
      cases hf : fields sep cs with
      | nil => exact absurd hf (fields_ne_nil sep cs)
      | cons f fs => rfl

theorem fields_of_not_mem {sep : Char} {cs : List Char} (h : sep ∉ cs) :
    fields sep cs = [cs] := by
  induction cs with
  | nil => rfl
  | cons c cs ih =>
    rw [List.mem_cons, not_or] at h
    rw [fields, if_neg (Ne.symm h.1), ih h.2]

theorem joinFields_cons (sep : Char) (f : List Char) {fs : List (List Char)} (h : fs ≠ []) :
    joinFields sep (f :: fs) = f ++ sep :: joinFields sep fs := by
  cases fs with
  | nil => exact absurd rfl h
  | cons g fs => rfl

theorem joinFields_mono (sep : Char) {fs gs : List (List Char)} (h : fs <+: gs) :
    joinFields sep fs <+: joinFields sep gs := by
  induction fs generalizing gs with
  | nil => exact List.nil_prefix
  | cons f fs ih =>
    obtain ⟨rest, rfl⟩ := h
    by_cases hfs : fs = []
    · subst hfs
      cases rest with
      | nil => exact List.prefix_refl _
      | cons g rest => exact List.prefix_append _ _
    · rw [List.cons_append, joinFields_cons sep f hfs, joinFields_cons sep f (by simp [hfs])]
      exact (List.prefix_append_right_inj f).2
        ((List.cons_prefix_cons).2 ⟨rfl, ih (List.prefix_append _ _)⟩)

theorem not_mem_of_mem_fields {sep : Char} {cs f : List Char} (h : f ∈ fields sep cs) :
    sep ∉ f := by
  induction cs generalizing f with
  | nil =>
    simp only [fields, List.mem_singleton] at h
    simp [h]
  | cons c cs ih =>
    rw [fields] at h
    split at h
    · rcases List.mem_cons.1 h with rfl | h
      · simp
      · exact ih h
    · rename_i hc
      cases hf : fields sep cs with
      | nil => exact absurd hf (fields_ne_nil sep cs)
      | cons g gs =>
        rw [hf] at h ih
        rcases List.mem_cons.1 h with rfl | h
        · rw [List.mem_cons, not_or]
          exact ⟨fun he => hc he.symm, ih (List.mem_cons_self ..)⟩
        · exact ih (List.mem_cons_of_mem _ h)

theorem fields_joinFields {sep : Char} {fs : List (List Char)} (h : ∀ f ∈ fs, sep ∉ f)
    (hne : fs ≠ []) : fields sep (joinFields sep fs) = fs := by
  induction fs with
  | nil => exact absurd rfl hne
  | cons f fs ih =>
    have hf := h f (List.mem_cons_self ..)
    by_cases hfs : fs = []
    · subst hfs
      exact fields_of_not_mem hf
    · rw [joinFields_cons sep f hfs, fields_append_sep, fields_of_not_mem hf,
        ih (fun g hg => h g (List.mem_cons_of_mem _ hg)) hfs]
      rfl

theorem mem_joinFields {c : Char} {fs : List (List Char)} (h : c ∈ joinFields sep fs) :
    c = sep ∨ ∃ f ∈ fs, c ∈ f := by
  induction fs with
  | nil => cases h
  | cons f fs ih =>
    by_cases hfs : fs = []
    · subst hfs
      exact .inr ⟨f, List.mem_singleton_self f, h⟩
    · rw [joinFields_cons sep f hfs, List.mem_append, List.mem_cons] at h
      rcases h with h | h | h
      · exact .inr ⟨f, List.mem_cons_self .., h⟩
      · exact .inl h
      · exact (ih h).imp_right fun ⟨g, hg, hc⟩ => ⟨g, List.mem_cons_of_mem _ hg, hc⟩

theorem joinFields_append {fs gs : List (List Char)} (hf : fs ≠ []) (hg : gs ≠ []) :
    joinFields sep (fs ++ gs) = joinFields sep fs ++ sep :: joinFields sep gs := by
  induction fs with
  | nil => exact absurd rfl hf
  | cons f fs ih =>
    by_cases hfs : fs = []
    · subst hfs
      exact joinFields_cons sep f hg
    · rw [List.cons_append, joinFields_cons sep f (by simp [hfs]), joinFields_cons sep f hfs,
        ih hfs, List.append_assoc, List.cons_append]

/-- Without a separator between them, the last field of a text and the first one of the next
become one. -/
theorem fields_append {cs ds f g : List Char} {fs gs : List (List Char)}
    (hcs : fields sep cs = fs ++ [f]) (hds : fields sep ds = g :: gs) :
    fields sep (cs ++ ds) = fs ++ (f ++ g) :: gs := by
  induction cs generalizing fs f with
  | nil =>
    obtain ⟨rfl, hf⟩ := List.append_eq_singleton_iff.1 hcs.symm |>.resolve_right (by simp)
    obtain rfl := List.singleton_inj.1 hf
    exact hds
  | cons c cs ih =>
    rw [List.cons_append, fields]
    rw [fields] at hcs
    by_cases hc : c = sep
    · rw [if_pos hc] at hcs ⊢
      cases fs with
      | nil => exact absurd (List.cons.inj hcs).2 (fields_ne_nil sep cs)
      | cons f' fs =>
        obtain ⟨rfl, hrest⟩ := List.cons.inj hcs
        rw [ih hrest]
        rfl
    · rw [if_neg hc] at hcs ⊢
      cases hrest : fields sep cs with
      | nil => exact absurd hrest (fields_ne_nil sep cs)
      | cons f' fs' =>
        rw [hrest] at hcs
        simp only at hcs
        cases fs with
        | nil =>
          obtain ⟨rfl, rfl⟩ := List.cons.inj hcs
          rw [show fields sep (cs ++ ds) = [] ++ (f' ++ g) :: gs from ih hrest]
          rfl
        | cons f'' fs =>
          obtain ⟨rfl, rfl⟩ := List.cons.inj hcs
          rw [show fields sep (cs ++ ds) = (f' :: fs) ++ (f ++ g) :: gs from ih hrest]
          rfl

/-- **A text without a separator** stands in another one just if it stands in a field. -/
theorem infix_iff (hx : sep ∉ x) : x <:+: cs ↔ ∃ f ∈ fields sep cs, x <:+: f := by
  constructor
  · rintro ⟨a, b, rfl⟩
    obtain ⟨as, f, ha⟩ := (List.eq_nil_or_concat' (fields sep a)).resolve_left (fields_ne_nil sep a)
    obtain ⟨g, bs, hb⟩ := List.exists_cons_of_ne_nil (fields_ne_nil sep b)
    have hax := fields_append ha (fields_of_not_mem hx)
    exact ⟨f ++ x ++ g, by rw [fields_append hax hb]; simp, f, g, rfl⟩
  · rintro ⟨f, hf, hinfix⟩
    obtain ⟨as, bs, hfields⟩ := List.append_of_mem hf
    have hcs := joinFields_fields sep cs
    refine hinfix.trans ?_
    rw [← hcs, hfields]
    have hbehind : f <:+: joinFields sep (f :: bs) := (joinFields_mono sep
      (List.cons_prefix_cons.2 ⟨rfl, List.nil_prefix⟩ : [f] <+: f :: bs)).isInfix
    by_cases has : as = []
    · rwa [has]
    · rw [joinFields_append has (List.cons_ne_nil _ _)]
      exact hbehind.trans ((List.suffix_cons _ _).isInfix.trans (List.suffix_append _ _).isInfix)

/-- **With a separator in front** it has to be at the front of a field, which is not the first. -/
theorem sep_infix_iff (hx : sep ∉ x) :
    sep :: x <:+: cs ↔ ∃ as f bs, fields sep cs = as ++ f :: bs ∧ as ≠ [] ∧ x <+: f := by
  constructor
  · rintro ⟨a, b, rfl⟩
    obtain ⟨g, bs, hb⟩ := List.exists_cons_of_ne_nil (fields_ne_nil sep b)
    have hxb : fields sep (x ++ b) = [] ++ (x ++ g) :: bs := fields_append (fields_of_not_mem hx) hb
    refine ⟨fields sep a, x ++ g, bs, ?_, fields_ne_nil sep a, List.prefix_append x g⟩
    rw [List.append_assoc, List.cons_append, fields_append_sep, hxb, List.nil_append]
  · rintro ⟨as, f, bs, hfields, has, hprefix⟩
    rw [← joinFields_fields sep cs, hfields, joinFields_append has (List.cons_ne_nil _ _)]
    have hfront : f <+: joinFields sep (f :: bs) := joinFields_mono sep
      (List.cons_prefix_cons.2 ⟨rfl, List.nil_prefix⟩ : [f] <+: f :: bs)
    exact (List.cons_prefix_cons.2 ⟨rfl, hprefix.trans hfront⟩).isInfix.trans
      (List.suffix_append _ _).isInfix

/-- **With separators around it** a text has to be a row of fields, neither the first nor the
last of them. -/
theorem sep_infix_sep_iff (hls : ∀ l ∈ ls, sep ∉ l) (hne : ls ≠ []) :
    sep :: (joinFields sep ls ++ [sep]) <:+: cs ↔
      ∃ as bs, fields sep cs = as ++ ls ++ bs ∧ as ≠ [] ∧ bs ≠ [] := by
  constructor
  · rintro ⟨a, b, rfl⟩
    refine ⟨fields sep a, fields sep b, ?_, fields_ne_nil sep a, fields_ne_nil sep b⟩
    rw [← fields_joinFields hls hne, List.append_assoc, ← fields_append_sep, ← fields_append_sep,
      fields_joinFields hls hne]
    simp
  · rintro ⟨as, bs, hfields, has, hbs⟩
    rw [← joinFields_fields sep cs, hfields, List.append_assoc,
      joinFields_append has (by simp [hne]), joinFields_append hne hbs]
    exact ⟨joinFields sep as, joinFields sep bs, by simp⟩

theorem length_fields (sep : Char) (cs : List Char) :
    (fields sep cs).length = cs.count sep + 1 := by
  induction cs with
  | nil => rfl
  | cons c cs ih =>
    rw [fields]
    by_cases hc : c = sep
    · rw [if_pos hc, hc, List.count_cons_self, List.length_cons, ih]
    · rw [if_neg hc, List.count_cons_of_ne hc, ← ih]
      cases hf : fields sep cs with
      | nil => exact absurd hf (fields_ne_nil sep cs)
      | cons f fs => rfl

/-- Texts that are each ended by a separator. -/
def ended (sep : Char) (ls : List (List Char)) : List Char := ls.flatMap (· ++ [sep])

theorem count_ended_cons (sep : Char) (l : List Char) (ls : List (List Char)) :
    (ended sep (l :: ls)).count sep = l.count sep + 1 + (ended sep ls).count sep := by
  unfold ended
  rw [List.flatMap_cons, List.count_append, List.count_append, List.count_singleton_self]

theorem length_le_count_ended (sep : Char) (ls : List (List Char)) :
    ls.length ≤ (ended sep ls).count sep := by
  induction ls with
  | nil => exact Nat.le_refl 0
  | cons l ls ih =>
    rw [count_ended_cons, List.length_cons]
    omega

/-- A separator inside a text is one too many. -/
theorem count_ended_iff : (ended sep ls).count sep = ls.length ↔ ∀ l ∈ ls, sep ∉ l := by
  induction ls with
  | nil => simp [ended]
  | cons l ls ih =>
    have hrest := length_le_count_ended sep ls
    rw [List.forall_mem_cons, ← ih, ← List.count_eq_zero, count_ended_cons, List.length_cons]
    omega

/-- **Cutting at the separators** gives the texts back just if there is none inside of them. -/
theorem fields_ended_iff : fields sep (ended sep ls) = ls ++ [[]] ↔ ∀ l ∈ ls, sep ∉ l := by
  constructor
  · intro h
    have hlength := congrArg List.length h
    rw [length_fields, List.length_append, List.length_singleton] at hlength
    exact count_ended_iff.1 (Nat.succ.inj hlength)
  · intro h
    induction ls with
    | nil => rfl
    | cons l ls ih =>
      obtain ⟨hl, hls⟩ := List.forall_mem_cons.1 h
      have hcons : ended sep (l :: ls) = l ++ sep :: ended sep ls := by simp [ended]
      rw [hcons, fields_append_sep, fields_of_not_mem hl, ih hls]
      rfl

end LintHub.Text
