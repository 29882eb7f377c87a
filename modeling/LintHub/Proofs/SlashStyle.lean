import LintHub.Proofs.IgnoreRule

/-!
# Backslashes in ignore patterns

The text of a pattern is looked for with slashes, in a path with slashes; so there it does not
matter which of the two a pattern is written with. The glob is read from the pattern as it stands,
where a backslash is a character like any other, and the path has none. So without classes a glob
with a backslash matches nothing, and the one with slashes may. This does not show if the text
occurs wherever that glob matches. In a class the style may matter either way.

* `IgnorePattern.occurs_of_restyled`: the text of a pattern is the same in both styles.
* `IgnorePattern.applies_of_styleFree`: patterns for which the style does not matter.
* `FileFilter.isLintable_restyled_iff`: when the style matters for a list of patterns.
-/

namespace LintHub

open Text

namespace IgnorePattern

variable {raw raw' : String} {path cs ds : List Char}

/-- Some of the backslashes in a text have become slashes. -/
inductive Restyled : List Char → List Char → Prop where
  | nil : Restyled [] []
  | keep (c : Char) {cs ds : List Char} : Restyled cs ds → Restyled (c :: cs) (c :: ds)
  | slash {cs ds : List Char} : Restyled cs ds → Restyled ('\\' :: cs) ('/' :: ds)

/-- Or all of them. -/
theorem restyled_withSlashes (cs : List Char) : Restyled cs (withSlashes cs) := by
  induction cs with
  | nil => exact .nil
  | cons c cs ih =>
    unfold withSlashes at ih ⊢
    rw [List.map_cons]
    split
    · rename_i hback
      rw [hback]
      exact .slash ih
    · exact .keep c ih

theorem Restyled.withSlashes_eq (h : Restyled cs ds) : withSlashes ds = withSlashes cs := by
  unfold withSlashes
  induction h with
  | nil => rfl
  | keep c _ ih => rw [List.map_cons, List.map_cons, ih]
  | slash _ ih =>
    rw [List.map_cons, List.map_cons, ih]
    rfl

/-- A text without backslashes has one style only. -/
theorem Restyled.eq_of_notMem (h : Restyled cs ds) (hback : '\\' ∉ cs) : ds = cs := by
  induction h with
  | nil => rfl
  | keep c _ ih => rw [ih fun hmem => hback (List.mem_cons_of_mem c hmem)]
  | slash _ _ => exact absurd (List.mem_cons_self ..) hback

/-- All other characters stay. -/
theorem Restyled.mem_iff {c : Char} (h : Restyled cs ds) (hback : c ≠ '\\') (hslash : c ≠ '/') :
    c ∈ ds ↔ c ∈ cs := by
  induction h with
  | nil => rfl
  | keep d _ ih => rw [List.mem_cons, List.mem_cons, ih]
  | slash _ ih => simp [hback, hslash, ih]

/-- And no backslash is new. -/
theorem Restyled.back_mem (h : Restyled cs ds) (hback : '\\' ∈ ds) : '\\' ∈ cs := by
  by_contra hno
  rw [h.eq_of_notMem hno] at hback
  exact hno hback

/-- Two patterns are one in two styles. -/
def SameButStyle (raw raw' : String) : Prop := Restyled raw.toList raw'.toList

theorem sameButStyle_of_slashes (h : raw'.toList = withSlashes raw.toList) :
    SameButStyle raw raw' := by
  unfold SameButStyle
  rw [h]
  exact restyled_withSlashes raw.toList

/-- What is left of the pattern without its double stars occurs in the path. -/
def Occurs (raw : String) (path : List Char) : Prop :=
  ∃ rest, Leaves raw rest ∧ rest ≠ [] ∧ rest <:+: path

/-- **The text of a pattern** occurs in both styles alike. -/
theorem occurs_of_restyled (h : SameButStyle raw raw') : Occurs raw path ↔ Occurs raw' path := by
  unfold Occurs Leaves
  rw [h.withSlashes_eq]

theorem isBlankText_of_restyled (h : SameButStyle raw raw') :
    isBlankText raw' = isBlankText raw := by
  have hblank : ∀ {cs ds : List Char}, Restyled cs ds → ds.all isBlank = cs.all isBlank := by
    intro cs ds h
    induction h with
    | nil => rfl
    | keep c _ ih => rw [List.all_cons, List.all_cons, ih]
    | slash _ _ => rfl
  exact hblank h

/-- **A backslash outside a class** is in no path with slashes, so the glob matches none. -/
theorem not_matchesAsGlob (hclass : '[' ∉ raw.toList) (hback : '\\' ∈ raw.toList)
    (hpath : '\\' ∉ path) : ¬ MatchesAsGlob raw path := by
  rintro ⟨g, hparse, hmatch⟩
  exact hpath (Glob.mem_of_parse? ⟨by decide, by decide, by decide⟩ hclass hback hparse hmatch)

/-- A pattern is plain but for a double star in front or behind it, which keep their separators.
What is plain does not begin with a separator where a double star stands in front of it. -/
inductive Framed : List Char → Prop where
  | plain {w : List Char} (h : Glob.IsPlain w) : Framed w
  /-- Whatever lies below a directory. -/
  | below {w : List Char} (h : Glob.IsPlain w) : Framed (w ++ "/**".toList)
  | anywhere {w : List Char} (h : Glob.IsPlain w) (front : w.head? ≠ some '/') :
      Framed (Glob.anywhere w)
  | deep {c : Char} {x : List Char} (h : Glob.IsPlain (c :: x)) (front : c ≠ '/') :
      Framed (Glob.deep (c :: x))

theorem Framed.noClass (h : Framed cs) : '[' ∉ cs := by
  have hplain {w : List Char} (h : Glob.IsPlain w) : '[' ∉ w := fun hmem => (h _ hmem).2.2 rfl
  cases h with
  | plain h => exact hplain h
  | below h => simp [hplain h]
  | anywhere h => simp [Glob.anywhere, hplain h]
  | deep h =>
    have hx := hplain h
    rw [List.mem_cons, not_or] at hx
    simp [Glob.deep, hx]

/-- **Where such a pattern matches as a glob**, what is left of its text occurs. -/
theorem occurs_of_framed (h : Framed raw.toList) (hback : '\\' ∉ raw.toList)
    (hpath : path.head? = some '/') (hmatch : MatchesAsGlob raw path) : Occurs raw path := by
  have hne : path ≠ [] := by
    rintro rfl
    cases hpath
  refine ⟨(ofText raw).core, core_eq_iff.1 rfl, ?_⟩
  generalize hraw : raw.toList = cs at h
  cases h with
  | plain hw =>
    subst hraw
    rw [matchesAsGlob_iff_matches (Glob.parse?_plain hw), Glob.matches_plain_iff] at hmatch
    rw [core_of_noStar (fun hstar => (hw _ hstar).2.1 rfl) hback, ← hmatch]
    exact ⟨hne, List.infix_rfl⟩
  | @below w hw =>
    rw [matchesAsGlob_iff_matches (Glob.parse?_below hraw hw),
      Glob.matches_plain_star_iff] at hmatch
    rw [core_below hraw hw fun hmem => hback (by simp [hraw, hmem])]
    exact ⟨by simp, hmatch.isInfix⟩
  | @anywhere w hw front =>
    rw [matchesAsGlob_iff_matches (Glob.parse?_anywhere hraw hw),
      Glob.matches_anywhere_iff] at hmatch
    rw [core_anywhere hraw hw fun hmem => hback (by simp [hraw, Glob.anywhere, hmem])]
    refine ⟨List.cons_ne_nil _ _, ?_⟩
    rcases hmatch with rfl | hsuffix | rfl
    -- the path begins with a separator, and what is plain does not
    · exact absurd hpath front
    · exact hsuffix.isInfix
    -- all paths are matched, and a separator alone is left of the text
    · obtain ⟨c, rest, rfl⟩ := List.exists_cons_of_ne_nil hne
      obtain rfl := Option.some.inj hpath
      exact ⟨[], rest, rfl⟩
  | @deep c x hx front =>
    have hnoback : '\\' ∉ c :: x := fun hmem => hback (by
      rw [hraw]
      exact List.mem_append_left _ (List.mem_append_right _ hmem))
    rw [matchesAsGlob_iff_matches (Glob.parse?_deep hraw hx), Glob.matches_deep_iff] at hmatch
    rw [core_deep hraw hx hnoback]
    refine ⟨List.cons_ne_nil _ _, ?_⟩
    rcases hmatch with ⟨rest, rfl⟩ | hinfix
    -- the path begins with a separator, and the name does not
    · exact absurd (Option.some.inj hpath) front
    · exact hinfix

/-- These two styles of a pattern apply alike. -/
inductive StyleFree : String → String → Prop where
  /-- They do not differ. -/
  | same (raw : String) : StyleFree raw raw
  /-- There are no classes, and some backslash is left. -/
  | partly {raw raw' : String} (noClass : '[' ∉ raw.toList) (back : '\\' ∈ raw'.toList) :
      StyleFree raw raw'
  | framed {raw raw' : String} (framed : Framed raw'.toList) : StyleFree raw raw'

/-- A pattern with a backslash and no classes is just its text. -/
theorem applies_iff_occurs (hclass : '[' ∉ raw.toList) (hback : '\\' ∈ raw.toList)
    (hpath : '\\' ∉ path) : (ofText raw).applies path = true ↔ Occurs raw path :=
  applies_iff_leaves.trans (or_iff_right (not_matchesAsGlob hclass hback hpath))

/-- And so is a framed one. -/
theorem applies_iff_occurs_of_framed (h : Framed raw.toList) (hpath : '\\' ∉ path)
    (hhead : path.head? = some '/') : (ofText raw).applies path = true ↔ Occurs raw path := by
  by_cases hback : '\\' ∈ raw.toList
  · exact applies_iff_occurs h.noClass hback hpath
  · exact applies_iff_leaves.trans (or_iff_right_of_imp (occurs_of_framed h hback hhead))

/-- **When the style of a pattern does not matter.** -/
theorem applies_of_styleFree (h : SameButStyle raw raw') (hfree : StyleFree raw raw')
    (hpath : '\\' ∉ path) (hhead : path.head? = some '/') :
    (ofText raw).applies path = true ↔ (ofText raw').applies path = true := by
  cases hfree with
  | same => rfl
  | partly noClass back =>
    have noClass' : '[' ∉ raw'.toList := by rwa [h.mem_iff (by decide) (by decide)]
    rw [applies_iff_occurs noClass (h.back_mem back) hpath,
      applies_iff_occurs noClass' back hpath, occurs_of_restyled h]
  | framed framed =>
    by_cases back : '\\' ∈ raw.toList
    · have noClass : '[' ∉ raw.toList := by
        rw [← h.mem_iff (by decide) (by decide)]
        exact framed.noClass
      rw [applies_iff_occurs noClass back hpath, applies_iff_occurs_of_framed framed hpath hhead,
        occurs_of_restyled h]
    -- nothing has been replaced
    · rw [String.toList_inj.1 (h.eq_of_notMem back)]

/-- Without classes, slashes in the place of backslashes can only make a pattern apply to more. -/
theorem applies_restyled_of_noClass (h : SameButStyle raw raw') (hclass : '[' ∉ raw.toList)
    (hpath : '\\' ∉ path) (happlies : (ofText raw).applies path = true) :
    (ofText raw').applies path = true := by
  by_cases hback : '\\' ∈ raw.toList
  · have hoccurs := (applies_iff_occurs hclass hback hpath).1 happlies
    exact applies_iff_leaves.2 (.inr ((occurs_of_restyled h).1 hoccurs))
  · rwa [String.toList_inj.1 (h.eq_of_notMem hback)]

end IgnorePattern

namespace FileFilter

open IgnorePattern

variable {patterns patterns' : List String} {p : Path}

/-- Some pattern that is not blank matches the path as a glob. -/
def SomeMatches (patterns : List String) (p : Path) : Prop :=
  ∃ raw ∈ patterns, isBlankText raw = false ∧ MatchesAsGlob raw (withSlashes p.chars)

/-- The text of some pattern that is not blank occurs in the path. -/
def SomeOccurs (patterns : List String) (p : Path) : Prop :=
  ∃ raw ∈ patterns, isBlankText raw = false ∧ Occurs raw (withSlashes p.chars)

theorem ignores_iff_or (ignoreMinified : Bool) :
    (ofPatterns patterns ignoreMinified).ignores p = true ↔
      SomeMatches patterns p ∨ SomeOccurs patterns p := by
  rw [ignores_ofPatterns_iff]
  simp only [applies_iff_leaves, and_or_left, exists_or]
  rfl

theorem exists_of_forall₂ {α β : Type} {R : α → β → Prop} {P : α → Prop} {Q : β → Prop}
    {as : List α} {bs : List β} (h : List.Forall₂ R as bs) (hR : ∀ a b, R a b → P a → Q b) :
    (∃ a ∈ as, P a) → ∃ b ∈ bs, Q b := by
  induction h with
  | nil => rintro ⟨a, ha, -⟩; cases ha
  | @cons a b as bs hab _ ih =>
    rintro ⟨x, hx, hP⟩
    rcases List.mem_cons.1 hx with rfl | hx
    · exact ⟨b, List.mem_cons_self .., hR _ _ hab hP⟩
    · obtain ⟨y, hy, hQ⟩ := ih ⟨x, hx, hP⟩
      exact ⟨y, List.mem_cons_of_mem _ hy, hQ⟩

theorem exists_iff_of_forall₂ {α β : Type} {R : α → β → Prop} {P : α → Prop} {Q : β → Prop}
    {as : List α} {bs : List β} (h : List.Forall₂ R as bs) (hR : ∀ a b, R a b → (P a ↔ Q b)) :
    (∃ a ∈ as, P a) ↔ ∃ b ∈ bs, Q b :=
  ⟨exists_of_forall₂ h fun a b hab => (hR a b hab).1,
    exists_of_forall₂ h.flip fun b a hab => (hR a b hab).2⟩

theorem someOccurs_of_restyled (h : List.Forall₂ SameButStyle patterns patterns') :
    SomeOccurs patterns p ↔ SomeOccurs patterns' p :=
  exists_iff_of_forall₂ h fun raw raw' hraw => by
    rw [isBlankText_of_restyled hraw, occurs_of_restyled hraw]

/-- Patterns whose style does not matter, one by one, leave out the same. -/
theorem ignores_of_styleFree (ignoreMinified : Bool) (habs : p.isAbsolute = true)
    (h : List.Forall₂ SameButStyle patterns patterns')
    (hfree : List.Forall₂ StyleFree patterns patterns') :
    (ofPatterns patterns ignoreMinified).ignores p =
      (ofPatterns patterns' ignoreMinified).ignores p := by
  have hboth : List.Forall₂ (fun raw raw' => SameButStyle raw raw' ∧ StyleFree raw raw')
      patterns patterns' :=
    List.forall₂_iff_zip.2 ⟨h.length_eq, fun hmem =>
      ⟨(List.forall₂_iff_zip.1 h).2 hmem, (List.forall₂_iff_zip.1 hfree).2 hmem⟩⟩
  rw [Bool.eq_iff_iff, ignores_ofPatterns_iff, ignores_ofPatterns_iff]
  refine exists_iff_of_forall₂ hboth fun raw raw' ⟨hsame, hraw⟩ => ?_
  rw [isBlankText_of_restyled hsame,
    applies_of_styleFree hsame hraw (notMem_withSlashes _) (Path.head?_withSlashes habs)]

/-- Without classes in them, patterns with slashes leave out all that they do with backslashes. -/
theorem ignores_of_noClass (ignoreMinified : Bool)
    (h : List.Forall₂ SameButStyle patterns patterns')
    (hclass : ∀ raw ∈ patterns, '[' ∉ raw.toList)
    (hignores : (ofPatterns patterns ignoreMinified).ignores p = true) :
    (ofPatterns patterns' ignoreMinified).ignores p = true := by
  have hboth := (List.forall₂_and_left _ _).2 ⟨hclass, h⟩
  rw [ignores_ofPatterns_iff] at hignores ⊢
  refine exists_of_forall₂ hboth ?_ hignores
  rintro raw raw' ⟨hnone, hsame⟩ ⟨hblank, happlies⟩
  exact ⟨(isBlankText_of_restyled hsame).trans hblank,
    applies_restyled_of_noClass hsame hnone (notMem_withSlashes _) happlies⟩

/-- **When the style of patterns matters.** The texts of the patterns occur in both styles alike, so
files are judged alike unless no text occurs and the patterns match as globs in one style only. They
are judged alike if the style matters for no pattern by itself; and without classes a file that is
linted with slashes in the patterns is linted with backslashes as well. -/
theorem isLintable_restyled_iff (ignoreMinified : Bool) (p : Path)
    (h : List.Forall₂ SameButStyle patterns patterns') :
    let f := ofPatterns patterns ignoreMinified
    let f' := ofPatterns patterns' ignoreMinified
    (SomeOccurs patterns p ↔ SomeOccurs patterns' p) ∧
    (f.isLintable p = f'.isLintable p ↔
      ((ofPatterns [] ignoreMinified).isLintable p = true → ¬ SomeOccurs patterns p →
        (SomeMatches patterns p ↔ SomeMatches patterns' p))) ∧
    (List.Forall₂ StyleFree patterns patterns' → f.isLintable p = f'.isLintable p) ∧
    ((∀ raw ∈ patterns, '[' ∉ raw.toList) → f'.isLintable p = true → f.isLintable p = true) := by
  intro f f'
  have hoccurs : SomeOccurs patterns p ↔ SomeOccurs patterns' p := someOccurs_of_restyled h
  have hf : f.isLintable p = ((ofPatterns [] ignoreMinified).isLintable p && !f.ignores p) :=
    isLintable_ofPatterns patterns ignoreMinified p
  have hf' : f'.isLintable p = ((ofPatterns [] ignoreMinified).isLintable p && !f'.ignores p) :=
    isLintable_ofPatterns patterns' ignoreMinified p
  refine ⟨hoccurs, ?_, fun hfree => ?_, fun hclass hlint => ?_⟩
  · have hsame : f.isLintable p = f'.isLintable p ↔
        ((ofPatterns [] ignoreMinified).isLintable p = true → f.ignores p = f'.ignores p) := by
      rw [hf, hf']
      cases (ofPatterns [] ignoreMinified).isLintable p <;> cases f.ignores p <;>
        cases f'.ignores p <;> decide
    have hignores : f.ignores p = f'.ignores p ↔
        (SomeMatches patterns p ∨ SomeOccurs patterns p ↔
          SomeMatches patterns' p ∨ SomeOccurs patterns p) := by
      rw [Bool.eq_iff_iff, ignores_iff_or, ignores_iff_or, ← hoccurs]
    rw [hsame, hignores]
    refine imp_congr_right fun _ => ?_
    by_cases hoccur : SomeOccurs patterns p <;> simp [hoccur]
  · rw [hf, hf']
    cases hbare : (ofPatterns [] ignoreMinified).isLintable p with
    | false => rfl
    | true =>
      rw [isLintable_bare, Bool.and_eq_true, Bool.and_eq_true] at hbare
      have hsame : f.ignores p = f'.ignores p :=
        ignores_of_styleFree ignoreMinified hbare.1.1 h hfree
      rw [hsame]
  · rw [hf', Bool.and_eq_true, Bool.not_eq_true'] at hlint
    have hnot : f.ignores p = false := eq_false_of_ne_true fun hignores => by
      have hignores' : f'.ignores p = true := ignores_of_noClass ignoreMinified h hclass hignores
      rw [hignores'] at hlint
      cases hlint.2
    rw [hf, hlint.1, hnot]
    rfl

/-- A directory by its text and another one by a glob, in both styles. -/
theorem isLintable_restyled_iff_generated :
    let patterns := ["legacy\\", "**\\gen\\**"]
    let patterns' := ["legacy/", "**/gen/**"]
    let p : Path := ⟨"/proj/gen/api.ts"⟩
    List.Forall₂ SameButStyle patterns patterns' ∧ List.Forall₂ StyleFree patterns patterns' ∧
      (ofPatterns patterns false).isLintable p = false ∧
      (ofPatterns patterns' false).isLintable p = false := by
  intro patterns patterns' p
  have hsame : List.Forall₂ SameButStyle patterns patterns' :=
    .cons (sameButStyle_of_slashes (by decide)) (.cons (sameButStyle_of_slashes (by decide)) .nil)
  have hplain {x : List Char} (h : isDirName x = true) : Glob.IsPlain x :=
    (isWord_of_isDirName h).1.plain
  have hlegacy : Framed "legacy/".toList := by
    rw [show "legacy/".toList = "legacy".toList ++ ['/'] by decide]
    exact .plain (Glob.isPlain_dir (hplain (by decide)))
  have hgen : Framed "**/gen/**".toList := by
    rw [show "**/gen/**".toList = Glob.deep ('g' :: "en".toList) by decide]
    exact .deep (hplain (by decide)) (by decide)
  have hfree : List.Forall₂ StyleFree patterns patterns' :=
    .cons (.framed hlegacy) (.cons (.framed hgen) .nil)
  obtain ⟨-, -, hjudged, -⟩ := isLintable_restyled_iff false p hsame
  have hp : (ofPatterns patterns false).isLintable p = false := by decide +kernel
  exact ⟨hsame, hfree, hp, (hjudged hfree).symm.trans hp⟩

/-- A star behind a directory, and a class with a backslash in it: the styles are judged apart,
the one way and the other. -/
theorem isLintable_restyled_apart :
    let p : Path := ⟨"/p/a.js"⟩
    (SameButStyle "/p\\*.js" "/p/*.js" ∧
      (ofPatterns ["/p\\*.js"] false).isLintable p = true ∧
      (ofPatterns ["/p/*.js"] false).isLintable p = false) ∧
    SameButStyle "/p[!\\]a.js" "/p[!/]a.js" ∧
      (ofPatterns ["/p[!\\]a.js"] false).isLintable p = false ∧
      (ofPatterns ["/p[!/]a.js"] false).isLintable p = true := by
  intro p
  have hstar : SameButStyle "/p\\*.js" "/p/*.js" := sameButStyle_of_slashes (by decide)
  have hclass : SameButStyle "/p[!\\]a.js" "/p[!/]a.js" := sameButStyle_of_slashes (by decide)
  refine ⟨⟨hstar, ?_, ?_⟩, hclass, ?_, ?_⟩
  all_goals decide +kernel

end FileFilter
end LintHub
