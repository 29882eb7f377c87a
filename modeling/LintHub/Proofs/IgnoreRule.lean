import LintHub.Proofs.FileFilter

/-!
# The rule for ignore patterns

By the rule a pattern leaves out what it matches as a glob, and every path in which its text
occurs. The filter looks for the text without its double stars instead. Where there is no double
star it follows the rule, and also where one stands on both sides of a text, for then what is left
of the text is found just where the glob matches. Other patterns leave out more: the one for a
directory at the root leaves out each directory of that name.

* `applies_iff_leaves`: what a pattern applies to.
* `applies_iff_leavesOut`: when that is what the rule says.
* `applies_rooted`: a pattern that begins at the root, by the filter and by the rule.
* `isLintable_eq_false_iff`: which files a list of patterns leaves out.
-/

namespace LintHub

open Text

namespace IgnorePattern

variable {raw : String} {path rest cs x : List Char}

/-- The pattern matches the path as a glob. -/
def MatchesAsGlob (raw : String) (path : List Char) : Prop :=
  ∃ g, Glob.parse? raw = some g ∧ Glob.Matches g path

/-- By the rule the pattern leaves the path out. -/
def LeavesOut (raw : String) (path : List Char) : Prop :=
  MatchesAsGlob raw path ∨ withSlashes raw.toList <:+: path

/-- This is left of the pattern without its double stars. -/
def Leaves (raw : String) (rest : List Char) : Prop :=
  Replaced ['*', '*'] [] (withSlashes raw.toList) rest

theorem matchesAsGlob_iff : MatchesAsGlob raw path ↔
    (match Glob.parse? raw with
      | some g => g.accepts path
      | none => false) = true := by
  unfold MatchesAsGlob
  cases Glob.parse? raw with
  | none => simp
  | some g => simp [Glob.accepts_iff]

theorem matchesAsGlob_iff_matches {g : Glob} (h : Glob.parse? raw = some g) :
    MatchesAsGlob raw path ↔ Glob.Matches g path := by
  unfold MatchesAsGlob
  rw [h]
  simp only [Option.some.injEq, exists_eq_left']

instance (raw : String) (path : List Char) : Decidable (MatchesAsGlob raw path) :=
  decidable_of_iff' _ matchesAsGlob_iff

instance (raw : String) (path : List Char) : Decidable (LeavesOut raw path) :=
  decidable_of_iff (MatchesAsGlob raw path ∨ occursIn (withSlashes raw.toList) path = true)
    (or_congr_right occursIn_iff)

theorem applies_iff_core : (ofText raw).applies path = true ↔ MatchesAsGlob raw path ∨
    (ofText raw).core ≠ [] ∧ (ofText raw).core <:+: path := by
  unfold applies
  rw [Bool.or_eq_true, Bool.and_eq_true, bne_iff_ne, occursIn_iff, matchesAsGlob_iff]
  rfl

/-- **A pattern applies** where it matches as a glob, and where the text without its double stars
occurs, if there is any. -/
theorem applies_iff_leaves : (ofText raw).applies path = true ↔
    MatchesAsGlob raw path ∨ ∃ rest, Leaves raw rest ∧ rest ≠ [] ∧ rest <:+: path := by
  rw [applies_iff_core]
  refine or_congr_right ⟨fun ⟨hne, hinfix⟩ => ⟨_, core_eq_iff.1 rfl, hne, hinfix⟩, ?_⟩
  rintro ⟨rest, hleaves, hne, hinfix⟩
  obtain rfl := core_eq_iff.2 hleaves
  exact ⟨hne, hinfix⟩

/-- Slashes do not come into the stars. -/
theorem doubleStar_infix_withSlashes :
    ['*', '*'] <:+: withSlashes cs ↔ ['*', '*'] <:+: cs := by
  have hstar (c : Char) : '*' = (if c = '\\' then '/' else c) ↔ c = '*' := by
    split <;> simp_all [eq_comm]
  unfold withSlashes
  rw [List.infix_map_iff]
  constructor
  · rintro ⟨l, hl, heq⟩
    obtain ⟨c, l', rfl, hc, htail⟩ := List.map_eq_cons_iff.1 heq.symm
    obtain ⟨d, l'', rfl, hd, hnil⟩ := List.map_eq_cons_iff.1 htail
    obtain rfl := List.map_eq_nil_iff.1 hnil
    rwa [(hstar c).1 hc.symm, (hstar d).1 hd.symm] at hl
  · exact fun h => ⟨_, h, rfl⟩

/-- **Without double stars** the pattern is looked for as it is. -/
theorem core_of_noDoubleStar (h : ¬ ['*', '*'] <:+: withSlashes raw.toList) :
    (ofText raw).core = withSlashes raw.toList :=
  core_eq_iff.2 (.of_absent h)

/-- The filter treats such a pattern by the rule. -/
inductive KeepsRule : List Char → Prop where
  | noDoubleStar {cs : List Char} (h : ¬ ['*', '*'] <:+: cs) : KeepsRule cs
  /-- Whatever lies below these directories, wherever they are. -/
  | deep {x : List Char} (plain : Glob.IsPlain x) (back : '\\' ∉ x) : KeepsRule (Glob.deep x)

theorem withSlashes_ne_nil (h : cs ≠ []) : withSlashes cs ≠ [] := mt List.map_eq_nil_iff.1 h

/-- **When the rule is kept**: a pattern applies to what it leaves out by the rule. -/
theorem applies_iff_leavesOut (h : KeepsRule raw.toList) (hne : raw.toList ≠ []) :
    (ofText raw).applies path = true ↔ LeavesOut raw path := by
  rw [applies_iff_core]
  generalize hraw : raw.toList = cs at h
  cases h with
  | noDoubleStar h =>
    rw [core_of_noDoubleStar (by rwa [doubleStar_infix_withSlashes, hraw])]
    exact or_congr_right (and_iff_right (withSlashes_ne_nil hne))
  | @deep x plain back =>
    have hglob : MatchesAsGlob raw path ↔ x ++ ['/'] <+: path ∨ '/' :: (x ++ ['/']) <:+: path :=
      (matchesAsGlob_iff_matches (Glob.parse?_deep hraw plain)).trans Glob.matches_deep_iff
    have hslashes : withSlashes raw.toList = Glob.deep x := by
      rw [hraw]
      exact withSlashes_eq_self (by simp [Glob.deep, back])
    have hinside : '/' :: (x ++ ['/']) <:+: Glob.deep x := ⟨['*', '*'], ['*', '*'], by
      simp [Glob.deep]⟩
    rw [core_deep hraw plain back]
    unfold LeavesOut
    rw [hslashes]
    -- what the filter looks for occurs just where the glob finds it
    constructor
    · rintro (hmatch | ⟨-, hinfix⟩)
      · exact .inl hmatch
      · exact .inl (hglob.2 (.inr hinfix))
    · rintro (hmatch | hinfix)
      · exact .inl hmatch
      · exact .inr ⟨List.cons_ne_nil _ _, hinside.trans hinfix⟩

/-- Nothing that the rule leaves out is missed in a path without double stars. -/
theorem applies_of_leavesOut (hpath : ¬ ['*', '*'] <:+: path) (hne : raw.toList ≠ [])
    (h : LeavesOut raw path) : (ofText raw).applies path = true := by
  refine applies_iff_core.2 (h.imp_right fun hinfix => ?_)
  rw [core_of_noDoubleStar fun hstars => hpath (hstars.trans hinfix)]
  exact ⟨withSlashes_ne_nil hne, hinfix⟩

/-- A path with double stars in its name can be missed. -/
example : LeavesOut "a**b" "/x/a**b.js".toList ∧
    (ofText "a**b").applies "/x/a**b.js".toList = false := by
  decide +kernel

/-- **A pattern for a directory at the root**: the filter applies it to the directories of that
name wherever they are, the rule to that one only, and where its text occurs. -/
theorem applies_rooted (hraw : raw.toList = Glob.rooted x) (hx : Glob.IsPlain x) (hback : '\\' ∉ x) :
    ((ofText raw).applies path = true ↔ '/' :: (x ++ ['/']) <:+: path) ∧
    (LeavesOut raw path ↔ '/' :: (x ++ ['/']) <+: path ∨ Glob.rooted x <:+: path) := by
  have hslashes : withSlashes raw.toList = Glob.rooted x := by
    rw [hraw]
    exact withSlashes_eq_self (by simp [Glob.rooted, hback])
  have hglob : MatchesAsGlob raw path ↔ '/' :: (x ++ ['/']) <+: path :=
    (matchesAsGlob_iff_matches (Glob.parse?_rooted hraw hx)).trans Glob.matches_plain_star_iff
  rw [applies_iff_core, core_rooted hraw hx hback, hglob]
  refine ⟨?_, ?_⟩
  · rw [and_iff_right (List.cons_ne_nil _ _)]
    exact or_iff_right_of_imp List.IsPrefix.isInfix
  · unfold LeavesOut
    rw [hglob, hslashes]

end IgnorePattern

namespace FileFilter

open IgnorePattern

variable {p : Path}

/-- By the rule a list of patterns leaves the path out; blank ones do not count. -/
def LeftOut (patterns : List String) (p : Path) : Prop :=
  ∃ raw ∈ patterns, Text.isBlankText raw = false ∧ LeavesOut raw (withSlashes p.chars)

instance (patterns : List String) (p : Path) : Decidable (LeftOut patterns p) :=
  inferInstanceAs (Decidable (∃ raw ∈ patterns, _ ∧ _))

theorem toList_ne_nil_of_not_blank {raw : String} (h : Text.isBlankText raw = false) :
    raw.toList ≠ [] := by
  intro hnil
  unfold Text.isBlankText at h
  rw [hnil] at h
  cases h

/-- **Which files are left out.** A file that some linter handles is left out if one of the
patterns matches its path as a glob, or if what is left of one without its double stars occurs in
it. If the patterns keep the rule, these are the files that the rule leaves out. In any case the
rule's files are among them, apart from those with double stars in their path. -/
theorem isLintable_eq_false_iff (patterns : List String) (ignoreMinified : Bool)
    (habs : p.isAbsolute = true) (hp : Kind.ofPath p ≠ none)
    (hmin : (ignoreMinified && p.isMinified) = false) :
    let f := ofPatterns patterns ignoreMinified
    (f.isLintable p = false ↔ ∃ raw ∈ patterns, Text.isBlankText raw = false ∧
      (MatchesAsGlob raw (withSlashes p.chars) ∨
        ∃ rest, Leaves raw rest ∧ rest ≠ [] ∧ rest <:+: withSlashes p.chars)) ∧
    ((∀ raw ∈ patterns, Text.isBlankText raw = false → KeepsRule raw.toList) →
      (f.isLintable p = false ↔ LeftOut patterns p)) ∧
    (¬ ['*', '*'] <:+: p.chars → LeftOut patterns p → f.isLintable p = false) := by
  intro f
  have hf : f.isLintable p = false ↔ ∃ raw ∈ patterns, Text.isBlankText raw = false ∧
      (ofText raw).applies (withSlashes p.chars) = true := by
    rw [← ignores_ofPatterns_iff ignoreMinified, isLintable_ofPatterns, isLintable_bare, habs,
      Option.isSome_iff_ne_none.2 hp, hmin]
    simp
  refine ⟨?_, fun hrule => ?_, fun hpath hleft => ?_⟩
  · simp only [hf, applies_iff_leaves]
  · rw [hf]
    refine exists_congr fun raw => and_congr_right fun hraw => and_congr_right fun hblank => ?_
    exact applies_iff_leavesOut (hrule raw hraw hblank) (toList_ne_nil_of_not_blank hblank)
  · obtain ⟨raw, hraw, hblank, hleaves⟩ := hleft
    have hstars : ¬ ['*', '*'] <:+: withSlashes p.chars := mt doubleStar_infix_withSlashes.1 hpath
    exact hf.2 ⟨raw, hraw, hblank,
      applies_of_leavesOut hstars (toList_ne_nil_of_not_blank hblank) hleaves⟩

/-- Patterns that keep the rule, and a file below the directory that one of them asks for. -/
theorem isLintable_eq_false_of_generated :
    let patterns := ["**/generated/**", "legacy\\", "  "]
    let p : Path := ⟨"/proj/generated/api.ts"⟩
    LeftOut patterns p ∧ (ofPatterns patterns true).isLintable p = false := by
  intro patterns p
  have habs : p.isAbsolute = true := by decide
  have hp : Kind.ofPath p ≠ none := by decide +kernel
  have hmin : (true && p.isMinified) = false := by decide +kernel
  have hleft : LeftOut patterns p := by decide +kernel
  obtain ⟨-, hrule, -⟩ := isLintable_eq_false_iff patterns true habs hp hmin
  refine ⟨hleft, (hrule fun raw hraw _ => ?_).2 hleft⟩
  have hdeep : KeepsRule "**/generated/**".toList := by
    have htext : "**/generated/**".toList = Glob.deep "generated".toList := by decide
    have hname : isDirName "generated".toList = true := by decide
    obtain ⟨hword, -⟩ := isWord_of_isDirName hname
    rw [htext]
    exact .deep hword.plain hword.noBackslash
  have hothers : ∀ raw ∈ ["legacy\\", "  "], KeepsRule raw.toList := by
    exact fun raw hraw => .noDoubleStar (by revert raw; decide +kernel)
  rcases List.mem_cons.1 hraw with rfl | hraw
  · exact hdeep
  · exact hothers raw hraw

/-- A pattern for a directory at the root, and a file below another directory of that name: it is
left out, and not by the rule. -/
theorem isLintable_rooted_elsewhere :
    let p : Path := ⟨"/home/me/build/a.js"⟩
    let f := ofPatterns ["/build/**"] false
    (p.isAbsolute = true ∧ Kind.ofPath p ≠ none ∧ (false && p.isMinified) = false) ∧
    f.isLintable p = false ∧ ¬ LeftOut ["/build/**"] p := by
  decide +kernel

end FileFilter
end LintHub
