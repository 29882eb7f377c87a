import LintHub.Config
import LintHub.Proofs.Glob
import LintHub.Proofs.Names
import LintHub.Proofs.Shares
import LintHub.Proofs.Text.Scanning

/-!
# The file filter and the spelling of a path

A path may be spelled in many ways, and most of the filter looks at what it names. Only the
ignore patterns are laid on the text. A pattern that speaks of one name at a time still finds the
same names in every spelling; all default patterns are of this kind. One that speaks of two
directories in a row finds them only if nothing is spelled between them.

* `IgnorePattern.applies_iff`: a pattern about one name, said without the text of the path.
* `FileFilter.ignores_iff`: what such patterns leave out.
* `FileFilter.isLintable_of_same`: when the spelling does not matter.
* `FileFilter.ignores_depends`: when it does.
-/

namespace LintHub

open Text

namespace IgnorePattern

variable {x : List Char} {p : Path}

/-- A name, or a part of one, that is taken as it stands. -/
structure IsWord (x : List Char) : Prop where
  nonempty : x ≠ []
  notDot : x ≠ ['.']
  noSlash : '/' ∉ x
  noBackslash : '\\' ∉ x
  plain : Glob.IsPlain x

/-- The test that a text is a word without a dot in it. -/
def isDirName (x : List Char) : Bool :=
  !x.isEmpty && x.all fun c =>
    c != '.' && c != '/' && c != '\\' && c != '?' && c != '*' && c != '['

theorem isWord_of_isDirName (h : isDirName x = true) : IsWord x ∧ '.' ∉ x := by
  simp only [isDirName, Bool.and_eq_true, Bool.not_eq_true', List.isEmpty_eq_false_iff,
    List.all_eq_true, bne_iff_ne, ne_eq] at h
  obtain ⟨hne, hall⟩ := h
  have hdot : '.' ∉ x := fun hc => (hall _ hc).1.1.1.1.1 rfl
  exact ⟨{
    nonempty := hne
    notDot := by
      rintro rfl
      exact hdot (List.mem_singleton_self '.')
    noSlash := fun hc => (hall _ hc).1.1.1.1.2 rfl
    noBackslash := fun hc => (hall _ hc).1.1.1.2 rfl
    plain := fun c hc => ⟨(hall c hc).1.1.2, (hall c hc).1.2, (hall c hc).2⟩ }, hdot⟩

/-- A word does not stand in the pieces of a path that name nothing. -/
theorem IsWord.not_infix (h : IsWord x) : ¬ x <:+: [] ∧ ¬ x <:+: ['.'] := by
  have hnil : ¬ x <:+: [] := fun hinfix => h.nonempty (List.infix_nil.1 hinfix)
  refine ⟨hnil, fun hinfix => ?_⟩
  rcases List.infix_cons_iff.1 hinfix with hprefix | hrest
  · rcases List.prefix_cons_iff.1 hprefix with hempty | ⟨t, hx, ht⟩
    · exact h.nonempty hempty
    · exact h.notDot (by rw [hx, List.prefix_nil.1 ht])
  · exact hnil hrest

/-- A pattern speaks of one name at a time: it asks for a name of this kind. -/
inductive Asks : List Char → (List Char → Prop) → Prop where
  /-- Something that stands in a name. -/
  | part {x : List Char} (word : IsWord x) : Asks x (x <:+: ·)
  /-- The front of a name. -/
  | front {x : List Char} (word : IsWord x) : Asks ('/' :: x) (x <+: ·)
  /-- A directory. -/
  | whole {x : List Char} (word : IsWord x) (dir : Kind.NoFile x) :
      Asks ('/' :: (x ++ ['/'])) (x = ·)
  /-- A directory, by a glob. -/
  | deep {x : List Char} (word : IsWord x) (dir : Kind.NoFile x) : Asks (Glob.deep x) (x = ·)

/-- The piece of text that has to occur is the pattern without its double stars. -/
theorem core_eq_iff {raw : String} {rest : List Char} : (ofText raw).core = rest ↔
    Replaced ['*', '*'] [] (withSlashes raw.toList) rest := by
  unfold core ofText
  exact replaceAll_eq_iff (List.cons_ne_nil '*' ['*'])

theorem core_of_noStar {raw : String} (hstar : '*' ∉ raw.toList) (hback : '\\' ∉ raw.toList) :
    (ofText raw).core = raw.toList := by
  rw [core_eq_iff, withSlashes_eq_self hback]
  exact .of_absent fun h => hstar (h.subset (List.mem_cons_self ..))

/-- Nothing is left of the double star behind a plain text. -/
theorem replaced_plain_star {w : List Char} (h : Glob.IsPlain w) :
    Replaced ['*', '*'] [] (w ++ ['*', '*']) w := by
  have hend : Replaced ['*', '*'] [] ['*', '*'] [] := .place .nil
  have hwhole := hend.append fun hmem : '*' ∈ w => (h _ hmem).2.1 rfl
  rwa [List.append_nil] at hwhole

theorem core_below {raw : String} {w : List Char} (hraw : raw.toList = w ++ "/**".toList)
    (hw : Glob.IsPlain w) (hback : '\\' ∉ w) : (ofText raw).core = w ++ ['/'] := by
  have hnoback : '\\' ∉ w ++ "/**".toList := by simp [hback]
  have htext : w ++ "/**".toList = (w ++ ['/']) ++ ['*', '*'] := by simp
  rw [core_eq_iff, hraw, withSlashes_eq_self hnoback, htext]
  exact replaced_plain_star (Glob.isPlain_dir hw)

theorem core_rooted {raw : String} (hraw : raw.toList = Glob.rooted x) (hx : Glob.IsPlain x)
    (hback : '\\' ∉ x) : (ofText raw).core = '/' :: (x ++ ['/']) :=
  core_below (w := '/' :: x) hraw (List.forall_mem_cons.2 ⟨by decide, hx⟩) (by simp [hback])

theorem core_anywhere {raw : String} {w : List Char} (hraw : raw.toList = Glob.anywhere w)
    (hw : Glob.IsPlain w) (hback : '\\' ∉ w) : (ofText raw).core = '/' :: w := by
  have hnoback : '\\' ∉ Glob.anywhere w := by simp [Glob.anywhere, hback]
  have htext : Glob.anywhere w = ['*', '*'] ++ ('/' :: w) := by simp [Glob.anywhere]
  have hstar : ¬ ['*', '*'] <:+: '/' :: w := by
    intro hin
    rcases List.mem_cons.1 (hin.subset (List.mem_cons_self ..)) with hslash | hmem
    · cases hslash
    · exact (hw _ hmem).2.1 rfl
  rw [core_eq_iff, hraw, withSlashes_eq_self hnoback, htext]
  exact .place (.of_absent hstar)

theorem core_deep {raw : String} (hraw : raw.toList = Glob.deep x) (hx : Glob.IsPlain x)
    (hback : '\\' ∉ x) : (ofText raw).core = '/' :: (x ++ ['/']) := by
  have hnoback : '\\' ∉ Glob.deep x := by simp [Glob.deep, hback]
  have htext : Glob.deep x = ['*', '*'] ++ (('/' :: (x ++ ['/'])) ++ ['*', '*']) := by
    simp [Glob.deep]
  rw [core_eq_iff, hraw, withSlashes_eq_self hnoback, htext]
  exact .place (replaced_plain_star (List.forall_mem_cons.2 ⟨by decide, Glob.isPlain_dir hx⟩))

/-- A pattern without the signs of a glob applies where it occurs. -/
theorem applies_plain_iff {raw : String} {path : List Char} (hne : raw.toList ≠ [])
    (hplain : Glob.IsPlain raw.toList) (hback : '\\' ∉ raw.toList) :
    (ofText raw).applies path = true ↔ raw.toList <:+: path := by
  have hcore : (ofText raw).core = raw.toList := by
    exact core_of_noStar (fun hmem => (hplain _ hmem).2.1 rfl) hback
  have hglob : (ofText raw).glob = some (raw.toList.map .char) := Glob.parse?_plain hplain
  unfold applies
  rw [hcore, hglob]
  simp only [Bool.or_eq_true, Bool.and_eq_true, bne_iff_ne, ne_eq, hne, not_false_eq_true,
    true_and, Glob.accepts_iff, Glob.matches_plain_iff, occursIn_iff]
  constructor
  · rintro (rfl | h)
    · exact List.infix_rfl
    · exact h
  · exact .inr

/-- With a double star on both sides it applies where the directory occurs, in a path that begins
with a separator. -/
theorem applies_deep_iff {raw : String} {path : List Char} (hraw : raw.toList = Glob.deep x)
    (hx : IsWord x) (hpath : path.head? = some '/') :
    (ofText raw).applies path = true ↔ '/' :: (x ++ ['/']) <:+: path := by
  have hcore : (ofText raw).core = '/' :: (x ++ ['/']) := core_deep hraw hx.plain hx.noBackslash
  have hglob : (ofText raw).glob = _ := Glob.parse?_deep hraw hx.plain
  unfold applies
  rw [hcore, hglob]
  simp only [Bool.or_eq_true, Bool.and_eq_true, bne_iff_ne, ne_eq, List.cons_ne_nil,
    not_false_eq_true, true_and, Glob.accepts_iff, occursIn_iff]
  refine ⟨fun h => ?_, .inr⟩
  rcases h with h | h
  · rcases Glob.matches_deep_iff.1 h with hprefix | hinfix
    -- the path begins with a separator, and the name does not
    · obtain ⟨c, y, rfl⟩ := List.exists_cons_of_ne_nil hx.nonempty
      obtain ⟨rest, rfl⟩ := hprefix
      obtain rfl := Option.some.inj hpath
      exact absurd (List.mem_cons_self ..) hx.noSlash
    · exact hinfix
  · exact h

/-- A directory occurs just if it is one of the names. -/
theorem dir_infix_iff (hx : IsWord x) (hdir : Kind.NoFile x) (habs : p.isAbsolute = true)
    (hp : Kind.ofPath p ≠ none) :
    '/' :: (x ++ ['/']) <:+: withSlashes p.chars ↔ ∃ w ∈ p.words, x = w := by
  have hone : '/' :: (x ++ ['/']) <:+: withSlashes p.chars ↔
      ∃ as bs, fields '/' (withSlashes p.chars) = as ++ [x] ++ bs ∧ as ≠ [] ∧ bs ≠ [] :=
    sep_infix_sep_iff (List.forall_mem_singleton.2 hx.noSlash) (List.cons_ne_nil x [])
  rw [← Path.exists_field_iff habs hx.nonempty hx.notDot]
  refine hone.trans ⟨?_, ?_⟩
  · rintro ⟨as, bs, hfields, -, -⟩
    exact ⟨x, by rw [hfields]; simp, rfl⟩
  · rintro ⟨f, hf, rfl⟩
    obtain ⟨as, bs, hfields, has⟩ := Path.append_of_mem_fields habs hf hx.nonempty
    refine ⟨as, bs, by rw [hfields]; simp, has, ?_⟩
    -- the last field is the end of a file
    rintro rfl
    obtain ⟨as', g, hlast, hg⟩ := Kind.exists_last_field habs hp
    obtain ⟨-, hgx⟩ := List.append_inj' (hlast.symm.trans hfields) rfl
    obtain rfl := List.singleton_inj.1 hgx
    rcases hg with hempty | hdot | hfile
    · exact hx.nonempty hempty
    · exact hx.notDot hdot
    · exact hfile hdir

/-- **A pattern that asks for a name** applies to a path just if there is such a name in it. -/
theorem applies_iff {raw : String} {P : List Char → Prop} (h : Asks raw.toList P)
    (habs : p.isAbsolute = true) (hp : Kind.ofPath p ≠ none) :
    (ofText raw).applies (withSlashes p.chars) = true ↔ ∃ w ∈ p.words, P w := by
  have hplain {y : List Char} (hy : Glob.IsPlain y) (hraw : raw.toList = y) (hne : y ≠ [])
      (hback : '\\' ∉ y) : (ofText raw).applies (withSlashes p.chars) = true ↔
        y <:+: withSlashes p.chars := by
    subst hraw
    exact applies_plain_iff hne hy hback
  have hslash : '/' ≠ '?' ∧ '/' ≠ '*' ∧ '/' ≠ '[' := by decide
  generalize hraw : raw.toList = cs at h
  cases h with
  | part word =>
    rw [hplain word.plain hraw word.nonempty word.noBackslash, infix_iff word.noSlash]
    exact Path.exists_field_iff habs word.not_infix.1 word.not_infix.2
  | @front x word =>
    rw [hplain (y := '/' :: x) (List.forall_mem_cons.2 ⟨hslash, word.plain⟩) hraw (by simp)
      (by simp [word.noBackslash]), sep_infix_iff word.noSlash, ← Path.exists_field_iff habs
      (fun h => word.not_infix.1 h.isInfix) (fun h => word.not_infix.2 h.isInfix)]
    constructor
    · rintro ⟨as, f, bs, hfields, -, hprefix⟩
      exact ⟨f, by rw [hfields]; simp, hprefix⟩
    · rintro ⟨f, hf, hprefix⟩
      have hne : f ≠ [] := fun hnil => word.not_infix.1 (hnil ▸ hprefix).isInfix
      obtain ⟨as, bs, hfields, has⟩ := Path.append_of_mem_fields habs hf hne
      exact ⟨as, f, bs, hfields, has, hprefix⟩
  | @whole x word dir =>
    have hy : Glob.IsPlain ('/' :: (x ++ ['/'])) :=
      List.forall_mem_cons.2 ⟨hslash, List.forall_mem_append.2
        ⟨word.plain, List.forall_mem_singleton.2 hslash⟩⟩
    rw [hplain hy hraw (by simp) (by simp [word.noBackslash])]
    exact dir_infix_iff word dir habs hp
  | @deep x word dir =>
    rw [applies_deep_iff hraw word (Path.head?_withSlashes habs)]
    exact dir_infix_iff word dir habs hp

/-- The name of a directory without a dot in it, between slashes. -/
theorem exists_asks_dir {name : String} (h : isDirName name.toList = true) :
    ∃ P, Asks ("/" ++ name ++ "/").toList P := by
  obtain ⟨hx, hdot⟩ := isWord_of_isDirName h
  have htext : ("/" ++ name ++ "/").toList = '/' :: (name.toList ++ ['/']) := by
    simp only [String.toList_append]
    rfl
  rw [htext]
  exact ⟨_, .whole hx (Kind.noFile_of_notMem hdot)⟩

/-- The default patterns are of this kind. -/
theorem exists_asks_default :
    ∀ raw ∈ defaultIgnore, ∃ P, Asks raw.toList P := by
  have hdirs : defaultIgnore = ["node_modules", "bower_components", "typings", "lib"].map
      fun name => "/" ++ name ++ "/" := by decide
  have hnames : (["node_modules", "bower_components", "typings", "lib"].all
      fun name => isDirName name.toList) = true := by decide
  rw [hdirs]
  intro raw hraw
  obtain ⟨name, hname, rfl⟩ := List.mem_map.1 hraw
  exact exists_asks_dir (List.all_eq_true.1 hnames name hname)

end IgnorePattern

namespace FileFilter

open IgnorePattern

variable {p q : Path} {patterns : List String}

theorem ignores_ofPatterns_iff (ignoreMinified : Bool) :
    (ofPatterns patterns ignoreMinified).ignores p = true ↔
      ∃ raw ∈ patterns, Text.isBlankText raw = false ∧
        (ofText raw).applies (withSlashes p.chars) = true := by
  simp [ignores, ofPatterns, List.any_eq_true]

/-- **Patterns that each ask for one name** apply to a file just if one of them is among the names
in its path. -/
theorem ignores_iff (ignoreMinified : Bool) (habs : p.isAbsolute = true)
    (hp : Kind.ofPath p ≠ none)
    (hasks : ∀ raw ∈ patterns, Text.isBlankText raw = false → ∃ P, Asks raw.toList P) :
    (ofPatterns patterns ignoreMinified).ignores p = true ↔
      ∃ raw ∈ patterns, Text.isBlankText raw = false ∧
        ∃ P, Asks raw.toList P ∧ ∃ w ∈ p.words, P w := by
  rw [ignores_ofPatterns_iff]
  refine exists_congr fun raw => and_congr_right fun hraw => and_congr_right fun hblank => ?_
  constructor
  · intro happlies
    obtain ⟨P, hP⟩ := hasks raw hraw hblank
    exact ⟨P, hP, (applies_iff hP habs hp).1 happlies⟩
  · rintro ⟨P, hP, hword⟩
    exact (applies_iff hP habs hp).2 hword

/-- And the names are the same in every spelling. -/
theorem ignores_of_same (ignoreMinified : Bool) (h : p.Same q) (habs : p.isAbsolute = true)
    (hp : Kind.ofPath p ≠ none)
    (hasks : ∀ raw ∈ patterns, Text.isBlankText raw = false → ∃ P, Asks raw.toList P) :
    (ofPatterns patterns ignoreMinified).ignores p =
      (ofPatterns patterns ignoreMinified).ignores q := by
  have habs' : q.isAbsolute = true := (Path.isAbsolute_of_same h).symm.trans habs
  have hq : Kind.ofPath q ≠ none := Kind.ofPath_eq_of_same h ▸ hp
  rw [Bool.eq_iff_iff, ignores_iff ignoreMinified habs hp hasks,
    ignores_iff ignoreMinified habs' hq hasks, Path.words_of_same h]

/-- Without patterns a file is judged by what it is. -/
theorem isLintable_bare (ignoreMinified : Bool) (p : Path) :
    (ofPatterns [] ignoreMinified).isLintable p =
      (p.isAbsolute && (Kind.ofPath p).isSome && !(ignoreMinified && p.isMinified)) := by
  rw [isLintable_eq]
  simp [ofPatterns, ignores]

theorem isLintable_ofPatterns (patterns : List String) (ignoreMinified : Bool) (p : Path) :
    (ofPatterns patterns ignoreMinified).isLintable p =
      ((ofPatterns [] ignoreMinified).isLintable p &&
        !(ofPatterns patterns ignoreMinified).ignores p) := by
  rw [isLintable_bare, isLintable_eq]
  rfl

/-- **When the spelling does not matter.** Without patterns a file is judged alike in every
spelling. With patterns, two spellings are judged alike just if the patterns do not tell them
apart, or else the file is left out anyhow. And patterns that each ask for one name never do. -/
theorem isLintable_of_same (patterns : List String) (ignoreMinified : Bool) (h : p.Same q) :
    let f := ofPatterns patterns ignoreMinified
    let bare := ofPatterns [] ignoreMinified
    bare.isLintable p = bare.isLintable q ∧
    (f.isLintable p = f.isLintable q ↔ (bare.isLintable p = true → f.ignores p = f.ignores q)) ∧
    ((∀ raw ∈ patterns, Text.isBlankText raw = false → ∃ P, Asks raw.toList P) →
      f.isLintable p = f.isLintable q) := by
  intro f bare
  have hbare : bare.isLintable p = bare.isLintable q := by
    rw [isLintable_bare, isLintable_bare, Path.isAbsolute_of_same h, Kind.ofPath_eq_of_same h,
      Path.isMinified_of_same h]
  have hiff : f.isLintable p = f.isLintable q ↔
      (bare.isLintable p = true → f.ignores p = f.ignores q) := by
    have hjudged (r : Path) : f.isLintable r = (bare.isLintable r && !f.ignores r) :=
      isLintable_ofPatterns patterns ignoreMinified r
    rw [hjudged, hjudged, ← hbare]
    cases bare.isLintable p <;> cases f.ignores p <;> cases f.ignores q <;> decide
  refine ⟨hbare, hiff, fun hasks => hiff.2 fun hp => ?_⟩
  rw [isLintable_bare, Bool.and_eq_true, Bool.and_eq_true, Option.isSome_iff_ne_none] at hp
  exact ignores_of_same ignoreMinified h hp.1.1 hp.1.2 hasks

/-- A file in a package, in two spellings, under the default patterns. -/
theorem isLintable_of_same_default :
    let p : Path := ⟨"/p/node_modules/x/index.js"⟩
    let q : Path := ⟨"/p/./node_modules//x/index.js"⟩
    let f := ofPatterns defaultIgnore true
    p.Same q ∧ f.isLintable p = false ∧ f.isLintable q = false := by
  intro p q f
  have hsame : p.Same q := by decide +kernel
  obtain ⟨-, -, hnames⟩ := isLintable_of_same defaultIgnore true hsame
  have hp : f.isLintable p = false := by decide +kernel
  refine ⟨hsame, hp, ?_⟩
  rw [← hnames fun raw hraw _ => exists_asks_default raw hraw]
  exact hp

/-- A directory in another one, in two spellings: the pattern finds it in the first one alone. -/
theorem isLintable_spelled :
    let p : Path := ⟨"/p/src/a.js"⟩
    let q : Path := ⟨"/p/./src/a.js"⟩
    let f := ofPatterns ["/p/src/"] false
    p.Same q ∧ f.isLintable p = false ∧ f.isLintable q = true := by
  decide +kernel

section Depends

variable {w : List Char} {ws : List (List Char)}

/-- The path of a file below these directories. -/
def below (ws : List (List Char)) : Path :=
  .ofChars ('/' :: joinFields '/' (ws ++ ["x.js".toList]))

theorem fields_below (hws : ∀ v ∈ ws, '/' ∉ v) :
    fields '/' (below ws).chars = [] :: (ws ++ ["x.js".toList]) := by
  have hall : ∀ v ∈ ws ++ ["x.js".toList], '/' ∉ v := List.forall_mem_append.2 ⟨hws, by decide⟩
  have hcut := fields_append_sep '/' [] (joinFields '/' (ws ++ ["x.js".toList]))
  rw [fields_joinFields hall (by simp)] at hcut
  rw [below, Path.chars_ofChars]
  exact hcut

theorem components_below (hws : ∀ v ∈ ws, '/' ∉ v) : (below ws).components =
    .root :: (ws.filterMap Path.Component.ofPiece ++ [.name "x.js"]) := by
  have habs : (below ws).isAbsolute = true := by simp [below, Path.isAbsolute]
  rw [Path.components_of_isAbsolute habs, fields_below hws, List.filterMap_cons_none rfl,
    List.filterMap_append]
  rfl

/-- Without patterns such a file is linted. -/
theorem isLintable_below (hws : ∀ v ∈ ws, '/' ∉ v) (patterns : List String) :
    (ofPatterns patterns false).isLintable (below ws) =
      !(ofPatterns patterns false).ignores (below ws) := by
  have habs : (below ws).isAbsolute = true := by simp [below, Path.isAbsolute]
  have hname : (below ws).fileName? = some "x.js" := by
    unfold Path.fileName?
    rw [components_below hws, ← List.cons_append, List.getLast?_concat]
  have hkind : Kind.ofPath (below ws) = some .esLint := by
    unfold Kind.ofPath Path.extension?
    rw [hname]
    decide
  rw [isLintable_eq, habs, hkind]
  rfl

/-- A pattern that asks for these directories, one in the other. -/
def rowOf (ws : List (List Char)) : String := String.ofList ('/' :: (joinFields '/' ws ++ ['/']))

/-- Such a pattern applies just if they are a row of fields. -/
theorem ignores_rowOf_iff (hws : ∀ v ∈ ws, IsWord v) (hne : ws ≠ [])
    (hback : '\\' ∉ p.chars) :
    (ofPatterns [rowOf ws] false).ignores p = true ↔
      ∃ as bs, fields '/' p.chars = as ++ ws ++ bs ∧ as ≠ [] ∧ bs ≠ [] := by
  have hraw : (rowOf ws).toList = '/' :: (joinFields '/' ws ++ ['/']) := String.toList_ofList
  -- all that stands in the pattern is a separator, or it stands in a word
  have hchars : ∀ c ∈ (rowOf ws).toList, c = '/' ∨ ∃ v ∈ ws, c ∈ v := by
    intro c hc
    rw [hraw, List.mem_cons, List.mem_append, List.mem_singleton] at hc
    rcases hc with hc | hc | hc
    · exact .inl hc
    · exact mem_joinFields hc
    · exact .inl hc
  have hplain : Glob.IsPlain (rowOf ws).toList := by
    intro c hc
    rcases hchars c hc with rfl | ⟨v, hv, hcv⟩
    · decide
    · exact (hws v hv).plain c hcv
  have hnoback : '\\' ∉ (rowOf ws).toList := by
    intro hc
    rcases hchars _ hc with hc | ⟨v, hv, hcv⟩
    · cases hc
    · exact (hws v hv).noBackslash hcv
  have hblank : Text.isBlankText (rowOf ws) = false := by
    unfold Text.isBlankText
    rw [hraw]
    rfl
  have happlies : (ofText (rowOf ws)).applies p.chars = true ↔ (rowOf ws).toList <:+: p.chars :=
    applies_plain_iff (by simp [hraw]) hplain hnoback
  rw [hraw, sep_infix_sep_iff (fun v hv => (hws v hv).noSlash) hne] at happlies
  rw [ignores_ofPatterns_iff, ← happlies, withSlashes_eq_self hback]
  simp [hblank]

theorem notMem_below (hws : ∀ v ∈ ws, '\\' ∉ v) : '\\' ∉ (below ws).chars := by
  rw [below, Path.chars_ofChars, List.mem_cons, not_or]
  refine ⟨by decide, fun hc => ?_⟩
  rcases mem_joinFields hc with hc | ⟨v, hv, hcv⟩
  · cases hc
  · have hall : ∀ v ∈ ws ++ ["x.js".toList], '\\' ∉ v := List.forall_mem_append.2 ⟨hws, by decide⟩
    exact hall v hv hcv

/-- **When the spelling matters.** A pattern that asks for two or more directories in a row
leaves a file in them out, unless a dot is spelled behind the first of them. -/
theorem ignores_depends (hw : IsWord w) (hws : ∀ v ∈ ws, IsWord v) (hne : ws ≠ []) :
    let f := ofPatterns [rowOf (w :: ws)] false
    let p := below (w :: ws)
    let q := below (w :: ['.'] :: ws)
    p.Same q ∧ f.isLintable p = false ∧ f.isLintable q = true := by
  intro f p q
  have hall : ∀ v ∈ w :: ws, IsWord v := List.forall_mem_cons.2 ⟨hw, hws⟩
  have hslash : ∀ v ∈ w :: ws, '/' ∉ v := fun v hv => (hall v hv).noSlash
  have hback : ∀ v ∈ w :: ws, '\\' ∉ v := fun v hv => (hall v hv).noBackslash
  have hdot {c : Char} (hc : c ∉ ['.']) (h : ∀ v ∈ w :: ws, c ∉ v) :
      ∀ v ∈ w :: ['.'] :: ws, c ∉ v := by
    obtain ⟨hw, hws⟩ := List.forall_mem_cons.1 h
    exact List.forall_mem_cons.2 ⟨hw, List.forall_mem_cons.2 ⟨hc, hws⟩⟩
  have hslash' := hdot (by decide) hslash
  have hback' := hdot (by decide) hback
  refine ⟨?_, ?_, ?_⟩
  · show p.components = q.components
    rw [components_below hslash, components_below hslash', List.filterMap_cons,
      List.filterMap_cons, List.filterMap_cons_none rfl]
  · rw [isLintable_below hslash, Bool.not_eq_false', ignores_rowOf_iff hall (by simp)
      (notMem_below hback), fields_below hslash]
    exact ⟨[[]], ["x.js".toList], by simp, by simp, by simp⟩
  · rw [isLintable_below hslash', Bool.not_eq_true', Bool.eq_false_iff, Ne,
      ignores_rowOf_iff hall (by simp) (notMem_below hback'), fields_below hslash']
    -- in front of the row there is room for one field or two, and a dot stands behind both
    rintro ⟨as, bs, hrow, has, hbs⟩
    have hlength := congrArg List.length hrow
    have hbs' : 0 < bs.length := List.length_pos_iff.2 hbs
    simp only [List.length_cons, List.length_append, List.length_nil] at hlength
    obtain ⟨v, ws', rfl⟩ := List.exists_cons_of_ne_nil hne
    match as, has with
    | [_], _ =>
      simp only [List.cons_append, List.nil_append, List.cons.injEq] at hrow
      exact (hws v (List.mem_cons_self ..)).notDot hrow.2.2.1.symm
    | [_, _], _ =>
      simp only [List.cons_append, List.nil_append, List.cons.injEq] at hrow
      exact hw.notDot hrow.2.2.1.symm
    | _ :: _ :: _ :: as, _ =>
      simp only [List.length_cons] at hlength
      omega

end Depends

end FileFilter
end LintHub
