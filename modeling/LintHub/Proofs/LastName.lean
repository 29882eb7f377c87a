import LintHub.Proofs.FileFilter
import LintHub.Proofs.Text.Scanning

/-!
# The last name of a path

Which linter handles a file, and whether the file is minified, is read off the last name in the
text of its path: separators behind that name do not count, nor do single dots between them
(`Path.EndsIn`). A name splits at its last dot, if something is in front of it (`Splits`), and
what is in front may split once more.

* `Path.fileName?_eq_some_iff`: the last component of a path is a name just if the text ends in it.
* `Kind.ofPath_eq_some_iff`, `Path.EndsIn.isMinified_iff`: what is read off that name.
* `FileFilter.judged_by_last_name`: so nothing else in the path matters.
-/

namespace LintHub

open Text

/-- Text that names nothing where it stands behind a name: separators, and single dots between
them. -/
inductive Inert : List Char → Prop
  | nil : Inert []
  | separator {cs : List Char} (rest : Inert cs) : Inert ('/' :: cs)
  | dot {cs : List Char} (rest : Inert cs) : Inert ('/' :: '.' :: cs)

/-- A text that names an entry of a directory. -/
structure NamesEntry (s : String) : Prop where
  nonempty : s ≠ ""
  notDot : s ≠ "."
  notDots : s ≠ ".."
  noSeparator : '/' ∉ s.toList

theorem NamesEntry.isName {s : String} (h : NamesEntry s) : FileTree.IsName s := by
  refine ⟨h.noSeparator, ?_⟩
  have hne (x : String) (hx : s ≠ x) : s.toList ≠ x.toList := mt String.toList_inj.1 hx
  unfold FileTree.Move.ofPiece
  split
  · exact absurd ‹_› (hne "" h.nonempty)
  · exact absurd ‹_› (hne "." h.notDot)
  · exact absurd ‹_› (hne ".." h.notDots)
  · rw [String.ofList_toList]

/-- A name is cut at its last dot, and something is in front of that. -/
structure Splits (s b e : String) : Prop where
  eq : s = b ++ "." ++ e
  front : b ≠ ""
  last : '.' ∉ e.toList

namespace Path

variable {p q : Path} {s b e : String}

/-- The text of a path ends in a name. -/
structure EndsIn (p : Path) (s : String) : Prop where
  name : NamesEntry s
  text : ∃ front back, p.chars = front ++ s.toList ++ back ∧
    (front = [] ∨ front.getLast? = some '/') ∧ Inert back

/-- Pieces that name nothing, each with a separator in front of it. -/
theorem inert_joinFields {gs : List (List Char)} (h : ∀ g ∈ gs, Component.ofPiece g = none) :
    Inert (joinFields '/' ([] :: gs)) := by
  induction gs with
  | nil => exact .nil
  | cons g gs ih =>
    obtain ⟨hg, hgs⟩ := List.forall_mem_cons.1 h
    have hrest := ih hgs
    rw [joinFields_cons '/' _ (List.cons_ne_nil _ _), List.nil_append]
    rcases Component.ofPiece_eq_none_iff.1 hg with rfl | rfl
    · exact .separator hrest
    · cases gs with
      | nil => exact .dot .nil
      | cons g' gs => exact .dot hrest

theorem Inert.fields {back : List Char} (h : Inert back) :
    ∃ gs, fields '/' back = [] :: gs ∧ ∀ g ∈ gs, Component.ofPiece g = none := by
  induction h with
  | nil => exact ⟨[], rfl, by simp⟩
  | @separator cs _ ih =>
    obtain ⟨gs, hcs, hgs⟩ := ih
    refine ⟨[] :: gs, by rw [Text.fields, if_pos rfl, hcs], ?_⟩
    exact List.forall_mem_cons.2 ⟨rfl, hgs⟩
  | @dot cs _ ih =>
    obtain ⟨gs, hcs, hgs⟩ := ih
    have hdot : Text.fields '/' ('.' :: cs) = ['.'] :: gs := by
      rw [Text.fields, if_neg (by decide), hcs]
    refine ⟨['.'] :: gs, by rw [Text.fields, if_pos rfl, hdot], ?_⟩
    exact List.forall_mem_cons.2 ⟨rfl, hgs⟩

/-- Any piece is a name but three. -/
theorem Component.ofPiece_eq_name_iff {f : List Char} :
    Component.ofPiece f = some (.name s) ↔ f = s.toList ∧ s ≠ "" ∧ s ≠ "." ∧ s ≠ ".." := by
  have hne (x : String) : s ≠ x ↔ s.toList ≠ x.toList := String.toList_inj.not.symm
  rw [hne "", hne ".", hne ".."]
  unfold Component.ofPiece
  constructor
  · intro h
    split at h
    · cases h
    · cases h
    · cases h
    · rename_i hempty hdot hdots
      cases h
      rw [String.toList_ofList]
      exact ⟨rfl, hempty, hdot, hdots⟩
  · rintro ⟨rfl, hempty, hdot, hdots⟩
    split
    · exact absurd ‹_› hempty
    · exact absurd ‹_› hdot
    · exact absurd ‹_› hdots
    · rw [String.ofList_toList]

/-- The components behind a leading separator or dot are those of the pieces. -/
theorem getLast?_components_eq_name_iff :
    p.components.getLast? = some (.name s) ↔
      ((fields '/' p.chars).filterMap Component.ofPiece).getLast? = some (.name s) := by
  have hfront (c : Component) (hc : c ≠ .name s) (cs : List Component) :
      (c :: cs).getLast? = some (.name s) ↔ cs.getLast? = some (.name s) := by
    cases cs with
    | nil => simp [hc]
    | cons d ds => rw [List.getLast?_cons_cons]
  unfold components
  simp only
  split
  · exact hfront .root nofun _
  · split
    · rename_i rest hpieces
      rw [hpieces, hfront .here nofun, List.filterMap_cons_none rfl]
    · exact Iff.rfl

theorem fileName?_eq_iff_components :
    p.fileName? = some s ↔ p.components.getLast? = some (.name s) := by
  unfold fileName?
  split
  · rename_i s' hs'
    simp [hs']
  · rename_i hother
    simp only [reduceCtorEq, false_iff]
    exact hother s

/-- The last piece that names anything is the last component. -/
theorem fileName?_eq_iff_fields :
    p.fileName? = some s ↔ ∃ init gs, fields '/' p.chars = init ++ s.toList :: gs ∧
      Component.ofPiece s.toList = some (.name s) ∧ ∀ g ∈ gs, Component.ofPiece g = none := by
  rw [fileName?_eq_iff_components, getLast?_components_eq_name_iff, List.getLast?_filterMap,
    List.findSome?_eq_some_iff]
  constructor
  · rintro ⟨gs, f, init, hpieces, hf, hgs⟩
    obtain ⟨rfl, -⟩ := Component.ofPiece_eq_name_iff.1 hf
    refine ⟨init.reverse, gs.reverse, ?_, hf, fun g hg => hgs g (List.mem_reverse.1 hg)⟩
    have hback := congrArg List.reverse hpieces
    simpa using hback
  · rintro ⟨init, gs, hpieces, hf, hgs⟩
    refine ⟨gs.reverse, s.toList, init.reverse, by simp [hpieces], hf, fun g hg => ?_⟩
    exact hgs g (List.mem_reverse.1 hg)

/-- **The last component is a name** just if the text ends in that name. -/
theorem fileName?_eq_some_iff : p.fileName? = some s ↔ p.EndsIn s := by
  rw [fileName?_eq_iff_fields]
  constructor
  · rintro ⟨init, gs, hpieces, hs, hgs⟩
    obtain ⟨-, hempty, hdot, hdots⟩ := Component.ofPiece_eq_name_iff.1 hs
    have hslash : '/' ∉ s.toList :=
      not_mem_of_mem_fields (hpieces ▸ List.mem_append_right init (List.mem_cons_self ..))
    have hbehind : joinFields '/' (s.toList :: gs) = s.toList ++ joinFields '/' ([] :: gs) := by
      cases gs with
      | nil => simp [joinFields]
      | cons g gs => rfl
    refine ⟨⟨hempty, hdot, hdots, hslash⟩, ?_⟩
    have hchars := joinFields_fields '/' p.chars
    rw [hpieces] at hchars
    by_cases hinit : init = []
    · refine ⟨[], _, ?_, .inl rfl, inert_joinFields hgs⟩
      rw [← hchars, hinit, List.nil_append, hbehind, List.nil_append]
    · refine ⟨joinFields '/' init ++ ['/'], _, ?_, .inr (by simp), inert_joinFields hgs⟩
      rw [← hchars, joinFields_append hinit (List.cons_ne_nil _ _), hbehind]
      simp
  · rintro ⟨hname, front, back, hchars, hfront, hback⟩
    obtain ⟨gs, hgs, hinert⟩ := Inert.fields hback
    obtain ⟨init, hinit⟩ : ∃ init, fields '/' front = init ++ [[]] := by
      rcases hfront with rfl | hfront
      · exact ⟨[], rfl⟩
      · obtain ⟨cs, rfl⟩ := List.getLast?_eq_some_iff.1 hfront
        exact ⟨fields '/' cs, fields_append_sep '/' cs []⟩
    have hnamed := fields_append hinit (fields_of_not_mem hname.noSeparator)
    refine ⟨init, gs, ?_, ?_, hinert⟩
    · rw [hchars, fields_append hnamed hgs]
      simp
    · exact Component.ofPiece_eq_name_iff.2 ⟨rfl, hname.nonempty, hname.notDot, hname.notDots⟩

theorem isAbsolute_joinText (d : Path) (h : NamesEntry s) :
    (d.joinText s).isAbsolute = d.isAbsolute :=
  (FileTree.moves_joinText d h.isName).1

/-- A path ends in the name that is put behind it. -/
theorem endsIn_joinText (d : Path) (h : NamesEntry s) : (d.joinText s).EndsIn s := by
  unfold joinText join
  rw [h.isName.not_isAbsolute, if_neg Bool.false_ne_true]
  split
  · exact ⟨h, [], [], by simp [chars], .inl rfl, .nil⟩
  · rename_i hlast
    exact ⟨h, d.chars, [], by rw [chars_ofChars, List.append_nil]; rfl, .inr hlast, .nil⟩
  · refine ⟨h, d.chars ++ ['/'], [], ?_, .inr (by simp), .nil⟩
    rw [chars_ofChars, List.append_nil, List.append_assoc]
    rfl

theorem splitExtension_eq (h : Splits s b e) :
    splitExtension s.toList = (b.toList, some e.toList) := by
  refine splitExtension_eq_iff.2 ⟨?_, fun hb => h.front (String.toList_inj.1 hb), h.last⟩
  rw [h.eq]
  simp

theorem exists_splits (h : (splitExtension s.toList).2 = some e.toList) : ∃ b, Splits s b e := by
  obtain ⟨heq, hf, hx⟩ := splitExtension_eq_iff.1 (Prod.ext rfl h :
    splitExtension s.toList = ((splitExtension s.toList).1, some e.toList))
  refine ⟨.ofList (splitExtension s.toList).1, ?_, fun hb => hf ?_, hx⟩
  · rw [← String.toList_inj]
    simpa using heq
  · rw [← String.toList_ofList (l := (splitExtension s.toList).1), hb]
    rfl

theorem EndsIn.stem?_eq (h : p.EndsIn s) (hs : Splits s b e) : p.stem? = some b := by
  unfold stem?
  rw [fileName?_eq_some_iff.2 h, Option.map_some, splitExtension_eq hs, String.ofList_toList]

theorem EndsIn.extension?_eq_some_iff (h : p.EndsIn s) :
    p.extension? = some e ↔ ∃ b, Splits s b e := by
  unfold extension?
  rw [fileName?_eq_some_iff.2 h, Option.bind_some, Option.map_eq_some_iff]
  constructor
  · rintro ⟨x, hx, rfl⟩
    exact exists_splits (by rw [hx, String.toList_ofList])
  · rintro ⟨b, hs⟩
    exact ⟨e.toList, by rw [splitExtension_eq hs], String.ofList_toList⟩

/-- Without a separator a path is its last name. -/
theorem endsIn_iff_of_noSeparator (h : '/' ∉ b.toList) : EndsIn ⟨b⟩ s ↔ NamesEntry s ∧ s = b := by
  constructor
  · rintro ⟨hname, front, back, hchars, hfront, hback⟩
    have hslash (cs : List Char) (hcs : cs ⊆ b.toList) : '/' ∉ cs := fun hmem => h (hcs hmem)
    have hsub : front ⊆ b.toList ∧ back ⊆ b.toList := by
      have hb : b.toList = front ++ s.toList ++ back := hchars
      rw [hb]
      exact ⟨by simp, by simp⟩
    obtain rfl : front = [] := hfront.resolve_right fun hlast =>
      hslash front hsub.1 (List.mem_of_getLast? hlast)
    obtain rfl : back = [] := by
      cases hback with
      | nil => rfl
      | separator => exact absurd (List.mem_cons_self ..) (hslash _ hsub.2)
      | dot => exact absurd (List.mem_cons_self ..) (hslash _ hsub.2)
    refine ⟨hname, String.toList_inj.1 ?_⟩
    rw [List.nil_append, List.append_nil] at hchars
    exact hchars.symm
  · rintro ⟨hname, rfl⟩
    exact ⟨hname, [], [], by simp [chars], .inl rfl, .nil⟩

/-- **A file is minified** if what is in front of its last dot splits once more, into something
and `min` in any case. -/
theorem EndsIn.isMinified_iff (h : p.EndsIn s) (hs : Splits s b e) :
    p.isMinified = true ↔ ∃ c m, Splits b c m ∧ Kind.lower m = "min" := by
  have hb : '/' ∉ b.toList := fun hmem => h.name.noSeparator (by simp [hs.eq, hmem])
  have hmin (m : String) : sameWord m.toList "min".toList = true ↔ Kind.lower m = "min" := by
    have hword : "min".toList.map Char.toLower = "min".toList := by decide
    rw [sameWord_iff, hword, ← String.toList_inj]
    simp [Kind.lower]
  unfold isMinified
  rw [h.stem?_eq hs, Option.bind_some]
  constructor
  · intro hminified
    split at hminified
    · rename_i m hm
      cases hname : fileName? ⟨b⟩ with
      | none =>
        unfold extension? at hm
        rw [hname] at hm
        cases hm
      | some s' =>
        have hends := fileName?_eq_some_iff.1 hname
        obtain ⟨-, rfl⟩ := (endsIn_iff_of_noSeparator hb).1 hends
        obtain ⟨c, hc⟩ := hends.extension?_eq_some_iff.1 hm
        exact ⟨c, m, hc, (hmin m).1 hminified⟩
    · cases hminified
  · rintro ⟨c, m, hc, hm⟩
    have hlong : 5 ≤ b.length := by
      have hlength := congrArg String.length hm
      have hpos : c.length ≠ 0 := fun hc0 => hc.front (String.length_eq_zero_iff.1 hc0)
      rw [Kind.lower, String.length_ofList, List.length_map, String.length_toList] at hlength
      rw [hc.eq, String.length_append, String.length_append, hlength]
      have hdot : ".".length = 1 ∧ "min".length = 3 := by decide
      omega
    -- so it is neither of the two that name no entry
    have hname : NamesEntry b := by
      refine ⟨hs.front, ?_, ?_, hb⟩
      · rintro rfl
        exact absurd hlong (by decide)
      · rintro rfl
        exact absurd hlong (by decide)
    have hends : EndsIn ⟨b⟩ b := (endsIn_iff_of_noSeparator hb).2 ⟨hname, rfl⟩
    rw [hends.extension?_eq_some_iff.2 ⟨c, hc⟩]
    exact (hmin m).2 hm

end Path

namespace Kind

variable {k k' : Kind} {p : Path} {s e : String}

/-- No extension is handled by two linters. -/
theorem eq_of_mem_extensions (h : e ∈ k.extensions) (h' : e ∈ k'.extensions) : k = k' := by
  have hapart : ∀ k ∈ all, ∀ k' ∈ all, ∀ x ∈ k.extensions, x ∈ k'.extensions → k = k' := by decide
  exact hapart k (mem_all k) k' (mem_all k') e h h'

theorem ofExtension_eq_some_iff : ofExtension e = some k ↔ lower e ∈ k.extensions := by
  unfold ofExtension
  constructor
  · intro h
    have hmem := List.find?_some h
    exact List.contains_iff_mem.1 hmem
  · intro h
    have hfound : (all.find? fun k => k.extensions.contains (lower e)).isSome = true :=
      List.find?_isSome.2 ⟨k, mem_all k, List.contains_iff_mem.2 h⟩
    obtain ⟨k', hk'⟩ := Option.isSome_iff_exists.1 hfound
    have hmem := List.find?_some hk'
    rw [hk', eq_of_mem_extensions h (List.contains_iff_mem.1 hmem)]

/-- **A linter handles a file** whose last name splits at one of its extensions, in any case. -/
theorem ofPath_eq_some_iff (h : p.EndsIn s) :
    ofPath p = some k ↔ ∃ b e, Splits s b e ∧ lower e ∈ k.extensions := by
  unfold ofPath
  rw [Option.bind_eq_some_iff]
  constructor
  · rintro ⟨e, he, hk⟩
    obtain ⟨b, hs⟩ := h.extension?_eq_some_iff.1 he
    exact ⟨b, e, hs, ofExtension_eq_some_iff.1 hk⟩
  · rintro ⟨b, e, hs, hk⟩
    exact ⟨e, h.extension?_eq_some_iff.2 ⟨b, hs⟩, ofExtension_eq_some_iff.2 hk⟩

end Kind

namespace FileFilter

open LintHub.Path

variable {p q : Path} {s s' b e e' : String}

/-- Two paths are handled by the same linter, and filters without patterns judge them alike. -/
def JudgedAlike (p q : Path) : Prop :=
  Kind.ofPath p = Kind.ofPath q ∧ ∀ ignoreMinified,
    (ofPatterns [] ignoreMinified).isLintable p = (ofPatterns [] ignoreMinified).isLintable q

theorem JudgedAlike.of_eq (hpath : Kind.ofPath p = Kind.ofPath q)
    (hmin : p.isMinified = q.isMinified) (habs : p.isAbsolute = q.isAbsolute) : JudgedAlike p q :=
  ⟨hpath, fun ignoreMinified => by rw [isLintable_bare, isLintable_bare, hpath, hmin, habs]⟩

theorem JudgedAlike.of_same (h : p.Same q) : JudgedAlike p q :=
  .of_eq (Kind.ofPath_eq_of_same h) (isMinified_of_same h) (isAbsolute_of_same h)

/-- The last name says it all. -/
theorem JudgedAlike.of_name (hp : p.EndsIn s) (hq : q.EndsIn s)
    (habs : p.isAbsolute = q.isAbsolute) : JudgedAlike p q := by
  have hname : p.fileName? = q.fileName? := by
    rw [fileName?_eq_some_iff.2 hp, fileName?_eq_some_iff.2 hq]
  refine .of_eq ?_ ?_ habs
  · unfold Kind.ofPath extension?
    rw [hname]
  · unfold isMinified stem?
    rw [hname]

/-- And of its extension the case does not matter. -/
theorem JudgedAlike.of_splits (hp : p.EndsIn s) (hq : q.EndsIn s') (hs : Splits s b e)
    (hs' : Splits s' b e') (he : Kind.lower e = Kind.lower e')
    (habs : p.isAbsolute = q.isAbsolute) : JudgedAlike p q := by
  refine .of_eq ?_ ?_ habs
  · unfold Kind.ofPath
    rw [hp.extension?_eq_some_iff.2 ⟨b, hs⟩, hq.extension?_eq_some_iff.2 ⟨b, hs'⟩]
    simp only [Option.bind_some, Kind.ofExtension, he]
  · unfold isMinified
    rw [hp.stem?_eq hs, hq.stem?_eq hs']

/-- **Only the last name of a path matters.** A path whose last component is no name is handled
by no linter. One that ends in a name is handled by the one linter that has its extension, in any
case; and such a path is left out by a filter for minified files alone just if it is absolute and
what is in front of the extension splits into something and `min`. So paths are judged alike that
are the same, that end in the same name (in whatever directories), or in names whose extensions
differ in case. -/
theorem judged_by_last_name (p : Path) :
    (∀ s, p.EndsIn s ↔ p.components.getLast? = some (.name s)) ∧
    ((∀ s, ¬ p.EndsIn s) → Kind.ofPath p = none) ∧
    (∀ s, p.EndsIn s →
      (∀ k : Kind, Kind.ofPath p = some k ↔ ∃ b e, Splits s b e ∧ Kind.lower e ∈ k.extensions) ∧
      ∀ b e (k : Kind), Splits s b e → Kind.lower e ∈ k.extensions →
        (∀ k' : Kind, Kind.lower e ∈ k'.extensions → k' = k) ∧
        ((ofPatterns [] true).isLintable p = false ∧ (ofPatterns [] false).isLintable p = true ↔
          p.isAbsolute = true ∧ ∃ c m, Splits b c m ∧ Kind.lower m = "min")) ∧
    (∀ q, p.Same q → JudgedAlike p q) ∧
    (∀ q s, p.EndsIn s → q.EndsIn s → p.isAbsolute = q.isAbsolute → JudgedAlike p q) ∧
    (∀ (d d' : Path) s, NamesEntry s → d.isAbsolute = true → d'.isAbsolute = true →
      p = d.joinText s → JudgedAlike p (d'.joinText s)) ∧
    ∀ q s s' b e e', p.EndsIn s → q.EndsIn s' → Splits s b e → Splits s' b e' →
      Kind.lower e = Kind.lower e' → p.isAbsolute = q.isAbsolute → JudgedAlike p q := by
  refine ⟨fun s => ?_, fun hnone => ?_, fun s hp => ⟨fun k => Kind.ofPath_eq_some_iff hp, ?_⟩,
    fun q => .of_same, fun q s => .of_name, ?_, fun q s s' b e e' => .of_splits⟩
  · rw [← fileName?_eq_some_iff, fileName?_eq_iff_components]
  · have hname : p.fileName? = none :=
      Option.eq_none_iff_forall_ne_some.2 fun s hs => hnone s (fileName?_eq_some_iff.1 hs)
    unfold Kind.ofPath extension?
    rw [hname]
    rfl
  · intro b e k hs hk
    have hpath := (Kind.ofPath_eq_some_iff hp).2 ⟨b, e, hs, hk⟩
    refine ⟨fun k' hk' => Kind.eq_of_mem_extensions hk' hk, ?_⟩
    rw [isLintable_bare, isLintable_bare, hpath, ← hp.isMinified_iff hs, Option.isSome_some]
    cases p.isAbsolute <;> cases p.isMinified <;> decide
  · rintro d d' s hname hd hd' rfl
    refine .of_name (endsIn_joinText d hname) (endsIn_joinText d' hname) ?_
    rw [isAbsolute_joinText d hname, isAbsolute_joinText d' hname, hd, hd']

/-- A minified script, with inert text behind its name, and the same name in another directory
with its extension in another case. -/
theorem judged_by_last_name_of_trailing :
    let p : Path := ⟨"/p/x.MIN.Js/./"⟩
    let q : Path := ⟨"/q/../x.MIN.jS"⟩
    p.EndsIn "x.MIN.Js" ∧ Kind.ofPath p = some .esLint ∧
      (ofPatterns [] true).isLintable p = false ∧ (ofPatterns [] false).isLintable p = true ∧
      JudgedAlike p q := by
  intro p q
  have hp : p.EndsIn "x.MIN.Js" := ⟨⟨by decide, by decide, by decide, by decide⟩, "/p/".toList,
    "/./".toList, by decide, .inr (by decide), .dot (.separator .nil)⟩
  have hq : q.EndsIn "x.MIN.jS" := ⟨⟨by decide, by decide, by decide, by decide⟩,
    "/q/../".toList, [], by decide, .inr (by decide), .nil⟩
  have hs : Splits "x.MIN.Js" "x.MIN" "Js" := ⟨by decide, by decide, by decide⟩
  have hs' : Splits "x.MIN.jS" "x.MIN" "jS" := ⟨by decide, by decide, by decide⟩
  have hmin : Splits "x.MIN" "x" "MIN" := ⟨by decide, by decide, by decide⟩
  have hjs : Kind.lower "Js" ∈ Kind.esLint.extensions := by decide
  obtain ⟨-, -, hname, -, -, -, hcase⟩ := judged_by_last_name p
  obtain ⟨hpath, hsplit⟩ := hname "x.MIN.Js" hp
  obtain ⟨-, hminified⟩ := hsplit "x.MIN" "Js" .esLint hs hjs
  obtain ⟨hleft, hkept⟩ := hminified.2 ⟨by decide, "x", "MIN", hmin, by decide⟩
  exact ⟨hp, (hpath .esLint).2 ⟨"x.MIN", "Js", hs, hjs⟩, hleft, hkept,
    hcase q "x.MIN.Js" "x.MIN.jS" "x.MIN" "Js" "jS" hp hq hs hs' (by decide) (by decide)⟩

end FileFilter
end LintHub
