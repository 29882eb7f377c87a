import LintHub.FileFilter
import LintHub.Proofs.Text.Fields
import Mathlib.Data.List.TakeWhile

/-!
# The names in a path

What a path names are its components, and in its text they stand between separators, with pieces
between them that name nothing. A backslash counts as a separator where patterns are laid on a
path, so a component may be several names. The same names are found in every spelling.

* `Path.exists_field_iff`: the names of a path are the fields of its text that name something.
* `Kind.exists_last_field`: how the text of a path ends that a linter handles.
-/

namespace LintHub

open Text

theorem withSlashes_eq_self {cs : List Char} (h : '\\' ∉ cs) : withSlashes cs = cs := by
  have hsame : ∀ c ∈ cs, (if c = '\\' then '/' else c) = c := fun c hc =>
    if_neg fun heq : c = '\\' => h (heq ▸ hc)
  rw [withSlashes, List.map_congr_left hsame, List.map_id']

theorem notMem_withSlashes (cs : List Char) : '\\' ∉ withSlashes cs := by
  unfold withSlashes
  rw [List.mem_map]
  rintro ⟨c, -, hc⟩
  split at hc
  · cases hc
  · rename_i hne
    exact hne hc

theorem withSlashes_append (cs ds : List Char) :
    withSlashes (cs ++ ds) = withSlashes cs ++ withSlashes ds := List.map_append

/-- A backslash cuts a field into smaller ones. -/
theorem fields_withSlashes (cs : List Char) : fields '/' (withSlashes cs) =
    (fields '/' cs).flatMap fun s => fields '/' (withSlashes s) := by
  induction cs with
  | nil => rfl
  | cons c cs ih =>
    obtain ⟨f, fs, hfs⟩ := List.exists_cons_of_ne_nil (fields_ne_nil '/' cs)
    rw [hfs, List.flatMap_cons] at ih
    have hcons (ds : List Char) : withSlashes (c :: ds) = withSlashes [c] ++ withSlashes ds :=
      withSlashes_append [c] ds
    by_cases hc : c = '/'
    · subst hc
      have hfirst (ds : List Char) : fields '/' (withSlashes ('/' :: ds)) =
          [] :: fields '/' (withSlashes ds) := rfl
      have hcut : fields '/' ('/' :: cs) = [] :: fields '/' cs := rfl
      rw [hfirst, ih, hcut, hfs]
      rfl
    · have hcut : fields '/' (c :: cs) = (c :: f) :: fs := by rw [fields, if_neg hc, hfs]
      -- one character more in front of the first field, or one field more
      obtain ⟨as, g, hg⟩ := (List.eq_nil_or_concat' (fields '/' (withSlashes [c]))).resolve_left
        (fields_ne_nil '/' _)
      obtain ⟨g', bs, hg'⟩ := List.exists_cons_of_ne_nil (fields_ne_nil '/' (withSlashes f))
      have hwhole : fields '/' (withSlashes cs) =
          g' :: (bs ++ fs.flatMap fun s => fields '/' (withSlashes s)) := by rw [ih, hg']; rfl
      rw [hcut, List.flatMap_cons, hcons cs, hcons f, fields_append hg hwhole,
        fields_append hg hg', List.append_assoc, List.cons_append]

namespace Path

variable {p q : Path}

/-- The names that a component stands for; a backslash in a name counts as a separator. -/
def Component.words : Component → List (List Char)
  | .root => []
  | .here => []
  | .up => [['.', '.']]
  | .name s => fields '/' (withSlashes s.toList)

/-- The names in a path. -/
def words (p : Path) : List (List Char) := p.components.flatMap Component.words

theorem Component.ofPiece_eq_none_iff {s : List Char} :
    Component.ofPiece s = none ↔ s = [] ∨ s = ['.'] := by
  unfold Component.ofPiece
  split <;> simp_all

theorem Component.words_of_ofPiece {s : List Char} {c : Component}
    (h : Component.ofPiece s = some c) : c.words = fields '/' (withSlashes s) := by
  unfold Component.ofPiece at h
  split at h
  · cases h
  · cases h
  · cases h
    rfl
  · cases h
    rw [words, String.toList_ofList]

theorem components_of_isAbsolute (h : p.isAbsolute = true) :
    p.components = .root :: (fields '/' p.chars).filterMap Component.ofPiece := by
  unfold components
  simp only [h, if_true]

/-- An absolute path begins with a separator. -/
theorem head?_withSlashes (h : p.isAbsolute = true) :
    (withSlashes p.chars).head? = some '/' := by
  unfold isAbsolute at h
  rw [withSlashes, List.head?_map, beq_iff_eq.1 h]
  rfl

/-- So there is nothing in front of its first separator. -/
theorem exists_fields_cons (h : p.isAbsolute = true) :
    ∃ fs, fields '/' (withSlashes p.chars) = [] :: fs := by
  unfold isAbsolute at h
  obtain ⟨cs, hcs⟩ := List.head?_eq_some_iff.1 (beq_iff_eq.1 h)
  exact ⟨_, by rw [hcs]; rfl⟩

/-- So a field that is not empty is not the first. -/
theorem append_of_mem_fields {f : List Char} (h : p.isAbsolute = true)
    (hf : f ∈ fields '/' (withSlashes p.chars)) (hne : f ≠ []) :
    ∃ as bs, fields '/' (withSlashes p.chars) = as ++ f :: bs ∧ as ≠ [] := by
  obtain ⟨as, bs, hfields⟩ := List.append_of_mem hf
  refine ⟨as, bs, hfields, ?_⟩
  rintro rfl
  obtain ⟨fs, hfirst⟩ := exists_fields_cons h
  exact hne (List.cons.inj (hfirst.symm.trans hfields)).1.symm

/-- **The names are found in the text**, and between them there is nothing else. -/
theorem exists_field_iff {P : List Char → Prop} (habs : p.isAbsolute = true) (hempty : ¬ P [])
    (hdot : ¬ P ['.']) :
    (∃ f ∈ fields '/' (withSlashes p.chars), P f) ↔ ∃ w ∈ p.words, P w := by
  unfold words
  rw [fields_withSlashes, components_of_isAbsolute habs]
  constructor
  · rintro ⟨f, hf, hP⟩
    obtain ⟨s, hs, hfs⟩ := List.mem_flatMap.1 hf
    cases hc : Component.ofPiece s with
    | none =>
      rcases Component.ofPiece_eq_none_iff.1 hc with rfl | rfl
      · exact absurd (List.mem_singleton.1 hfs ▸ hP) hempty
      · exact absurd (List.mem_singleton.1 hfs ▸ hP) hdot
    | some c =>
      refine ⟨f, List.mem_flatMap.2 ⟨c, ?_, ?_⟩, hP⟩
      · exact List.mem_cons_of_mem _ (List.mem_filterMap.2 ⟨s, hs, hc⟩)
      · rwa [Component.words_of_ofPiece hc]
  · rintro ⟨w, hw, hP⟩
    obtain ⟨c, hc, hwc⟩ := List.mem_flatMap.1 hw
    rcases List.mem_cons.1 hc with rfl | hc
    · cases hwc
    · obtain ⟨s, hs, hsc⟩ := List.mem_filterMap.1 hc
      rw [Component.words_of_ofPiece hsc] at hwc
      exact ⟨w, List.mem_flatMap.2 ⟨s, hs, hwc⟩, hP⟩

theorem isAbsolute_iff : p.isAbsolute = true ↔ .root ∈ p.components := by
  have hpieces (pieces : List (List Char)) : .root ∉ pieces.filterMap Component.ofPiece := by
    intro hmem
    obtain ⟨s, -, hs⟩ := List.mem_filterMap.1 hmem
    unfold Component.ofPiece at hs
    split at hs <;> cases hs
  cases habs : p.isAbsolute with
  | true => simp [components_of_isAbsolute habs]
  | false =>
    refine iff_of_false Bool.false_ne_true fun hroot => ?_
    unfold components at hroot
    simp only [habs, Bool.false_eq_true, if_false] at hroot
    split at hroot
    · rcases List.mem_cons.1 hroot with hhere | hroot
      · cases hhere
      · exact hpieces _ hroot
    · exact hpieces _ hroot

theorem isAbsolute_of_same (h : p.Same q) : p.isAbsolute = q.isAbsolute := by
  rw [Bool.eq_iff_iff, isAbsolute_iff, isAbsolute_iff, show p.components = q.components from h]

theorem words_of_same (h : p.Same q) : p.words = q.words := by
  unfold words
  rw [show p.components = q.components from h]

theorem fileName?_of_same (h : p.Same q) : p.fileName? = q.fileName? := by
  unfold fileName?
  rw [show p.components = q.components from h]

theorem isMinified_of_same (h : p.Same q) : p.isMinified = q.isMinified := by
  unfold isMinified stem?
  rw [fileName?_of_same h]

/-- **A name splits at its last dot.** -/
theorem splitExtension_eq_iff {n f x : List Char} :
    splitExtension n = (f, some x) ↔ n = f ++ '.' :: x ∧ f ≠ [] ∧ '.' ∉ x := by
  constructor
  · intro h
    have hback := List.takeWhile_append_dropWhile (p := (· != '.')) (l := n.reverse)
    unfold splitExtension at h
    simp only at h
    split at h
    · cases h
    · cases h
    · rename_i c before hne hdrop
      have hdot : c = '.' := by
        have hhead := List.head_dropWhile_not (· != '.') (l := n.reverse) (by simp [hdrop])
        simpa [hdrop] using hhead
      obtain ⟨rfl, hx⟩ := Prod.mk.inj h
      obtain rfl := Option.some.inj hx
      have hn := congrArg List.reverse hback
      rw [hdrop, hdot, List.reverse_reverse] at hn
      refine ⟨hn.symm.trans (by simp), fun hf => ?_, fun hmem => ?_⟩
      · exact hne (List.reverse_eq_nil_iff.1 hf)
      · simpa using List.mem_takeWhile_imp (List.mem_reverse.1 hmem)
  · rintro ⟨rfl, hf, hx⟩
    have hback : (f ++ '.' :: x).reverse = x.reverse ++ '.' :: f.reverse := by simp
    have hfree : ∀ c ∈ x.reverse, (c != '.') = true := fun c hc => by
      rw [bne_iff_ne]
      rintro rfl
      exact hx (List.mem_reverse.1 hc)
    obtain ⟨c, before, hbefore⟩ := List.exists_cons_of_ne_nil (List.reverse_ne_nil_iff.2 hf)
    unfold splitExtension
    simp only
    rw [hback, List.dropWhile_append_of_pos hfree, List.takeWhile_append_of_pos hfree]
    simp [hbefore, ← List.reverse_eq_cons_iff.1 hbefore]

end Path

namespace Kind

/-- Same paths are handled by the same linter. -/
theorem ofPath_eq_of_same {p q : Path} (h : p.Same q) : ofPath p = ofPath q := by
  unfold ofPath Path.extension?
  rw [Path.fileName?_of_same h]

/-- No extension that a linter handles has a separator in it. -/
theorem notMem_of_ofExtension {e : List Char} (h : ofExtension (String.ofList e) ≠ none) :
    '/' ∉ e ∧ '\\' ∉ e := by
  obtain ⟨kind, hkind⟩ := Option.ne_none_iff_exists'.1 h
  have hmem := List.find?_some hkind
  have hfree : ∀ kind ∈ all, ∀ x ∈ kind.extensions, '/' ∉ x.toList ∧ '\\' ∉ x.toList := by decide
  have hx := hfree kind (List.mem_of_find?_eq_some hkind) _ (List.contains_iff_mem.1 hmem)
  simp only [lower, String.toList_ofList, List.mem_map, not_exists, not_and] at hx
  exact ⟨fun hc => hx.1 _ hc rfl, fun hc => hx.2 _ hc rfl⟩

/-- A name that no file can end in if a linter handles it. -/
def NoFile (x : List Char) : Prop :=
  ∀ f e, x = f ++ '.' :: e → ofExtension (String.ofList e) = none

theorem noFile_of_notMem {x : List Char} (h : '.' ∉ x) : NoFile x := by
  rintro f e rfl
  simp at h

/-- **The end of a path that is handled** is its extension, and there may be inert pieces behind
it. -/
theorem exists_last_field {p : Path} (habs : p.isAbsolute = true) (h : ofPath p ≠ none) :
    ∃ as g, fields '/' (withSlashes p.chars) = as ++ [g] ∧ (g = [] ∨ g = ['.'] ∨ ¬ NoFile g) := by
  obtain ⟨init, l, hpieces⟩ :=
    (List.eq_nil_or_concat' (fields '/' p.chars)).resolve_left (fields_ne_nil '/' p.chars)
  have hfields : fields '/' (withSlashes p.chars) =
      (init.flatMap fun s => fields '/' (withSlashes s)) ++ fields '/' (withSlashes l) := by
    rw [fields_withSlashes, hpieces]
    simp
  cases hl : Path.Component.ofPiece l with
  | none =>
    rcases Path.Component.ofPiece_eq_none_iff.1 hl with rfl | rfl
    · exact ⟨_, [], hfields, .inl rfl⟩
    · exact ⟨_, ['.'], hfields, .inr (.inl rfl)⟩
  | some c =>
    have hlast : p.components.getLast? = some c := by
      rw [Path.components_of_isAbsolute habs, hpieces, List.filterMap_append,
        List.filterMap_cons_some hl, ← List.cons_append]
      exact List.getLast?_concat
    -- the last component is the name of the file
    unfold ofPath Path.extension? Path.fileName? at h
    rw [hlast] at h
    cases c with
    | root => exact absurd rfl h
    | here => exact absurd rfl h
    | up => exact absurd rfl h
    | name s =>
      simp only [Option.bind_some] at h
      cases he : (Path.splitExtension s.toList).2 with
      | none =>
        rw [he] at h
        exact absurd rfl h
      | some e =>
        rw [he] at h
        simp only [Option.map_some, Option.bind_some] at h
        obtain ⟨b, hb⟩ : ∃ b, s.toList = b ++ '.' :: e :=
          ⟨_, (Path.splitExtension_eq_iff.1 (Prod.ext rfl he)).1⟩
        have hwords := Path.Component.words_of_ofPiece hl
        rw [Path.Component.words, hb, withSlashes_append] at hwords
        obtain ⟨hslash, hback⟩ := notMem_of_ofExtension h
        have hend : fields '/' (withSlashes ('.' :: e)) = ['.' :: e] := by
          rw [withSlashes_eq_self (by simp [hback]), fields_of_not_mem (by simp [hslash])]
        obtain ⟨as, f, hf⟩ := (List.eq_nil_or_concat' (fields '/' (withSlashes b))).resolve_left
          (fields_ne_nil '/' _)
        rw [fields_append hf hend] at hwords
        refine ⟨_, f ++ '.' :: e, by rw [hfields, ← hwords, List.append_assoc], .inr (.inr ?_)⟩
        exact fun hno => h (hno f e rfl)

end Kind

end LintHub
