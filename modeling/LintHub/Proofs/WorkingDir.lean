import Mathlib.Data.Set.Insert
import LintHub.Proofs.FileTree.Growth
import LintHub.Proofs.FileTree.Making
import LintHub.WorkingDir

/-!
# The nearest marked directory

A linter's working directory is searched from a path upwards, where "upwards" goes by the text:
`Path.climb` drops one component after another, which ends since the text gets shorter. The
first path with a marker is taken, whatever is marked behind it.

What is behind it may have been seen before, since a `..` leads up and its parent by the text
leads down again, and since a marker may be a link. So a marker that is put into a directory
above the result may change the result (`findWorkingDir_passed_above`), unless no path up to the
result looks there.

* `getElem?_ancestors`: the search goes through the whole sequence.
* `markedDir?_eq_some_iff`: it finds the first marked path.
* `findWorkingDir_nearest`: the result, and what it does not depend on.
-/

namespace LintHub

namespace Path

variable {p q start d : Path} {n : Nat} {P Q : Path → Prop}

/-- The path so many steps above, if there are so many. -/
def climb (p : Path) : Nat → Option Path
  | 0 => some p
  | n + 1 => (p.climb n).bind parent?

/-- The first step may be told apart as well as the last. -/
theorem climb_succ (p : Path) (n : Nat) : p.climb (n + 1) = p.parent?.bind fun q => q.climb n := by
  induction n with
  | zero => cases h : p.parent? <;> simp [climb, h]
  | succ n ih =>
    rw [climb, ih, Option.bind_assoc]
    rfl

/-- With every step the text gets shorter. -/
theorem length_climb (h : p.climb n = some q) : q.chars.length + n ≤ p.chars.length := by
  induction n generalizing q with
  | zero =>
    cases h
    exact Nat.le_refl _
  | succ n ih =>
    obtain ⟨r, hr, hparent⟩ := Option.bind_eq_some_iff.1 h
    have hlt := FileTree.length_parent_lt hparent
    have hle := ih hr
    omega

theorem getElem?_ancestorsWithin (h : p.chars.length ≤ n) (i : Nat) :
    (ancestorsWithin n p)[i]? = p.climb i := by
  induction n generalizing p i with
  | zero =>
    have hnone : p.parent? = none := by
      cases hparent : p.parent? with
      | none => rfl
      | some q =>
        have hlt := FileTree.length_parent_lt hparent
        omega
    cases i with
    | zero => rfl
    | succ i =>
      rw [climb_succ, hnone]
      rfl
  | succ n ih =>
    rw [ancestorsWithin]
    cases hparent : p.parent? with
    | none =>
      cases i with
      | zero => rfl
      | succ i =>
        rw [climb_succ, hparent]
        rfl
    | some q =>
      cases i with
      | zero => rfl
      | succ i =>
        have hlt := FileTree.length_parent_lt hparent
        rw [climb_succ, hparent]
        exact ih (by omega) i

/-- **The search leaves no path out**: the bound on it is no bound. -/
theorem getElem?_ancestors (p : Path) (i : Nat) : p.ancestors[i]? = p.climb i :=
  getElem?_ancestorsWithin (Nat.le_refl _) i

/-- **The way up ends.** There is a last path, and no more steps lead to it than there are
characters. -/
theorem climb_ends (p : Path) :
    ∃ n ≤ p.chars.length, ∀ m, (p.climb m).isSome = true ↔ m ≤ n := by
  have hsome (m : Nat) : (p.climb m).isSome = true ↔ m < p.ancestors.length := by
    rw [← getElem?_ancestors]
    simp
  have hpos := (hsome 0).1 rfl
  refine ⟨p.ancestors.length - 1, ?_, fun m => ?_⟩
  · obtain ⟨q, hq⟩ := Option.isSome_iff_exists.1 ((hsome (p.ancestors.length - 1)).2 (by omega))
    have hle := length_climb hq
    omega
  · rw [hsome]
    omega

/-- So many steps above a path is the first of which something holds. -/
structure Nearest (P : Path → Prop) (start : Path) (n : Nat) (d : Path) : Prop where
  climb : start.climb n = some d
  holds : P d
  first : ∀ m < n, ∀ q, start.climb m = some q → ¬ P q

theorem Nearest.congr (h : Nearest P start n d)
    (hsame : ∀ m ≤ n, ∀ q, start.climb m = some q → (Q q ↔ P q)) : Nearest Q start n d where
  climb := h.climb
  holds := (hsame n (Nat.le_refl n) d h.climb).2 h.holds
  first m hm q hq hQ := h.first m hm q hq ((hsame m hm.le q hq).1 hQ)

end Path

section Marked

open LintHub.Path FileTree

variable {t t' : FileTree} {start d q : Path} {marker : String} {n : Nat}

/-- The path joined with the marker leads to a file, links followed. -/
def CarriesMarker (t : FileTree) (marker : String) (d : Path) : Prop :=
  ∃ k content mode, t.find? true (d.joinText marker) = .ok (k, .file content mode)

theorem isMarked_iff : isMarked t marker d = true ↔ CarriesMarker t marker d := by
  unfold isMarked CarriesMarker
  rw [isFile_iff]
  simp only [find?_eq_ok_iff]

theorem mem_ancestors_iff : q ∈ start.ancestors ↔ ∃ m, start.climb m = some q := by
  simp only [List.mem_iff_getElem?, getElem?_ancestors]

theorem markedDir?_eq_some_iff :
    markedDir? t start marker = some d ↔ ∃ n, Nearest (CarriesMarker t marker) start n d := by
  unfold markedDir?
  rw [List.find?_eq_some_iff_getElem]
  constructor
  · rintro ⟨hmarked, n, hn, hd, hfirst⟩
    refine ⟨n, ?_, isMarked_iff.1 hmarked, fun m hm q hq hcarries => ?_⟩
    · rw [← getElem?_ancestors, List.getElem?_eq_getElem hn, hd]
    · rw [← getElem?_ancestors, List.getElem?_eq_some_iff] at hq
      obtain ⟨_, rfl⟩ := hq
      have hnot := hfirst m hm
      rw [isMarked_iff.2 hcarries] at hnot
      cases hnot
  · rintro ⟨n, hclimb, hholds, hfirst⟩
    rw [← getElem?_ancestors, List.getElem?_eq_some_iff] at hclimb
    obtain ⟨hn, hd⟩ := hclimb
    refine ⟨isMarked_iff.2 hholds, n, hn, hd, fun m hm => ?_⟩
    have hnot := hfirst m hm _ ((getElem?_ancestors start m).symm.trans
      (List.getElem?_eq_getElem (by omega)))
    rw [← isMarked_iff] at hnot
    simpa using hnot

theorem markedDir?_eq_none_iff :
    markedDir? t start marker = none ↔
      ∀ m q, start.climb m = some q → ¬ CarriesMarker t marker q := by
  unfold markedDir?
  rw [List.find?_eq_none]
  constructor
  · exact fun h m q hq hcarries => h q (mem_ancestors_iff.2 ⟨m, hq⟩) (isMarked_iff.2 hcarries)
  · intro h q hq hmarked
    obtain ⟨m, hm⟩ := mem_ancestors_iff.1 hq
    exact h m q hm (isMarked_iff.1 hmarked)

/-- The first marked path is the result, whatever the fallback. -/
theorem findWorkingDir_of_nearest (h : Nearest (CarriesMarker t marker) start n d)
    (fallback : Option Path) : findWorkingDir t start marker fallback = d := by
  unfold findWorkingDir
  rw [markedDir?_eq_some_iff.2 ⟨n, h⟩]

theorem findWorkingDir_of_none (h : ∀ m q, start.climb m = some q → ¬ CarriesMarker t marker q)
    (fallback : Option Path) : findWorkingDir t start marker fallback = fallback.getD start := by
  unfold findWorkingDir
  rw [markedDir?_eq_none_iff.2 h]

/-- Files have come or gone at some places, or have other contents, and nothing else has
changed. -/
structure FilesChanged (t t' : FileTree) (places : Set Place) : Prop where
  here : t'.here = t.here
  elsewhere : ∀ k ∉ places, t'.get? k = t.get? k
  before : ∀ k ∈ places, ∀ e, t.get? k = some e → ∃ content mode, e = .file content mode
  after : ∀ k ∈ places, ∀ e, t'.get? k = some e → ∃ content mode, e = .file content mode

/-- The path joined with the marker leads to this place, links followed, whether something is
there or not. -/
def LooksAt (t : FileTree) (marker : String) (d : Path) (k : Place) : Prop :=
  ∃ spot, t.locate true (d.joinText marker) = .ok spot ∧ spot.place = k

theorem carriesMarker_of_looksAt {k : Place} {content : Bytes} {mode : Nat}
    (h : LooksAt t marker d k) (hk : t.get? k = some (.file content mode)) :
    CarriesMarker t marker d := by
  obtain ⟨spot, hloc, rfl⟩ := h
  cases spot with
  | taken k e =>
    refine ⟨k, content, mode, find?_eq_ok_iff.2 ?_⟩
    rcases taken_of_locate hloc with ⟨-, hdir⟩ | hget
    · rcases hasDirectory_iff.1 hdir with rfl | hget
      · simp [Spot.place] at hk
      · exact absurd (hget.symm.trans hk) nofun
    · rw [hloc, ← Option.some.inj (hk.symm.trans hget)]
  | vacant dir s asDirectory =>
    exact absurd ((vacant_of_locate hloc).2.symm.trans hk) nofun

namespace FilesChanged

variable {places : Set Place}

theorem symm (h : FilesChanged t t' places) : FilesChanged t' t places :=
  ⟨h.here.symm, fun k hk => (h.elsewhere k hk).symm, h.after, h.before⟩

/-- A file is put where none was. -/
theorem put {k : Place} {content : Bytes} {mode : Nat}
    (hadmits : t.admits k (.file content mode) = true) (hnone : t.get? k = none) :
    FilesChanged t (t.put k (.file content mode)) {k} := by
  refine ⟨here_put .., fun l hl => ?_, fun l hl e he => ?_, fun l hl e he => ?_⟩
  · rw [get?_put hadmits, if_neg (mt Set.mem_singleton_iff.2 hl)]
  · rw [Set.mem_singleton_iff.1 hl, hnone] at he
    cases he
  · rw [Set.mem_singleton_iff.1 hl, get?_put hadmits, if_pos rfl] at he
    exact ⟨content, mode, (Option.some.inj he).symm⟩

theorem keepsWays (h : FilesChanged t t' places) : t.KeepsWays t' := by
  have hkeeps : ∀ k e, t.get? k = some e → (∀ content mode, e ≠ .file content mode) →
      t'.get? k = some e := by
    intro k e hget hfile
    by_cases hk : k ∈ places
    · obtain ⟨content, mode, rfl⟩ := h.before k hk e hget
      exact absurd rfl (hfile content mode)
    · rw [h.elsewhere k hk, hget]
  exact ⟨h.here, fun k hk => hkeeps k _ hk nofun, fun k target hk => hkeeps k _ hk nofun⟩

/-- What carries the marker looks at the same place afterwards. -/
theorem looksAt (h : FilesChanged t t' places) {k : Place} {content : Bytes} {mode : Nat}
    (hfind : t.find? true (d.joinText marker) = .ok (k, .file content mode)) :
    LooksAt t' marker d k := by
  have hloc := find?_eq_ok_iff.1 hfind
  refine h.keepsWays.locate_file hloc fun e he => ?_
  by_cases hk : k ∈ places
  · exact h.after k hk e he
  · rw [h.elsewhere k hk, get?_of_locate_file hloc] at he
    exact ⟨content, mode, (Option.some.inj he).symm⟩

/-- A path that looks at none of the places carries the marker as before. -/
theorem carriesMarker_iff (h : FilesChanged t t' places)
    (hother : ∀ k ∈ places, ¬ LooksAt t marker d k) :
    CarriesMarker t' marker d ↔ CarriesMarker t marker d := by
  constructor
  · rintro ⟨k, content, mode, hfind⟩
    have hlooks := h.symm.looksAt hfind
    have hfile := get?_of_locate_file (find?_eq_ok_iff.1 hfind)
    rw [h.elsewhere k fun hk => hother k hk hlooks] at hfile
    exact carriesMarker_of_looksAt hlooks hfile
  · rintro ⟨k, content, mode, hfind⟩
    have hloc := find?_eq_ok_iff.1 hfind
    have hfile := get?_of_locate_file hloc
    rw [← h.elsewhere k fun hk => hother k hk ⟨_, hloc, rfl⟩] at hfile
    exact carriesMarker_of_looksAt (h.looksAt hfind) hfile

end FilesChanged

/-- **The nearest marked directory.** The paths above the start come to an end. The result is
the first of them that carries the marker; if none does, it is the fallback, or else the start.
A result that was found stays the result with any fallback, and in any tree in which the same
paths up to it carry the marker; and so it does when files come or go at places, of markers or
of anything else, at which none of these paths looks. -/
theorem findWorkingDir_nearest (t : FileTree) (start : Path) (marker : String)
    (fallback : Option Path) :
    let dir := findWorkingDir t start marker fallback
    let marked := CarriesMarker t marker
    (∃ n ≤ start.chars.length, ∀ m, (start.climb m).isSome = true ↔ m ≤ n) ∧
    ((∃ n, Nearest marked start n dir) ∨
      (∀ m q, start.climb m = some q → ¬ marked q) ∧ dir = fallback.getD start) ∧
    ∀ n, Nearest marked start n dir → ∀ (t' : FileTree) (fallback' : Option Path),
      ((∀ m ≤ n, ∀ q, start.climb m = some q → (CarriesMarker t' marker q ↔ marked q)) →
        findWorkingDir t' start marker fallback' = dir) ∧
      ∀ places, FilesChanged t t' places →
        (∀ m ≤ n, ∀ q, start.climb m = some q → ∀ k ∈ places, ¬ LooksAt t marker q k) →
        findWorkingDir t' start marker fallback' = dir := by
  intro dir marked
  refine ⟨start.climb_ends, ?_, fun n hnearest t' fallback' => ?_⟩
  · cases hfound : markedDir? t start marker with
    | some d =>
      obtain ⟨n, hnearest⟩ := markedDir?_eq_some_iff.1 hfound
      have hdir : dir = d := findWorkingDir_of_nearest hnearest fallback
      exact .inl ⟨n, hdir ▸ hnearest⟩
    | none =>
      have hnone := markedDir?_eq_none_iff.1 hfound
      exact .inr ⟨hnone, findWorkingDir_of_none hnone fallback⟩
  · have hkept (hsame : ∀ m ≤ n, ∀ q, start.climb m = some q →
        (CarriesMarker t' marker q ↔ marked q)) : findWorkingDir t' start marker fallback' = dir :=
      findWorkingDir_of_nearest (hnearest.congr hsame) fallback'
    refine ⟨hkept, fun places hchanged hother => hkept fun m hm q hq => ?_⟩
    exact hchanged.carriesMarker_iff (hother m hm q hq)

theorem findWorkingDir_nearest_marked_above :
    let t : FileTree := (((default : FileTree).put ["p"] .directory).put ["p", "q"] .directory).put
      ["p", ".eslintrc"] (.file [] 0)
    let t' := t.put [".eslintrc"] (.file [] 0)
    let start : Path := ⟨"/p//./q/"⟩
    Nearest (CarriesMarker t ".eslintrc") start 1 ⟨"/p"⟩ ∧
      FilesChanged t t' {[".eslintrc"]} ∧
      findWorkingDir t start ".eslintrc" none = ⟨"/p"⟩ ∧
      findWorkingDir t' start ".eslintrc" (some ⟨"/q"⟩) = ⟨"/p"⟩ := by
  intro t t' start
  have hdir : findWorkingDir t start ".eslintrc" none = ⟨"/p"⟩ := by decide +kernel
  have hclimb : start.climb 0 = some start ∧ start.climb 1 = some ⟨"/p"⟩ := by decide +kernel
  have hlook : t.locate true (start.joinText ".eslintrc") =
        .ok (.vacant ["p", "q"] ".eslintrc" false) ∧
      t.locate true (Path.joinText ⟨"/p"⟩ ".eslintrc") =
        .ok (.taken ["p", ".eslintrc"] (.file [] 0)) := by decide +kernel
  have hchanged : FilesChanged t t' {[".eslintrc"]} :=
    .put (by decide +kernel) (by decide +kernel)
  have hnearest : Nearest (CarriesMarker t ".eslintrc") start 1 ⟨"/p"⟩ := by
    refine ⟨hclimb.2, isMarked_iff.1 (by decide +kernel), fun m hm q hq hcarries => ?_⟩
    obtain rfl : m = 0 := by omega
    obtain rfl := Option.some.inj (hclimb.1.symm.trans hq)
    exact absurd (isMarked_iff.2 hcarries) (by decide +kernel)
  obtain ⟨-, -, hkept⟩ := findWorkingDir_nearest t start ".eslintrc" none
  rw [hdir] at hkept
  refine ⟨hnearest, hchanged, hdir, (hkept 1 hnearest t' (some ⟨"/q"⟩)).2 {[".eslintrc"]}
    hchanged fun m hm q hq k hk => ?_⟩
  -- neither of the two paths looks at the marker of the root
  obtain rfl := Set.mem_singleton_iff.1 hk
  rintro ⟨spot, hloc, hplace⟩
  rcases Nat.le_one_iff_eq_zero_or_eq_one.1 hm with rfl | rfl
  · obtain rfl := Option.some.inj (hclimb.1.symm.trans hq)
    obtain rfl := Except.ok.inj (hlook.1.symm.trans hloc)
    exact absurd hplace (by decide)
  · obtain rfl := Option.some.inj (hclimb.2.symm.trans hq)
    obtain rfl := Except.ok.inj (hlook.2.symm.trans hloc)
    exact absurd hplace (by decide)

/-- The root is above the result by its text. A `..` leads there before, or the marker of a path
below the result is a link to the marker of the root. And a fallback that is the result, since
no path is marked, may be marked itself. -/
theorem findWorkingDir_passed_above :
    (let t : FileTree := (((default : FileTree).put ["x"] .directory).put ["y"] .directory).put
        ["x", ".eslintrc"] (.file [] 0)
      let t' := t.put [".eslintrc"] (.file [] 0)
      FilesChanged t t' {[".eslintrc"]} ∧
        isMarked t ".eslintrc" ⟨"/x"⟩ = true ∧ Path.climb ⟨"/x"⟩ 1 = some ⟨"/"⟩ ∧
        findWorkingDir t ⟨"/x/../y"⟩ ".eslintrc" none = ⟨"/x"⟩ ∧
        findWorkingDir t' ⟨"/x/../y"⟩ ".eslintrc" none = ⟨"/x/.."⟩) ∧
    (let t : FileTree := ((((default : FileTree).put ["p"] .directory).put ["p", ".eslintrc"]
        (.file [] 0)).put ["p", "q"] .directory).put ["p", "q", ".eslintrc"] (.link "/.eslintrc")
      let t' := t.put [".eslintrc"] (.file [] 0)
      FilesChanged t t' {[".eslintrc"]} ∧
        isMarked t ".eslintrc" ⟨"/p"⟩ = true ∧ Path.climb ⟨"/p"⟩ 1 = some ⟨"/"⟩ ∧
        findWorkingDir t ⟨"/p/q"⟩ ".eslintrc" none = ⟨"/p"⟩ ∧
        findWorkingDir t' ⟨"/p/q"⟩ ".eslintrc" none = ⟨"/p/q"⟩) ∧
    (let t : FileTree := ((default : FileTree).put ["f"] .directory).put ["f", ".eslintrc"]
        (.file [] 0);
      isMarked t ".eslintrc" ⟨"/f"⟩ = true ∧
        findWorkingDir t ⟨"/y"⟩ ".eslintrc" (some ⟨"/f"⟩) = ⟨"/f"⟩ ∧
        findWorkingDir t ⟨"/y"⟩ ".eslintrc" none = ⟨"/y"⟩) := by
  refine ⟨⟨.put ?_ ?_, ?_⟩, ⟨.put ?_ ?_, ?_⟩, ?_⟩
  all_goals decide +kernel

end Marked
end LintHub
