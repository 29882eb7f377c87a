import LintHub.Glob
import Mathlib.Data.List.Basic
import Mathlib.Data.List.TakeWhile

/-!
# What glob patterns match

The tests by which a pattern is decided try all that a star may stand for, and so they accept
just the texts that the pattern matches. A pattern without the signs of a glob stands for itself,
one with a double star behind such a text for whatever begins with it, and one with a double star
on both sides for whatever lies below a directory.

* `accepts_iff`: what a pattern accepts is what it means.
* `parse?_plain`, `parse?_below`, `parse?_deep`, `parse?_anywhere`: how these kinds of patterns are
  read.
* `matches_plain_iff`, `matches_plain_star_iff`, `matches_deep_iff`, `matches_anywhere_iff`: and
  what they match.
* `mem_of_parse?`: what must be in a text for any pattern without classes to match it.
-/

namespace LintHub

namespace Text.SuffixRow

variable {α : Type} {accepts : α → Bool} {test : List α → Bool} {cs : List α}

theorem oneTest_iff : oneTest accepts test cs = true ↔
    ∃ c rest, cs = c :: rest ∧ accepts c = true ∧ test rest = true := by
  cases cs with
  | nil => simp [oneTest]
  | cons c cs => simp [oneTest]

/-- A run of anything may end anywhere. -/
theorem runTest_iff : runTest (fun _ => true) test cs = true ↔
    ∃ skipped rest, cs = skipped ++ rest ∧ test rest = true := by
  induction cs with
  | nil =>
    rw [runTest]
    constructor
    · exact fun h => ⟨[], [], rfl, h⟩
    · rintro ⟨skipped, rest, hnil, h⟩
      rwa [(List.append_eq_nil_iff.1 hnil.symm).2] at h
  | cons c cs ih =>
    rw [runTest, Bool.true_and, Bool.or_eq_true, ih]
    constructor
    · rintro (h | ⟨skipped, rest, rfl, h⟩)
      · exact ⟨[], c :: cs, rfl, h⟩
      · exact ⟨c :: skipped, rest, rfl, h⟩
    · rintro ⟨skipped, rest, hcs, h⟩
      cases skipped with
      | nil => exact .inl (by rwa [hcs])
      | cons x skipped => exact .inr ⟨skipped, rest, (List.cons.inj hcs).2, h⟩

theorem behindTest_iff : behindTest accepts test cs = true ↔
    ∃ skipped c rest, cs = skipped ++ c :: rest ∧ accepts c = true ∧ test rest = true := by
  induction cs with
  | nil => simp [behindTest]
  | cons c cs ih =>
    rw [behindTest, Bool.or_eq_true, Bool.and_eq_true, ih]
    constructor
    · rintro (⟨hc, h⟩ | ⟨skipped, d, rest, rfl, hd, h⟩)
      · exact ⟨[], c, cs, rfl, hc, h⟩
      · exact ⟨c :: skipped, d, rest, rfl, hd, h⟩
    · rintro ⟨skipped, d, rest, hcs, hd, h⟩
      cases skipped with
      | nil =>
        obtain ⟨rfl, rfl⟩ := List.cons.inj hcs
        exact .inl ⟨hd, h⟩
      | cons x skipped => exact .inr ⟨skipped, d, rest, (List.cons.inj hcs).2, hd, h⟩

end Text.SuffixRow

namespace Glob

open Text.SuffixRow

variable {glob ps : Glob} {p : GlobPart} {w x cs : List Char}

/-- The parts that stand for a single character. -/
theorem matches_cons_iff (h : p ≠ .anyRun) (h' : p ≠ .anyComponents) :
    Matches (p :: ps) cs ↔ ∃ c rest, cs = c :: rest ∧ GlobPart.accepts p c = true ∧
      Matches ps rest := by
  constructor
  · intro hm
    cases hm with
    | one hc hrest => exact ⟨_, _, rfl, hc, hrest⟩
    | run => exact absurd rfl h
    | noComponent => exact absurd rfl h'
    | components => exact absurd rfl h'
    | everything => exact absurd rfl h'
  · rintro ⟨c, rest, rfl, hc, hrest⟩
    exact .one hc hrest

theorem matches_anyRun_iff :
    Matches (.anyRun :: ps) cs ↔ ∃ skipped rest, cs = skipped ++ rest ∧ Matches ps rest := by
  constructor
  · intro h
    cases h with
    | one hc => cases hc
    | run skipped hrest => exact ⟨skipped, _, rfl, hrest⟩
  · rintro ⟨skipped, rest, rfl, hrest⟩
    exact .run skipped hrest

theorem matches_anyComponents_iff : Matches (.anyComponents :: ps) cs ↔
    Matches ps cs ∨ (∃ skipped rest, cs = skipped ++ '/' :: rest ∧ Matches ps rest) ∨
      Matches ps [] := by
  constructor
  · intro h
    cases h with
    | one hc => cases hc
    | noComponent hrest => exact .inl hrest
    | components skipped hrest => exact .inr (.inl ⟨skipped, _, rfl, hrest⟩)
    | everything _ hrest => exact .inr (.inr hrest)
  · rintro (hrest | ⟨skipped, rest, rfl, hrest⟩ | hrest)
    · exact .noComponent hrest
    · exact .components skipped hrest
    · exact .everything cs hrest

/-- The tests find what a pattern means, part by part. -/
theorem matchesChars_iff : matchesChars glob cs = true ↔ Matches glob cs := by
  induction glob generalizing cs with
  | nil =>
    rw [matchesChars, List.isEmpty_iff]
    exact ⟨fun h => h ▸ .nil, fun h => by cases h; rfl⟩
  | cons p ps ih =>
    have hone (h : p ≠ .anyRun) (h' : p ≠ .anyComponents) :
        oneTest (GlobPart.accepts p) (matchesChars ps) cs = true ↔ Matches (p :: ps) cs := by
      simp only [oneTest_iff, ih, matches_cons_iff h h']
    cases p with
    | anyRun =>
      rw [matchesChars, runTest_iff, matches_anyRun_iff]
      simp only [ih]
    | anyComponents =>
      rw [matchesChars, Bool.or_eq_true, Bool.or_eq_true, behindTest_iff, matches_anyComponents_iff,
        or_assoc]
      -- what is behind the test is a separator
      have hmark : (∃ skipped c rest, cs = skipped ++ c :: rest ∧ (c == '/') = true ∧
          matchesChars ps rest = true) ↔
          ∃ skipped rest, cs = skipped ++ '/' :: rest ∧ Matches ps rest := by
        constructor
        · rintro ⟨skipped, c, rest, hcs, hc, hrest⟩
          obtain rfl := beq_iff_eq.1 hc
          exact ⟨skipped, rest, hcs, ih.1 hrest⟩
        · rintro ⟨skipped, rest, hcs, hrest⟩
          exact ⟨skipped, '/', rest, hcs, rfl, ih.2 hrest⟩
      rw [hmark, ih, ih]
    | char c => exact hone (by simp) (by simp)
    | anyChar => exact hone (by simp) (by simp)
    | within ranges => exact hone (by simp) (by simp)
    | except ranges => exact hone (by simp) (by simp)

/-- **A pattern accepts** what it matches. -/
theorem accepts_iff : accepts glob cs = true ↔ Matches glob cs := by
  rw [accepts_eq_matchesChars, matchesChars_iff]

/-- None of the characters is a sign of a glob. -/
def IsPlain (w : List Char) : Prop := ∀ c ∈ w, c ≠ '?' ∧ c ≠ '*' ∧ c ≠ '['

theorem matches_plain_append_iff :
    Matches (w.map .char ++ ps) cs ↔ ∃ rest, cs = w ++ rest ∧ Matches ps rest := by
  induction w generalizing cs with
  | nil => simp
  | cons c w ih =>
    rw [List.map_cons, List.cons_append, matches_cons_iff (by simp) (by simp)]
    simp only [GlobPart.accepts, beq_iff_eq, ih]
    constructor
    · rintro ⟨_, _, rfl, rfl, rest, rfl, hrest⟩
      exact ⟨rest, rfl, hrest⟩
    · rintro ⟨rest, rfl, hrest⟩
      exact ⟨c, w ++ rest, rfl, rfl, rest, rfl, hrest⟩

theorem matches_plain_iff : Matches (w.map .char) cs ↔ cs = w := by
  have h : Matches (w.map .char ++ []) cs ↔ ∃ rest, cs = w ++ rest ∧ Matches [] rest :=
    matches_plain_append_iff
  rw [List.append_nil] at h
  rw [h]
  constructor
  · rintro ⟨rest, rfl, hrest⟩
    cases hrest
    exact List.append_nil w
  · rintro rfl
    exact ⟨[], (List.append_nil cs).symm, .nil⟩

theorem part?_plain {c : Char} (h : c ≠ '?' ∧ c ≠ '*' ∧ c ≠ '[') (atStart : Bool) :
    part? atStart (c :: cs) = some (.char c, cs) := by
  obtain ⟨hany, hstar, hclass⟩ := h
  unfold part?
  split
  · rename_i heq
    exact absurd (List.cons.inj heq).1 hany
  · rename_i heq
    exact absurd (List.cons.inj heq).1 hstar
  · rename_i heq
    exact absurd (List.cons.inj heq).1 hclass
  · rename_i heq
    obtain ⟨rfl, rfl⟩ := List.cons.inj heq
    rfl
  · rename_i heq
    cases heq

/-- What is not a sign of a glob is read one by one. -/
theorem parts?_plain_append (h : IsPlain w) (n : Nat) (atStart : Bool) (rest : List Char) :
    parts? (w.length + n) atStart (w ++ rest) =
      (parts? n (if w = [] then atStart else startsComponent w) rest).map (w.map .char ++ ·) := by
  induction w generalizing atStart with
  | nil => simp
  | cons c w ih =>
    obtain ⟨hc, hw⟩ := List.forall_mem_cons.1 h
    have hlength : (c :: w).length + n = (w.length + n) + 1 := by
      rw [List.length_cons]
      omega
    have hconsumed : (c :: (w ++ rest)).take ((c :: (w ++ rest)).length - (w ++ rest).length) =
        [c] := by
      simp
    have hstart : (if w = [] then startsComponent [c] else startsComponent w) =
        startsComponent (c :: w) := by
      cases w with
      | nil => rfl
      | cons d w => rfl
    rw [hlength, List.cons_append, parts?, part?_plain hc]
    simp only [hconsumed]
    rw [ih hw, hstart, if_neg (List.cons_ne_nil c w), Option.map_map]
    rfl

theorem parse?_plain {raw : String} (h : IsPlain raw.toList) :
    parse? raw = some (raw.toList.map .char) := by
  have hread := parts?_plain_append h 0 true []
  rw [List.append_nil, Nat.add_zero] at hread
  unfold parse?
  rw [hread]
  simp [parts?]

/-- A double star at the start of a component, and nothing behind it: what is read one by one is
followed by anything. -/
theorem parts?_plain_star (h : IsPlain w) (hend : startsComponent w = true) (n : Nat)
    (atStart : Bool) : parts? (w.length + (n + 2)) atStart (w ++ ['*', '*']) =
      some (w.map .char ++ [.anyComponents]) := by
  have hne : w ≠ [] := by
    rintro rfl
    cases hend
  have hread := parts?_plain_append h (n + 2) atStart ['*', '*']
  rw [if_neg hne, hend] at hread
  exact hread

/-- Whatever begins with this text. -/
theorem matches_plain_star_iff : Matches (w.map .char ++ [.anyComponents]) cs ↔ w <+: cs := by
  rw [matches_plain_append_iff]
  constructor
  · rintro ⟨rest, rfl, -⟩
    exact List.prefix_append w rest
  · rintro ⟨rest, rfl⟩
    exact ⟨rest, rfl, .everything rest .nil⟩

theorem isPlain_dir (h : IsPlain x) : IsPlain (x ++ ['/']) :=
  List.forall_mem_append.2 ⟨h, List.forall_mem_singleton.2 (by decide)⟩

theorem startsComponent_dir (x : List Char) : startsComponent (x ++ ['/']) = true := by
  simp [startsComponent]

theorem parse?_below {raw : String} (hraw : raw.toList = w ++ "/**".toList) (h : IsPlain w) :
    parse? raw = some ((w ++ ['/']).map .char ++ [.anyComponents]) := by
  have htext : w ++ "/**".toList = (w ++ ['/']) ++ ['*', '*'] := by simp
  unfold parse?
  rw [hraw, htext, List.length_append]
  exact parts?_plain_star (isPlain_dir h) (startsComponent_dir w) 0 true

/-- Whatever lies below a directory at the root. -/
def rooted (x : List Char) : List Char := '/' :: (x ++ "/**".toList)

theorem parse?_rooted {raw : String} (hraw : raw.toList = rooted x) (h : IsPlain x) :
    parse? raw = some (('/' :: (x ++ ['/'])).map .char ++ [.anyComponents]) :=
  parse?_below (w := '/' :: x) hraw (List.forall_mem_cons.2 ⟨by decide, h⟩)

/-- Whatever lies below a directory of this name, or below one in it. -/
def deep (x : List Char) : List Char := "**/".toList ++ x ++ "/**".toList

/-- A double star in front takes its separator along, and a component starts behind it. -/
theorem parts?_star_dir (n : Nat) (rest : List Char) :
    parts? (n + 1) true ("**/".toList ++ rest) =
      (parts? n true rest).map (.anyComponents :: ·) := by
  have hfirst : part? true ('*' :: '*' :: '/' :: rest) = some (.anyComponents, rest) := rfl
  have hconsumed : ('*' :: '*' :: '/' :: rest).take
      (('*' :: '*' :: '/' :: rest).length - rest.length) = ['*', '*', '/'] := by
    have hthree : ('*' :: '*' :: '/' :: rest).length - rest.length = 3 := by
      simp only [List.length_cons]
      omega
    rw [hthree]
    rfl
  show parts? (n + 1) true ('*' :: '*' :: '/' :: rest) = _
  rw [parts?, hfirst]
  simp only [hconsumed]
  rfl

theorem parse?_deep {raw : String} (hraw : raw.toList = deep x) (h : IsPlain x) :
    parse? raw = some (.anyComponents :: ((x ++ ['/']).map .char ++ [.anyComponents])) := by
  have htext : deep x = "**/".toList ++ ((x ++ ['/']) ++ ['*', '*']) := by simp [deep]
  have hlength : (deep x).length = ((x ++ ['/']).length + 4) + 1 := by simp [deep]
  unfold parse?
  rw [hraw, hlength, htext, parts?_star_dir,
    parts?_plain_star (isPlain_dir h) (startsComponent_dir x) 2]
  rfl

/-- Whatever ends with a path like this one, in some directory. -/
def anywhere (w : List Char) : List Char := "**/".toList ++ w

theorem parse?_anywhere {raw : String} (hraw : raw.toList = anywhere w) (h : IsPlain w) :
    parse? raw = some (.anyComponents :: w.map .char) := by
  have hread := parts?_plain_append h 2 true []
  rw [List.append_nil] at hread
  unfold parse?
  rw [hraw, show (anywhere w).length = (w.length + 2) + 1 by simp [anywhere], anywhere,
    parts?_star_dir, hread]
  simp [parts?]

/-- **A text that is matched** is this one, or it has it behind a separator at its end. If there
is nothing behind the double star, all texts are. -/
theorem matches_anywhere_iff :
    Matches (.anyComponents :: w.map .char) cs ↔ cs = w ∨ '/' :: w <:+ cs ∨ w = [] := by
  simp only [matches_anyComponents_iff, matches_plain_iff]
  refine or_congr_right (or_congr ⟨?_, ?_⟩ eq_comm)
  · rintro ⟨skipped, rest, rfl, rfl⟩
    exact List.suffix_append skipped _
  · rintro ⟨skipped, rfl⟩
    exact ⟨skipped, w, rfl, rfl⟩

/-- **A text that is matched** has the name between separators, or it begins with it. -/
theorem matches_deep_iff :
    Matches (.anyComponents :: ((x ++ ['/']).map .char ++ [.anyComponents])) cs ↔
      x ++ ['/'] <+: cs ∨ '/' :: (x ++ ['/']) <:+: cs := by
  simp only [matches_anyComponents_iff, matches_plain_star_iff]
  constructor
  · rintro (hfront | ⟨skipped, rest, rfl, hfront⟩ | hnil)
    · exact .inl hfront
    · obtain ⟨rest, rfl⟩ := hfront
      exact .inr ⟨skipped, rest, by simp⟩
    · simp at hnil
  · rintro (hfront | ⟨skipped, rest, rfl⟩)
    · exact .inl hfront
    · exact .inr (.inl ⟨skipped, x ++ ['/'] ++ rest, by simp, List.prefix_append _ rest⟩)

/-- A character that stands for itself is one of the text that is matched. -/
theorem mem_of_matches {c : Char} (h : Matches glob cs) (hc : .char c ∈ glob) : c ∈ cs := by
  induction h with
  | nil => cases hc
  | @one p d ps cs haccepts _ ih =>
    rcases List.mem_cons.1 hc with rfl | hc
    · rw [GlobPart.accepts, beq_iff_eq] at haccepts
      rw [haccepts]
      exact List.mem_cons_self ..
    · exact List.mem_cons_of_mem d (ih hc)
  | run skipped _ ih =>
    rcases List.mem_cons.1 hc with hc | hc
    · cases hc
    · exact List.mem_append_right skipped (ih hc)
  | noComponent _ ih =>
    rcases List.mem_cons.1 hc with hc | hc
    · cases hc
    · exact ih hc
  | components skipped _ ih =>
    rcases List.mem_cons.1 hc with hc | hc
    · cases hc
    · exact List.mem_append_right skipped (List.mem_cons_of_mem _ (ih hc))
  | everything rest _ ih =>
    rcases List.mem_cons.1 hc with hc | hc
    · cases hc
    -- what is behind the double star matches nothing at all
    · cases ih hc

/-- A character that is no sign of a glob, and no separator that a double star might take. -/
def IsOrdinary (c : Char) : Prop := c ≠ '?' ∧ c ≠ '*' ∧ c ≠ '/'

theorem starPart?_keeps {c : Char} (hc : IsOrdinary c) {atStart : Bool} {n : Nat}
    {rest : List Char} (h : starPart? atStart n cs = some (p, rest)) :
    rest ⊆ cs ∧ (c ∈ cs → c ∈ rest) := by
  unfold starPart? at h
  split at h
  · cases h
    exact ⟨List.Subset.refl _, id⟩
  · split at h
    · cases h
    · split at h
      · cases h
        exact ⟨List.Subset.refl _, id⟩
      · cases h
        exact ⟨List.subset_cons_self _ _, fun hmem => (List.mem_cons.1 hmem).resolve_left hc.2.2⟩
      · cases h
  · cases h

/-- Without classes, an ordinary character is read or it is still to come. -/
theorem part?_keeps {c : Char} (hc : IsOrdinary c) {atStart : Bool} {rest : List Char}
    (hclass : '[' ∉ cs) (h : part? atStart cs = some (p, rest)) :
    rest ⊆ cs ∧ (c ∈ cs → p = .char c ∨ c ∈ rest) := by
  unfold part? at h
  split at h
  · cases h
    exact ⟨List.subset_cons_self _ _,
      fun hmem => .inr ((List.mem_cons.1 hmem).resolve_left hc.1)⟩
  · rename_i cs
    obtain ⟨hsub, hkept⟩ := starPart?_keeps hc h
    have hdrop : cs.dropWhile (· == '*') ⊆ cs := (List.dropWhile_sublist _).subset
    refine ⟨fun x hx => List.mem_cons_of_mem _ (hdrop (hsub hx)), fun hmem => .inr (hkept ?_)⟩
    -- it is none of the stars
    have hcs := (List.mem_cons.1 hmem).resolve_left hc.2.1
    rw [← List.takeWhile_append_dropWhile (p := (· == '*')) (l := cs)] at hcs
    refine (List.mem_append.1 hcs).resolve_left fun hstars => ?_
    have hstar : (c == '*') = true := List.mem_takeWhile_imp (p := (· == '*')) hstars
    exact hc.2.1 (beq_iff_eq.1 hstar)
  · exact absurd (List.mem_cons_self ..) hclass
  · cases h
    refine ⟨List.subset_cons_self _ _, fun hmem => ?_⟩
    rcases List.mem_cons.1 hmem with rfl | hmem
    · exact .inl rfl
    · exact .inr hmem
  · cases h

theorem char_mem_of_parts? {c : Char} (hc : IsOrdinary c) {n : Nat} {atStart : Bool}
    (hclass : '[' ∉ cs) (h : parts? n atStart cs = some glob) (hmem : c ∈ cs) :
    .char c ∈ glob := by
  induction n generalizing atStart cs glob with
  | zero =>
    cases cs with
    | nil => cases hmem
    | cons d cs => cases h
  | succ n ih =>
    cases cs with
    | nil => cases hmem
    | cons d cs =>
      rw [parts?] at h
      split at h
      · cases h
      · rename_i part rest hpart
        obtain ⟨ps, hps, rfl⟩ := Option.map_eq_some_iff.1 h
        obtain ⟨hsub, hkept⟩ := part?_keeps hc hclass hpart
        rcases hkept hmem with rfl | hrest
        · exact List.mem_cons_self ..
        · exact List.mem_cons_of_mem _ (ih (fun hb => hclass (hsub hb)) hps hrest)

/-- **An ordinary character** of a pattern without classes is in all that the pattern matches. -/
theorem mem_of_parse? {raw : String} {c : Char} (hc : IsOrdinary c) (hclass : '[' ∉ raw.toList)
    (hmem : c ∈ raw.toList) (hparse : parse? raw = some glob) (h : Matches glob cs) : c ∈ cs :=
  mem_of_matches h (char_mem_of_parts? hc hclass hparse hmem)

end Glob
end LintHub
