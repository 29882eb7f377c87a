import Mathlib.Data.List.DropRight
import LintHub.Proofs.FileTree.Paths

/-!
# The parent of a path

Of the moves of a path only those count that are not an empty piece or a `.`. The parent
of a path is a proper prefix of its text, and it makes all the moves that count but the last.

* `Goes.of_counting_eq`: a way depends on the moves that count.
* `parent?_eq_some`: what the parent of a path is.
* `exists_parent?_of_isFile`: every path that leads to a file has one.
-/

namespace LintHub.FileTree

variable {t : FileTree} {n m : Nat} {dir k : Place} {ms ms' : List Move} {p q : Path}

/-- Whether a move may lead away from a directory. -/
def Move.counts : Move → Bool
  | .nothing | .stay => false
  | .up | .name _ => true

/-- The moves that count. -/
def counting (ms : List Move) : List Move := ms.filter Move.counts

theorem counting_append (ms ms' : List Move) : counting (ms ++ ms') = counting ms ++ counting ms' :=
  List.filter_append ..

theorem Goes.idle_append (h : t.Goes n dir ms m k) {idle : List Move}
    (hidle : ∀ mv ∈ idle, ¬ mv.counts = true) : t.Goes n dir (idle ++ ms) m k := by
  induction idle with
  | nil => exact h
  | cons mv idle ih =>
    have hrest := ih fun mv hmv => hidle mv (List.mem_cons_of_mem _ hmv)
    cases mv with
    | nothing => exact .nothing hrest
    | stay => exact .stay hrest
    | up => exact absurd rfl (hidle .up (List.mem_cons_self ..))
    | name s => exact absurd rfl (hidle (.name s) (List.mem_cons_self ..))

/-- Only the moves that count matter. -/
theorem Goes.of_counting_eq (h : t.Goes n dir ms m k) (heq : counting ms' = counting ms) :
    t.Goes n dir ms' m k := by
  -- each move that counts has some idle ones in front of it
  induction h generalizing ms' with
  | here n dir =>
    have hidle : ∀ mv ∈ ms', ¬ mv.counts = true := List.filter_eq_nil_iff.1 heq
    simpa using (Goes.here n dir).idle_append hidle
  | nothing _ ih => exact ih heq
  | stay _ ih => exact ih heq
  | up _ ih =>
    obtain ⟨idle, rest, rfl, hidle, -, hrest⟩ := List.filter_eq_cons_iff.1 heq
    exact (Goes.up (ih hrest)).idle_append hidle
  | into size there _ ih =>
    obtain ⟨idle, rest, rfl, hidle, -, hrest⟩ := List.filter_eq_cons_iff.1 heq
    exact (Goes.into size there (ih hrest)).idle_append hidle
  | via size there _ ih =>
    obtain ⟨idle, rest, rfl, hidle, -, hrest⟩ := List.filter_eq_cons_iff.1 heq
    refine (Goes.via size there (ih ?_)).idle_append hidle
    rw [counting_append, counting_append, show counting rest = _ from hrest]
    rfl

/-- The moves that count among those of these pieces. -/
def countingPieces (pieces : List (List Char)) : List Move := counting (pieces.map Move.ofPiece)

theorem countingPieces_append (ps qs : List (List Char)) :
    countingPieces (ps ++ qs) = countingPieces ps ++ countingPieces qs := by
  simp [countingPieces, counting_append]

theorem counting_moves (p : Path) : counting (moves p) = countingPieces (Text.fields '/' p.chars) :=
  rfl

theorem countingPieces_fields_joinFields {ps : List (List Char)} (h : ∀ f ∈ ps, '/' ∉ f) :
    countingPieces (Text.fields '/' (Text.joinFields '/' ps)) = countingPieces ps := by
  by_cases hne : ps = []
  · subst hne
    rfl
  · rw [Text.fields_joinFields h hne]

/-- Some of the first pieces of a path, put together again: a prefix of its text, whose moves
that count are those of the pieces. All of them give the path itself. -/
theorem headAndPieces_spec (p : Path) {ps : List (List Char)} (h : ps <+: p.headAndPieces.2) :
    p.headAndPieces.1 ++ Text.joinFields '/' ps <+: p.chars ∧
      counting (moves (.ofChars (p.headAndPieces.1 ++ Text.joinFields '/' ps))) =
        countingPieces ps ∧
      (ps = p.headAndPieces.2 → p.headAndPieces.1 ++ Text.joinFields '/' ps = p.chars) := by
  have hclean {cs : List Char} {ps : List (List Char)} (h : ps <+: Text.fields '/' cs) :
      ∀ f ∈ ps, '/' ∉ f := fun f hf => Text.not_mem_of_mem_fields (h.subset hf)
  have hjoin {cs : List Char} {ps : List (List Char)} (h : ps <+: Text.fields '/' cs) :
      Text.joinFields '/' ps <+: cs := by
    have := Text.joinFields_mono '/' h
    rwa [Text.joinFields_fields] at this
  unfold Path.headAndPieces at h ⊢
  split at h
  -- from the root
  · rename_i cs hcs
    rw [hcs, counting_moves, Path.chars_ofChars, List.singleton_append]
    refine ⟨List.cons_prefix_cons.2 ⟨rfl, hjoin h⟩, ?_, ?_⟩
    · rw [Text.fields, if_pos rfl]
      exact countingPieces_fields_joinFields (hclean h)
    · rintro rfl
      rw [Text.joinFields_fields]
  -- the path is the directory itself
  · rename_i hcs
    obtain rfl := List.prefix_nil.1 h
    rw [hcs]
    exact ⟨List.prefix_refl _, rfl, fun _ => rfl⟩
  -- a dot in front, with a separator behind it
  · rename_i cs hcs
    rw [hcs, counting_moves, Path.chars_ofChars]
    cases ps with
    | nil => exact ⟨by simp [Text.joinFields], rfl, by simp⟩
    | cons f ps =>
      obtain ⟨rfl, hps⟩ := List.cons_prefix_cons.1 h
      by_cases hne : ps = []
      · subst hne
        refine ⟨by simp [Text.joinFields], rfl, fun hall => ?_⟩
        exact absurd (List.cons.inj hall).2.symm (Text.fields_ne_nil '/' cs)
      · rw [Text.joinFields_cons '/' _ hne]
        refine ⟨?_, ?_, ?_⟩
        · exact List.cons_prefix_cons.2 ⟨rfl, List.cons_prefix_cons.2 ⟨rfl, hjoin hps⟩⟩
        · rw [List.nil_append, Text.fields_append_sep, countingPieces_append,
            countingPieces_fields_joinFields (hclean hps)]
          rfl
        · intro hall
          rw [(List.cons.inj hall).2, Text.joinFields_fields]
          rfl
  · rw [counting_moves, Path.chars_ofChars, List.nil_append]
    refine ⟨hjoin h, countingPieces_fields_joinFields (hclean h), ?_⟩
    rintro rfl
    rw [Text.joinFields_fields]

theorem dropInert_spec (pieces : List (List Char)) :
    Path.dropInert pieces <+: pieces ∧
      countingPieces (Path.dropInert pieces) = countingPieces pieces := by
  induction pieces using List.reverseRecOn with
  | nil => exact ⟨List.prefix_refl _, rfl⟩
  | append_singleton pieces f ih =>
    show List.rdropWhile _ _ <+: _ ∧ countingPieces (List.rdropWhile _ _) = _
    rw [List.rdropWhile_concat]
    split
    · rename_i hinert
      refine ⟨ih.1.trans (List.prefix_append _ _), ?_⟩
      rw [countingPieces_append]
      have hidle : countingPieces [f] = [] := by
        simp only [Bool.or_eq_true, beq_iff_eq] at hinert
        rcases hinert with rfl | rfl <;> rfl
      rw [hidle, List.append_nil]
      exact ih.2
    · exact ⟨List.prefix_refl _, rfl⟩

/-- The last piece that is not dropped makes a move that counts. -/
theorem counts_of_dropInert {pieces init : List (List Char)} {f : List Char}
    (h : Path.dropInert pieces = init ++ [f]) : countingPieces [f] = [Move.ofPiece f] := by
  have hne : Path.dropInert pieces ≠ [] := by simp [h]
  have hlast : ¬ (f == [] || f == ['.']) = true := by
    have := List.rdropWhile_last_not (fun s : List Char => s == [] || s == ['.']) pieces hne
    simpa only [show pieces.rdropWhile _ = init ++ [f] from h, List.getLast_concat] using this
  simp only [Bool.or_eq_true, beq_iff_eq, not_or] at hlast
  have hcounts : (Move.ofPiece f).counts = true := by
    unfold Move.ofPiece
    split
    · exact absurd rfl hlast.1
    · exact absurd rfl hlast.2
    · rfl
    · rfl
  simp [countingPieces, counting, hcounts]

/-- **The parent of a path** is a prefix of its text. It is empty, or it makes all moves that
count but the last. -/
theorem parent?_eq_some (h : p.parent? = some q) :
    q.chars <+: p.chars ∧ q.chars ≠ p.chars ∧
      (q.text = "" ∨ ∃ mv, counting (moves p) = counting (moves q) ++ [mv]) := by
  unfold Path.parent? at h
  simp only at h
  split at h
  · rename_i hnone
    split at h
    · rename_i hhead
      cases h
      refine ⟨List.nil_prefix, fun hp => ?_, .inl rfl⟩
      have := (headAndPieces_spec p List.nil_prefix).1
      rw [hhead, ← hp] at this
      simp [Path.chars, Text.joinFields] at this
    · cases h
  -- the last piece that is not inert goes, with the inert ones in front of it
  · rename_i kept hkept
    obtain ⟨init, f, hinit⟩ : ∃ init f, Path.dropInert p.headAndPieces.2 = init ++ [f] :=
      ⟨_, _, (List.dropLast_append_getLast hkept).symm⟩
    rw [hinit, List.dropLast_concat] at h
    cases h
    obtain ⟨hpieces, hall⟩ := dropInert_spec p.headAndPieces.2
    obtain ⟨hrest, hless⟩ := dropInert_spec init
    have hpre : Path.dropInert init <+: p.headAndPieces.2 :=
      (hrest.trans (List.prefix_append _ _)).trans (hinit ▸ hpieces)
    obtain ⟨htext, hmoves, -⟩ := headAndPieces_spec p hpre
    obtain ⟨-, hp, hwhole⟩ := headAndPieces_spec p (List.prefix_refl _)
    rw [hwhole rfl, Path.ofChars_chars] at hp
    have hcount : counting (moves p) = counting (moves (.ofChars (p.headAndPieces.1 ++
        Text.joinFields '/' (Path.dropInert init)))) ++ [Move.ofPiece f] := by
      rw [hp, hmoves, ← hall, hinit, countingPieces_append, counts_of_dropInert hinit, hless]
    -- one move less, so the text is another
    refine ⟨by rwa [Path.chars_ofChars], fun heq => ?_, .inr ⟨_, hcount⟩⟩
    have hsame := congrArg Path.ofChars heq
    rw [Path.ofChars_chars, Path.ofChars_chars] at hsame
    rw [hsame] at hcount
    simpa using congrArg List.length hcount

/-- A path without a parent makes no move that counts. -/
theorem counting_moves_of_parent?_eq_none (h : p.parent? = none) : counting (moves p) = [] := by
  have hinert : Path.dropInert p.headAndPieces.2 = [] := by
    by_contra hkept
    unfold Path.parent? at h
    simp only at h
    cases h
  have hpieces : countingPieces p.headAndPieces.2 = [] := by
    rw [← (dropInert_spec p.headAndPieces.2).2, hinert]
    rfl
  obtain ⟨-, hmoves, hwhole⟩ := headAndPieces_spec p (List.prefix_refl _)
  rwa [hwhole rfl, Path.ofChars_chars, hpieces] at hmoves

/-- **A file has a parent**: without one, a path leads to where it starts, a directory. -/
theorem exists_parent?_of_isFile (h : t.isFile p = true) : ∃ q, p.parent? = some q := by
  cases hparent : p.parent? with
  | some q => exact ⟨q, rfl⟩
  | none =>
    obtain ⟨k, content, mode, hloc⟩ := isFile_iff.1 h
    obtain ⟨htakes, dir, hstart, -⟩ := takes_of_locate hloc
    have hgo : t.Goes linkLimit dir (moves p) linkLimit dir :=
      (Goes.here linkLimit dir).of_counting_eq (counting_moves_of_parent?_eq_none hparent)
    have hdir : t.locate true p = .ok (.taken dir .directory) :=
      LeadsTo.locate ⟨dir, linkLimit, hstart, hgo⟩ htakes
    rw [hdir] at hloc
    cases hloc

end LintHub.FileTree
