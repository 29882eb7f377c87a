import LintHub.Proofs.FileTree.Growth

/-!
# Writing files

A file is written to one place, where nothing or a file was (`WritesAt`). So writing
removes nothing, adds no directory or link, and leaves a file where it wrote.

* `writeWithMode_ok`, `writeWithMode_error`: what writing does to the tree.
* `isFile_of_write`: the file is there afterwards.
-/

namespace LintHub.FileTree

variable {t t' : FileTree} {follow asDirectory : Bool} {n : Nat} {p : Path} {dir k : Place}
  {ms : List Move} {s : String} {e : Entry} {content : Bytes} {mode : Nat}

theorem here_put (t : FileTree) (k : Place) (e : Entry) : (t.put k e).here = t.here := by
  unfold put
  split <;> rfl

theorem put_of_not_admits (h : t.admits k e = false) : t.put k e = t := by
  unfold put
  rw [dif_neg (by simp [h])]

theorem entries_put (h : t.admits k e = true) :
    (t.put k e).entries = (k, e) :: t.entries.filter fun x => x.1 != k := by
  unfold put
  rw [dif_pos h]

theorem eq_of_entries_of_here (hentries : t.entries = t'.entries) (hhere : t.here = t'.here) :
    t = t' := by
  cases t
  cases t'
  cases hentries
  cases hhere
  rfl

/-- An entry in place of nothing, or of its like. -/
theorem grows_put (h : ∀ old, t.get? k = some old → old.Like e) : t.Grows (t.put k e) := by
  refine ⟨here_put t k e, fun l old hl => ?_⟩
  cases hadmits : t.admits k e with
  | false => exact ⟨old, by rw [put_of_not_admits hadmits, hl], .refl old⟩
  | true =>
    rw [get?_put hadmits]
    by_cases hlk : l = k
    · subst hlk
      exact ⟨e, by rw [if_pos rfl], h old hl⟩
    · exact ⟨old, by rw [if_neg hlk, hl], .refl old⟩

/-- A new file opens no way. -/
theorem keepsWays_of_put (t : FileTree) (k : Place) (content : Bytes) (mode : Nat) :
    (t.put k (.file content mode)).KeepsWays t := by
  refine ⟨(here_put ..).symm, fun l hl => ?_, fun l target hl => ?_⟩
  all_goals
    cases hadmits : t.admits k (.file content mode) with
    | false => rwa [put_of_not_admits hadmits] at hl
    | true =>
      rw [get?_put hadmits] at hl
      split at hl
      · cases hl
      · exact hl

theorem walk_of_all_nothing (h : ms.all (· == .nothing) = true) :
    t.walk follow n dir ms = .ok (.taken dir .directory) := by
  induction ms with
  | nil => exact walk_nil
  | cons mv ms ih =>
    simp only [List.all_cons, Bool.and_eq_true, beq_iff_eq] at h
    rw [h.1, walk_nothing]
    exact ih h.2

/-- A walk that ended at a missing name ends at what has been put there. -/
theorem walk_of_vacant (hgrows : t.Grows t')
    (h : t.walk follow n dir ms = .ok (.vacant k s asDirectory))
    (hnew : t'.get? (k ++ [s]) = some e)
    (he : e = .directory ∨ asDirectory = false ∧ ∃ content mode, e = .file content mode) :
    t'.walk follow n dir ms = .ok (.taken (k ++ [s]) e) := by
  induction n, dir, ms using walk_induction with
  | nil => simp at h
  | nothing n dir ms ih => simpa using ih (by simpa using h)
  | stay n dir ms ih => simpa using ih (by simpa using h)
  | up n dir ms ih => simpa using ih (by simpa using h)
  | name n dir s' ms ih ihlink =>
    rw [walk_name] at h ⊢
    split at h
    · cases h
    · rename_i size
      rw [if_neg size]
      split at h
      · split at h
        · rename_i hall
          cases h
          rw [hnew]
          -- a file only stands at the very end of a way
          rcases he with rfl | ⟨hlast, content, mode, rfl⟩
          · exact walk_of_all_nothing hall
          · simp only [Bool.not_eq_false'] at hlast
            simp only [hlast, if_true]
        · cases h
      · rename_i there
        rw [hgrows.directory there]
        exact ih _ h
      · split at h <;> cases h
      · rename_i target there
        rw [hgrows.link there]
        split at h
        · cases h
        · rename_i hlast
          simp only [hlast, Bool.false_eq_true, if_false]
          split at h
          · cases h
          · exact ihlink _ (Nat.lt_succ_self _) _ _ h

theorem locate_of_vacant (hgrows : t.Grows t')
    (h : t.locate follow p = .ok (.vacant k s asDirectory)) (hnew : t'.get? (k ++ [s]) = some e)
    (he : e = .directory ∨ asDirectory = false ∧ ∃ content mode, e = .file content mode) :
    t'.locate follow p = .ok (.taken (k ++ [s]) e) := by
  obtain ⟨htakes, dir, hstart, hw⟩ := takes_of_locate h
  rw [locate_of_takes htakes (hgrows.keepsWays.start? hstart)]
  exact walk_of_vacant hgrows hw hnew he

/-- Where a path ends at something, it is there. -/
theorem taken_of_locate (h : t.locate follow p = .ok (.taken k e)) :
    e = .directory ∧ t.hasDirectory k = true ∨ t.get? k = some e := by
  obtain ⟨-, dir, hstart, hw⟩ := takes_of_locate h
  exact walk_taken (hasDirectory_start hstart) hw

theorem get?_of_locate_file (h : t.locate follow p = .ok (.taken k (.file content mode))) :
    t.get? k = some (.file content mode) := by
  rcases taken_of_locate h with ⟨he, -⟩ | hget
  · cases he
  · exact hget

theorem get?_of_locate_link {target : String}
    (h : t.locate follow p = .ok (.taken k (.link target))) : t.get? k = some (.link target) := by
  rcases taken_of_locate h with ⟨he, -⟩ | hget
  · cases he
  · exact hget

theorem vacant_of_locate (h : t.locate follow p = .ok (.vacant dir s asDirectory)) :
    t.hasDirectory dir = true ∧ t.get? (dir ++ [s]) = none := by
  obtain ⟨-, start, hstart, hw⟩ := takes_of_locate h
  exact walk_vacant (hasDirectory_start hstart) hw

/-- A file written at a path goes to this place. -/
inductive WritesAt (t : FileTree) (p : Path) : Place → Prop
  /-- A file is there. -/
  | existing {k : Place} {content : Bytes} {mode : Nat}
    (there : t.locate true p = .ok (.taken k (.file content mode))) : WritesAt t p k
  /-- Nothing is there yet. -/
  | fresh {dir : Place} {s : String} (missing : t.locate true p = .ok (.vacant dir s false)) :
    WritesAt t p (dir ++ [s])

namespace WritesAt

/-- What is overwritten is a file. -/
theorem old_eq {old : Entry} (h : t.WritesAt p k) (hold : t.get? k = some old) :
    ∃ content mode, old = .file content mode := by
  cases h with
  | existing there =>
    rw [get?_of_locate_file there] at hold
    cases hold
    exact ⟨_, _, rfl⟩
  | fresh missing =>
    rw [(vacant_of_locate missing).2] at hold
    cases hold

theorem admits (h : t.WritesAt p k) (e : Entry) : t.admits k e = true := by
  cases h with
  | existing there => exact admits_of_file (get?_of_locate_file there) e
  | fresh missing =>
    obtain ⟨hdir, hnone⟩ := vacant_of_locate missing
    exact admits_of_vacant hdir hnone e

theorem grows (h : t.WritesAt p k) (content : Bytes) (mode : Nat) :
    t.Grows (t.put k (.file content mode)) :=
  grows_put fun _ hold => by
    obtain ⟨_, _, rfl⟩ := h.old_eq hold
    exact ⟨content, mode, rfl⟩

theorem get?_put (h : t.WritesAt p k) (content : Bytes) (mode : Nat) (l : Place) :
    (t.put k (.file content mode)).get? l =
      if l = k then some (.file content mode) else t.get? l :=
  FileTree.get?_put (h.admits _) l

/-- The path leads to the file that has been written. -/
theorem locate_put (h : t.WritesAt p k) (content : Bytes) (mode : Nat) :
    (t.put k (.file content mode)).locate true p = .ok (.taken k (.file content mode)) := by
  have hgrows := h.grows content mode
  have hnew := h.get?_put content mode k
  rw [if_pos rfl] at hnew
  cases h with
  | existing there =>
    obtain ⟨e, ⟨content', mode', rfl⟩, hloc⟩ := hgrows.locate there
    rw [get?_of_locate_file hloc] at hnew
    cases hnew
    exact hloc
  | fresh missing => exact locate_of_vacant hgrows missing hnew (.inr ⟨rfl, content, mode, rfl⟩)

theorem admits_put (h : t.WritesAt p k) (content : Bytes) (mode : Nat) (e : Entry) :
    (t.put k (.file content mode)).admits k e = true :=
  (WritesAt.existing (h.locate_put content mode)).admits e

/-- Writing the same file once more leaves nothing of the first time. -/
theorem put_put (h : t.WritesAt p k) (content content' : Bytes) (mode mode' : Nat) :
    (t.put k (.file content mode)).put k (.file content' mode') =
      t.put k (.file content' mode') := by
  have hagain := h.admits_put content mode (.file content' mode')
  have hfirst := h.admits (.file content mode)
  have hsecond := h.admits (.file content' mode')
  have hentries : ((t.put k (.file content mode)).put k (.file content' mode')).entries =
      (t.put k (.file content' mode')).entries := by
    rw [entries_put hagain, entries_put hfirst, entries_put hsecond]
    simp [List.filter_filter]
  have hhere : ((t.put k (.file content mode)).put k (.file content' mode')).here =
      (t.put k (.file content' mode')).here := by
    rw [here_put, here_put, here_put]
  exact eq_of_entries_of_here hentries hhere

end WritesAt

theorem locate_of_locateForWriting {spot : Spot} (h : t.locateForWriting p = .ok spot) :
    t.locate true p = .ok spot := by
  unfold locateForWriting at h
  split at h
  · split at h
    · split at h <;> cases h
    · exact h
  · exact h

theorem writeWithMode_ok (h : (t.writeWithMode p content mode).1 = .ok k) :
    t.WritesAt p k ∧
      ∃ mode', (t.writeWithMode p content mode).2 = t.put k (.file content mode') := by
  unfold writeWithMode at h ⊢
  split at h
  · cases h
  · rename_i hloc
    cases h
    exact ⟨.existing (locate_of_locateForWriting hloc), _, rfl⟩
  · cases h
  · cases h
  · rename_i hloc
    cases h
    exact ⟨.fresh (locate_of_locateForWriting hloc), _, rfl⟩

/-- What cannot be written is left as it is. -/
theorem writeWithMode_error {cause : FileError}
    (h : (t.writeWithMode p content mode).1 = .error cause) :
    (t.writeWithMode p content mode).2 = t := by
  unfold writeWithMode at h ⊢
  split at h <;> first | rfl | cases h

/-- The second tree is the first, or the first with a file where the path goes. -/
inductive Writes (t : FileTree) (p : Path) : FileTree → Prop
  | nothing : Writes t p t
  | file {k : Place} (place : t.WritesAt p k) (content : Bytes) (mode : Nat) :
    Writes t p (t.put k (.file content mode))

namespace Writes

variable {t'' : FileTree}

theorem grows (h : t.Writes p t') : t.Grows t' := by
  cases h with
  | nothing => exact .refl t
  | file place content mode => exact place.grows content mode

theorem keepsWays (h : t.Writes p t') : t'.KeepsWays t := by
  cases h with
  | nothing => exact (Grows.refl t).keepsWays
  | file => exact keepsWays_of_put ..

theorem trans (h : t.Writes p t') (h' : t'.Writes p t'') : t.Writes p t'' := by
  cases h with
  | nothing => exact h'
  | @file k place content mode =>
    cases h' with
    | nothing => exact .file place content mode
    | @file k' place' content' mode' =>
      -- after the first the path leads to its file, so the second goes there too
      have hk : k' = k := by
        have hloc := place.locate_put content mode
        cases place' with
        | existing there =>
          rw [there] at hloc
          cases hloc
          rfl
        | fresh missing =>
          rw [missing] at hloc
          cases hloc
      subst hk
      rw [place.put_put]
      exact .file place content' mode'

end Writes

theorem writes_writeWithMode (t : FileTree) (p : Path) (content : Bytes) (mode : Nat) :
    t.Writes p (t.writeWithMode p content mode).2 := by
  cases h : (t.writeWithMode p content mode).1 with
  | error cause =>
    rw [writeWithMode_error h]
    exact .nothing
  | ok k =>
    obtain ⟨place, mode', heq⟩ := writeWithMode_ok h
    rw [heq]
    exact .file place content mode'

theorem writes_write (t : FileTree) (p : Path) (content : Bytes) :
    t.Writes p (t.write p content).2 := by
  have h := writes_writeWithMode t p content plainMode
  unfold write
  exact h

theorem writes_setMode (t : FileTree) (p : Path) (mode : Nat) :
    t.Writes p (t.setMode p mode).2 := by
  unfold setMode
  split
  · exact .nothing
  · rename_i hfind
    exact .file (.existing (find?_eq_ok_iff.1 hfind)) _ _
  · exact .nothing

theorem writes_copy (t : FileTree) (source p : Path) : t.Writes p (t.copy source p).2 := by
  unfold copy
  split
  · exact .nothing
  · rename_i source content mode _
    have hwrites := writes_writeWithMode t p content mode
    rcases hw : t.writeWithMode p content mode with ⟨cause | goal, t'⟩
    · rw [hw] at hwrites
      exact hwrites
    · obtain ⟨place, mode', heq⟩ := writeWithMode_ok (congrArg Prod.fst hw)
      rw [hw] at heq
      simp only at heq ⊢
      rw [heq, place.put_put]
      exact .file place _ _
  · exact .nothing

theorem write_error {cause : FileError} (h : (t.write p content).1 = .error cause) :
    (t.write p content).2 = t := by
  unfold write at h ⊢
  cases hw : (t.writeWithMode p content plainMode).1 with
  | ok k =>
    simp only [hw] at h
    cases h
  | error cause => simp only [writeWithMode_error hw]

/-- What has been written is a file. -/
theorem isFile_of_write (h : (t.write p content).1 = .ok ()) :
    (t.write p content).2.isFile p = true := by
  unfold write at h ⊢
  cases hw : (t.writeWithMode p content plainMode).1 with
  | error cause =>
    simp only [hw] at h
    cases h
  | ok k =>
    obtain ⟨place, mode', heq⟩ := writeWithMode_ok hw
    simp only [heq]
    exact isFile_iff.2 ⟨k, content, mode', place.locate_put content mode'⟩

end LintHub.FileTree
