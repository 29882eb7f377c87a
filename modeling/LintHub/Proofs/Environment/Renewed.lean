import LintHub.Proofs.Environment.Failure
import LintHub.Proofs.FileTree.Renewal

/-!
# What the first two steps do

The directory is cleared, and then it is made. Clearing takes away what is in a real directory
at the end of the path, or only the link if a link stands there (`onTree_clear_keeps`). Making
adds directories where beginnings of the path lead (`madeAlong_create`). If both succeed, what
the path leads to is empty in three cases (`Renewable`): there is no `..` in it, or it led to a
real directory before (`renews_of_directory`), or nothing but its last part is missing when the
first step has been taken (`renews_of_parent`).
-/

namespace LintHub.Provisioner

open FileTree (SameOutside Begins)

variable {v : Provisioner} {t t' t₁ : FileTree} {k l : Place} {e : Entry}

theorem exists_of_find?_false (h : t.find? false v.layout.execDir = .ok (k, .directory)) :
    t.exists? v.layout.execDir = true := by
  have hloc := FileTree.find?_eq_ok_iff.1 h
  have hlead := FileTree.leadsTo_of_locate hloc
  unfold FileTree.exists?
  rw [FileTree.find?_eq_ok_iff.2 (hlead.locate (FileTree.takes_of_locate hloc).1)]
  rfl

/-- **Clearing keeps** all but a real directory at the end of the path, with what is in it, or a
link at the end of the path. -/
theorem onTree_clear_keeps (v : Provisioner) (h : t.get? l = some e) :
    (SetupStep.clear.onTree v t).2.get? l = some e ∨
      (∃ k, t.find? false v.layout.execDir = .ok (k, .directory) ∧ k <+: l) ∨
      ∃ target, t.find? false v.layout.execDir = .ok (l, .link target) := by
  cases hex : t.exists? v.layout.execDir with
  | false =>
    rw [onTree_clear_of_not_exists hex]
    exact .inl h
  | true =>
    rw [onTree_clear_of_exists hex]
    unfold FileTree.removeAll
    split
    · exact .inl h
    · rename_i k target hfind
      by_cases hl : l = k
      · exact .inr (.inr ⟨target, hl ▸ hfind⟩)
      -- below a link there is nothing
      · refine .inl ?_
        have hlink : t.get? k = some (.link target) :=
          FileTree.get?_of_locate_link (FileTree.find?_eq_ok_iff.1 hfind)
        have hnot : t.hasDirectory k = false := by
          rw [← Bool.not_eq_true, FileTree.hasDirectory_iff]
          rintro (rfl | hdir)
          · simp at hlink
          · rw [hlink] at hdir
            cases hdir
        rw [FileTree.get?_erase, if_neg, h]
        intro hpre
        rw [FileTree.get?_below hnot (Place.isBelow_iff.2 ⟨hpre, hl⟩)] at h
        cases h
    · exact .inl h
    · rename_i k hfind
      by_cases hpre : k <+: l
      · exact .inr (.inl ⟨k, hfind, hpre⟩)
      · refine .inl ?_
        split
        · rw [FileTree.get?_eraseBelow, Place.isBelow_eq_false_iff.2 fun h => absurd h hpre, h]
          rfl
        · rw [FileTree.get?_erase, if_neg hpre, h]

/-- Clearing adds nothing. -/
theorem get?_of_onTree_clear (h : (SetupStep.clear.onTree v t).2.get? l = some e) :
    t.get? l = some e := by
  cases hex : t.exists? v.layout.execDir with
  | false => rwa [onTree_clear_of_not_exists hex] at h
  | true =>
    rw [onTree_clear_of_exists hex] at h
    unfold FileTree.removeAll at h
    split at h
    · exact h
    · rw [FileTree.get?_erase] at h
      split at h
      · cases h
      · exact h
    · exact h
    · split at h
      · rw [FileTree.get?_eraseBelow] at h
        split at h
        · cases h
        · exact h
      · rw [FileTree.get?_erase] at h
        split at h
        · cases h
        · exact h

theorem madeAlong_create (v : Provisioner) (t : FileTree) :
    t.MadeAlong v.layout.execDir (SetupStep.create.onTree v t).2 := by
  rw [onTree_create]
  exact FileTree.madeAlong_makeDirectories t v.layout.execDir

/-- **A real directory is renewed**, whatever its path. -/
theorem renews_of_directory (hfind : t.find? false v.layout.execDir = .ok (k, .directory)) :
    v.Renews t := by
  intro t' h k' hlead l hl
  obtain ⟨t₁, hclear, hcreate⟩ := SetupStep.allOnTree_pair_ok.1 h
  rw [onTree_clear_of_exists (exists_of_find?_false hfind)] at hclear
  obtain ⟨hremoved, rfl⟩ := Prod.mk.inj hclear
  obtain ⟨hagree, hlead'⟩ := FileTree.agree_of_renewed hfind (mapError_eq_ok_iff.1 hremoved)
    (onTree_create_eq_ok_iff.1 hcreate)
  obtain rfl := hlead.unique hlead'
  rw [hagree.get?, FileTree.get?_eraseBelow, hl]
  rfl

/-- **What stands straight below a directory is renewed**, whatever its path: when the first step
has been taken, the directory above it is there, so no other is made. -/
theorem renews_of_parent (hne : v.layout.execDir.text ≠ "") {above : Path}
    (hparent : v.layout.execDir.parent? = some above)
    (habove : (SetupStep.clear.onTree v t).2.isDirectory above = true) : v.Renews t := by
  intro t' h k' hlead l hl
  obtain ⟨t₁, hclear, hcreate⟩ := SetupStep.allOnTree_pair_ok.1 h
  rw [hclear] at habove
  obtain ⟨k, hmakes⟩ := FileTree.makes_of_parent hne (isDirectory_of_clear_ok hclear) hparent
    habove (onTree_create_eq_ok_iff.1 hcreate)
  obtain rfl := hlead.unique hmakes.leads
  exact hmakes.empty l hl

/-- The path is such that no directory uncovers another when it is made. -/
inductive Renewable (v : Provisioner) (t : FileTree) : Prop
  /-- No `..` leads out of a directory that is made on the way. -/
  | straight (noUp : .up ∉ FileTree.moves v.layout.execDir)
  /-- The path leads to a real directory. -/
  | there {k : Place} (real : t.find? false v.layout.execDir = .ok (k, .directory))
  /-- All that is missing is the last part, at the latest when a link by its name is gone. -/
  | below {above : Path} (parent : v.layout.execDir.parent? = some above)
    (stays : (SetupStep.clear.onTree v t).2.isDirectory above = true)

theorem Renewable.renews (hne : v.layout.execDir.text ≠ "") (h : v.Renewable t) : v.Renews t := by
  cases h with
  | straight noUp => exact renews_of_no_up hne noUp t
  | there real => exact renews_of_directory real
  | below parent stays => exact renews_of_parent hne parent stays

/-- The first two steps have left an empty directory, at the end of the path. -/
structure Renewed (v : Provisioner) (t t' : FileTree) (k : Place) : Prop where
  steps : SetupStep.allOnTree v [.clear, .create] t = (.ok (), t')
  leads : t'.LeadsTo v.layout.execDir k
  empty : ∀ l, Place.isBelow l k = true → t'.get? l = none

theorem exists_renewed (hne : v.layout.execDir.text ≠ "") (hrenews : v.Renews t)
    (h : SetupStep.allOnTree v [.clear, .create] t = (.ok (), t')) : ∃ k, v.Renewed t t' k := by
  obtain ⟨t₁, -, hcreate⟩ := SetupStep.allOnTree_pair_ok.1 h
  obtain ⟨k, hlead⟩ := leadsTo_of_create_ok hne hcreate
  exact ⟨k, h, hlead, hrenews t' h k hlead⟩

/-- A file that is there then was there before. -/
theorem Renewed.file_before (h : v.Renewed t t' k) {content : Bytes} {mode : Nat}
    (hl : t'.get? l = some (.file content mode)) : t.get? l = some (.file content mode) := by
  obtain ⟨t₁, hclear, hcreate⟩ := SetupStep.allOnTree_pair_ok.1 h.steps
  have hmade := madeAlong_create v t₁
  rw [hcreate] at hmade
  rcases hmade.adds.get? l with heq | ⟨-, hnew⟩
  · refine get?_of_onTree_clear (v := v) ?_
    rw [hclear, ← hl, heq]
  · rw [hl] at hnew
    cases hnew

/-- The payloads are put into a directory that has been renewed. -/
theorem renewed_of_prepare_ok (hne : v.layout.execDir.text ≠ "") (hrenews : v.Renews t)
    (h : v.prepare t = (.ok (), t')) :
    ∃ t₂ k, v.Renewed t t₂ k ∧
      SetupStep.allOnTree v (v.bundle.payloads.map .extract) t₂ = (.ok (), t') := by
  obtain ⟨t₂, hfirst, heq⟩ := exists_renewal_of_prepare_ok (congrArg Prod.fst h)
  obtain ⟨k, hrenewed⟩ := exists_renewed hne hrenews hfirst
  exact ⟨t₂, k, hrenewed, heq.symm.trans h⟩

end LintHub.Provisioner
