import LintHub.Proofs.Environment.Phases
import LintHub.Proofs.FileTree.Removing

/-!
# Valid environments

An environment is valid when its marker is a file and it has its packages. Both last when
the tree grows (`isValid_of_grows`), and the marker sees nothing of the packages, nor they
of it. So an answer to a request for a ready environment says this much about validity:

* `ensureReady_ok_isValid_iff`: an environment that was set up is valid just when the script
  left the packages; that is not checked.
-/

namespace LintHub

variable {σ : Type}

namespace FileTree

theorem isName_markerName : IsName Layout.markerName := ⟨by decide, by rfl⟩

theorem isName_modulesName : IsName Layout.modulesName := ⟨by decide, by rfl⟩

end FileTree

theorem Payload.writes_onTree (p : Payload) (dir : Path) (t : FileTree) :
    t.Writes (dir.joinText p.name) (p.onTree dir t).2 := by
  unfold Payload.onTree
  simp only
  split
  · rename_i content _
    have hwrite := FileTree.writes_write t (dir.joinText p.name) content
    generalize t.write (dir.joinText p.name) content = written at hwrite ⊢
    obtain ⟨cause | _, t'⟩ := written
    · simpa only using hwrite
    · simp only at hwrite ⊢
      exact hwrite.trans (FileTree.writes_setMode t' (dir.joinText p.name) FileTree.programMode)
  · split
    · simp only
      exact FileTree.writes_copy t _ _
    · exact .nothing

namespace Layout

variable {l : Layout} {t t' : FileTree}

/-- Whether the directory of packages is there, with enough of them. -/
def hasPackages (l : Layout) (t : FileTree) : Bool :=
  t.isDirectory l.modulesDir && decide (l.minModules ≤ l.moduleCount t)

theorem isValid_eq (l : Layout) (t : FileTree) :
    l.isValid t = (t.isFile l.marker && l.hasPackages t) := by
  unfold isValid hasPackages
  rw [Bool.and_assoc]

theorem isValid_of_no_marker (h : t.isFile l.marker = false) : l.isValid t = false := by
  rw [isValid_eq, h, Bool.false_and]

/-- No package is lost where no directory is. -/
theorem moduleCount_le (h : t.KeepsWays t') : l.moduleCount t ≤ l.moduleCount t' := by
  unfold moduleCount
  cases hdir : t.directoryAt l.modulesDir with
  | error e => exact Nat.zero_le _
  | ok k =>
    rw [h.directoryAt hdir]
    simp only
    rw [FileTree.countP_children, FileTree.countP_children]
    exact h.length_directoriesIn_le k

theorem hasPackages_of_keepsWays (h : t.KeepsWays t') (ht : l.hasPackages t = true) :
    l.hasPackages t' = true := by
  unfold hasPackages at ht ⊢
  rw [Bool.and_eq_true, decide_eq_true_eq] at ht ⊢
  exact ⟨h.isDirectory ht.1, ht.2.trans (moduleCount_le h)⟩

/-- Packages are seen along directories and links only. -/
theorem hasPackages_eq (h : t.KeepsWays t') (h' : t'.KeepsWays t) :
    l.hasPackages t = l.hasPackages t' :=
  Bool.eq_iff_iff.2 ⟨hasPackages_of_keepsWays h, hasPackages_of_keepsWays h'⟩

/-- **A valid environment stays valid** when the tree grows. -/
theorem isValid_of_grows (h : t.Grows t') (ht : l.isValid t = true) : l.isValid t' = true := by
  rw [isValid_eq, Bool.and_eq_true] at ht ⊢
  exact ⟨h.isFile ht.1, hasPackages_of_keepsWays h.keepsWays ht.2⟩

/-- The marker is in the directory that the environment's path leads to. -/
theorem leadsTo_of_isFile_marker (h : t.isFile l.marker = true) :
    FileTree.Takes l.marker ∧ ∃ k, t.LeadsTo l.execDir k ∧ ∃ e, t.get? (k ++ [markerName]) = some e := by
  obtain ⟨k, content, mode, hloc⟩ := FileTree.isFile_iff.1 h
  obtain ⟨dir, m, k', hstart, hgo, hw⟩ :=
    FileTree.leadsTo_of_locate_joinText FileTree.isName_markerName hloc
  refine ⟨(FileTree.takes_of_locate hloc).1, k', ⟨dir, m, hstart, hgo⟩, ?_⟩
  rw [FileTree.walk_name] at hw
  split at hw
  · cases hw
  · split at hw
    · cases hw
    · rename_i there
      exact ⟨_, there⟩
    · rename_i there
      exact ⟨_, there⟩
    · rename_i there
      exact ⟨_, there⟩

end Layout

namespace Provisioner

variable {v : Provisioner} {run : Runner σ} {s : Session σ} {t : FileTree}

theorem mark_fst (v : Provisioner) (t : FileTree) :
    (v.mark t).1 =
      (t.write v.layout.marker (Text.encode v.stamp.toList)).1.mapError
        (.file v.layout.marker) := by
  simp only [mark, SetupStep.onTree]

theorem mark_snd (v : Provisioner) (t : FileTree) :
    (v.mark t).2 = (t.write v.layout.marker (Text.encode v.stamp.toList)).2 := by
  simp only [mark, SetupStep.onTree]

theorem writes_mark (v : Provisioner) (t : FileTree) : t.Writes v.layout.marker (v.mark t).2 := by
  rw [mark_snd]
  exact FileTree.writes_write t v.layout.marker (Text.encode v.stamp.toList)

theorem isFile_of_mark (h : (v.mark t).1 = .ok ()) : (v.mark t).2.isFile v.layout.marker = true := by
  rw [mark_fst] at h
  rw [mark_snd]
  have hw : (t.write v.layout.marker (Text.encode v.stamp.toList)).1 = .ok () := by
    revert h
    cases (t.write v.layout.marker (Text.encode v.stamp.toList)).1 with
    | error e => exact nofun
    | ok _ => exact fun _ => rfl
  exact FileTree.isFile_of_write hw

/-- The marker changes nothing about the packages. -/
theorem hasPackages_mark (v : Provisioner) (t : FileTree) :
    v.layout.hasPackages (v.mark t).2 = v.layout.hasPackages t :=
  (Layout.hasPackages_eq (writes_mark v t).grows.keepsWays (writes_mark v t).keepsWays).symm

/-- A script that takes nothing away. -/
def OnlyAdds (v : Provisioner) (run : Runner σ) : Prop :=
  ∀ (state : σ) (t : FileTree), t.Grows (run v.setupCall state t).2.2

/-- Only the first step takes anything away. -/
theorem grows_onTree {step : SetupStep} (h : step ≠ .clear) (t : FileTree) :
    t.Grows (step.onTree v t).2 := by
  cases step with
  | clear => exact absurd rfl h
  | create =>
    simp only [SetupStep.onTree]
    exact (FileTree.makeDirectories_spec t v.layout.execDir).adds.grows
  | extract p => exact (p.writes_onTree v.layout.execDir t).grows
  | script => exact .refl t
  | mark => exact (writes_mark v t).grows

theorem step_grows (hadds : v.OnlyAdds run) {step : SetupStep} (h : step ≠ .clear)
    (s : Session σ) : s.tree.Grows (v.step run step s).2.tree := by
  by_cases hscript : step = .script
  · subst hscript
    rw [script_apply]
    exact hadds s.runner s.tree
  · obtain ⟨remarks, -, heq⟩ := step_apply v run hscript s
    rw [heq]
    exact grows_onTree h s.tree

/-- A pass that succeeded went through all its phases. -/
theorem reprovision_ok (h : (v.reprovision run s).1 = .ok ()) :
    (v.prepare s.tree).1 = .ok () ∧ verdict (v.afterScript run s).1 = .ok () ∧
      (v.mark (v.afterScript run s).2.2).1 = .ok () ∧
      (v.reprovision run s).2.tree = (v.mark (v.afterScript run s).2.2).2 := by
  cases hprepare : (v.prepare s.tree).1 with
  | error e =>
    rw [(reprovision_of_unprepared hprepare).1] at h
    cases h
  | ok _ =>
    cases hscript : verdict (v.afterScript run s).1 with
    | error e =>
      rw [(reprovision_of_script_error hprepare hscript).1] at h
      cases h
    | ok _ =>
      obtain ⟨hres, htree, -, -⟩ := reprovision_of_script_ok hprepare hscript
      exact ⟨rfl, rfl, hres ▸ h, htree⟩

/-- After a pass that succeeded the marker is a file, and the packages are those that the
script left. -/
theorem isValid_of_reprovision_ok (h : (v.reprovision run s).1 = .ok ()) :
    (v.reprovision run s).2.tree.isFile v.layout.marker = true ∧
      v.layout.isValid (v.reprovision run s).2.tree =
        v.layout.hasPackages (v.afterScript run s).2.2 := by
  obtain ⟨-, -, hmark, htree⟩ := reprovision_ok h
  have hfile := isFile_of_mark hmark
  rw [htree]
  exact ⟨hfile, by rw [Layout.isValid_eq, hfile, hasPackages_mark]; rfl⟩

/-- An environment at this path that wants so many packages, set up from four empty payloads. -/
def plain (execDir : Path) (minModules : Nat) : Provisioner where
  layout := ⟨execDir, minModules⟩
  bundle := ⟨⟨"a", .bytes []⟩, ⟨"b", .bytes []⟩, ⟨"c", .bytes []⟩, ⟨"d", .bytes []⟩⟩
  stamp := "now"

/-- Starts any program to no effect. -/
def idle : Runner Unit := fun _ u t => (.ok ⟨"", "", some 0⟩, u, t)

end Provisioner
end LintHub
