import LintHub.Launch.Replay
import LintHub.Proofs.Environment.Repeated
import LintHub.Proofs.FileTree.Along

/-!
# Setup that goes as prepared

A runner that answers the setup calls from a prepared sequence: a call cannot be started, or
it ends with some output and leaves some packages. Such setup takes nothing away
(`onlyAdds_scripted`) and keeps to the environment's directory (`confined_scripted`).
-/

namespace LintHub

/-- Answers the call with each number as prepared. -/
def scripted (script : Nat → Except LaunchCause (Output × Nat)) : Runner Nat := fun i count t =>
  match script count with
  | .error cause => (.error ⟨.start, i.program, cause⟩, count + 1, t)
  | .ok (output, packages) => (.ok output, count + 1, Replay.addPackages t i.workingDir packages)

namespace Replay

variable {t t' : FileTree} {dir : Path} {k : Place}

/-- The path of a package. -/
def packagePath (dir : Path) (n : Nat) : Path :=
  (dir.joinText Layout.modulesName).joinText ("p" ++ toString n)

theorem addPackages_succ (t : FileTree) (dir : Path) (n : Nat) :
    addPackages t dir (n + 1) = ((addPackages t dir n).makeDirectories (packagePath dir n)).2 := by
  unfold addPackages
  rw [List.range_succ, List.foldl_append]
  rfl

theorem adds_addPackages (t : FileTree) (dir : Path) (n : Nat) :
    t.AddsDirectories (addPackages t dir n) := by
  induction n with
  | zero => exact .refl t
  | succ n ih =>
    rw [addPackages_succ]
    exact ih.trans (FileTree.makeDirectories_spec _ _).adds

theorem isName_package (n : Nat) : FileTree.IsName ("p" ++ toString n) := by
  have hchars : ("p" ++ toString n).toList = 'p' :: Nat.toDigits 10 n := by
    rw [String.toList_append, show toString n = n.repr from rfl, Nat.toList_repr]
    rfl
  constructor
  · rw [hchars, List.mem_cons, not_or]
    refine ⟨by decide, fun hmem => ?_⟩
    exact absurd (Nat.isDigit_of_mem_toDigits (by decide) (by decide) hmem) (by decide)
  · have hmove : FileTree.Move.ofPiece ('p' :: Nat.toDigits 10 n) =
        .name (String.ofList ('p' :: Nat.toDigits 10 n)) := rfl
    rw [hchars, hmove, ← hchars, String.ofList_toList]

theorem start?_packagePath (t : FileTree) (dir : Path) (n : Nat) :
    t.start? (packagePath dir n) = t.start? dir := by
  rw [packagePath, FileTree.start?_joinText _ _ (isName_package n),
    FileTree.start?_joinText _ _ FileTree.isName_modulesName]

theorem counting_packagePath (dir : Path) (n : Nat) :
    FileTree.counting (FileTree.moves (packagePath dir n)) =
      FileTree.counting (FileTree.moves dir) ++
        [Layout.modulesName, "p" ++ toString n].map .name := by
  rw [packagePath, FileTree.counting_joinText _ (isName_package n),
    FileTree.counting_joinText _ FileTree.isName_modulesName, List.append_assoc]
  rfl

/-- Packages stand in the directory of packages, and so does everything that is made for them. -/
theorem places_addPackages (hlead : t.LeadsTo dir k) (hlinks : t.Unlinked k) (n : Nat) {l : Place}
    (hnew : (addPackages t dir n).get? l ≠ t.get? l) : ∃ ns, l = k ++ Layout.modulesName :: ns := by
  induction n with
  | zero => exact absurd rfl hnew
  | succ n ih =>
    have hadds := adds_addPackages t dir n
    obtain ⟨-, hplaces⟩ := (FileTree.madeAlong_makeDirectories (addPackages t dir n)
      (packagePath dir n)).places (hadds.grows.keepsWays.leadsTo hlead)
      (hlinks.addsDirectories hadds) (start?_packagePath · dir n) (counting_packagePath dir n)
    rw [addPackages_succ] at hnew
    by_cases hsame : ((addPackages t dir n).makeDirectories (packagePath dir n)).2.get? l =
        (addPackages t dir n).get? l
    · exact ih (hsame ▸ hnew)
    · obtain ⟨ns, hne, hpre, rfl⟩ := hplaces l hsame
      cases ns with
      | nil => exact absurd rfl hne
      | cons s ns =>
        obtain ⟨rfl, -⟩ := List.cons_prefix_cons.1 hpre
        exact ⟨ns, rfl⟩

end Replay

namespace Provisioner

variable (v : Provisioner) (script : Nat → Except LaunchCause (Output × Nat))

/-- What prepared setup does to the files: it leaves so many packages, perhaps none. -/
theorem scripted_spec (count : Nat) (t : FileTree) :
    ∃ n, (scripted script v.setupCall count t).2.2 = Replay.addPackages t v.layout.execDir n := by
  unfold scripted
  split
  · exact ⟨0, rfl⟩
  · exact ⟨_, rfl⟩

/-- **Prepared setup** takes nothing away. -/
theorem onlyAdds_scripted : v.OnlyAdds (scripted script) := by
  intro count t
  obtain ⟨n, heq⟩ := v.scripted_spec script count t
  rw [heq]
  exact (Replay.adds_addPackages t v.layout.execDir n).grows

/-- There are no links where there is nothing but files. -/
theorem unlinked_of_unmarked {v : Provisioner} {t : FileTree} {k : Place}
    (hlead : t.LeadsTo v.layout.execDir k) (h : v.layout.Unmarked t) : t.Unlinked k := by
  intro l target hl hget
  obtain ⟨⟨rest, rfl⟩, hne⟩ := Place.isBelow_iff.1 hl
  cases rest with
  | nil => exact hne (List.append_nil k)
  | cons s rest =>
    cases rest with
    | nil =>
      obtain ⟨-, _, _, heq⟩ := h k hlead s _ hget
      cases heq
    | cons s' rest =>
      -- anything deeper down needs a directory right below
      have hbelow : Place.isBelow (k ++ s :: s' :: rest) (k ++ [s]) = true := by
        refine Place.isBelow_iff.2 ⟨⟨s' :: rest, by simp⟩, by simp⟩
      have hthere := FileTree.hasDirectory_of_below hbelow hget
      rcases FileTree.hasDirectory_iff.1 hthere with hroot | hdir
      · simp at hroot
      · obtain ⟨-, _, _, heq⟩ := h k hlead s _ hdir
        cases heq

/-- Prepared packages change nothing by another name than that of their directory. -/
theorem get?_addPackages {v : Provisioner} {t : FileTree} {k l : Place}
    (hlead : t.LeadsTo v.layout.execDir k) (h : v.layout.Unmarked t) (n : Nat)
    (hl : ∀ ns, l ≠ k ++ Layout.modulesName :: ns) :
    (Replay.addPackages t v.layout.execDir n).get? l = t.get? l := by
  by_contra hnew
  obtain ⟨ns, heq⟩ := Replay.places_addPackages hlead (unlinked_of_unmarked hlead h) n hnew
  exact hl ns heq

/-- Prepared packages leave nothing by the name of the marker. -/
theorem get?_marker_addPackages {v : Provisioner} {t : FileTree} {k : Place}
    (hlead : t.LeadsTo v.layout.execDir k) (h : v.layout.Unmarked t) (n : Nat) :
    (Replay.addPackages t v.layout.execDir n).get? (k ++ [Layout.markerName]) = none := by
  rw [get?_addPackages hlead h n fun ns hplace => ?_, Option.eq_none_iff_forall_ne_some]
  · intro e hget
    exact (h k hlead _ e hget).1 rfl
  · have hname := List.append_cancel_left hplace
    rw [List.cons.injEq] at hname
    exact absurd hname.1 (by decide)

/-- **Prepared setup** keeps to the environment's directory. -/
theorem confined_scripted : v.Confined (scripted script) := by
  constructor
  · intro count t k hlead h
    obtain ⟨n, heq⟩ := v.scripted_spec script count t
    rw [heq]
    refine ⟨(Replay.adds_addPackages t v.layout.execDir n).here, fun l hl => ?_⟩
    refine get?_addPackages hlead h n fun ns hplace => ?_
    rw [hplace, Place.isBelow_iff.2 ⟨List.prefix_append _ _, by simp⟩] at hl
    cases hl
  · intro count t k hlead h
    obtain ⟨n, heq⟩ := v.scripted_spec script count t
    rw [heq]
    exact get?_marker_addPackages hlead h n

end Provisioner
end LintHub
