import LintHub.Proofs.Environment.Validity
import LintHub.Proofs.Lint

/-!
# What the answer to a request says

A request for a ready environment answers that it was valid already, or that it has been
set up. The first says that it is valid. The second does not: nobody looks at the packages
after the script, so that an environment without them is called ready, linters are started
in it, and the next request sets it up once more.

* `ensureReady_ok_isValid_iff`: just when the environment is valid after an answer.
* `ensureReady_ready_but_not_valid`: a script that succeeds and leaves nothing.
-/

namespace LintHub

variable {σ : Type}

namespace Provisioner

/-- **Validity after an answer.** An environment that was valid already is valid and as it was.
One that was set up has its marker, and it is valid just when the script left the packages.
The next request finds it ready just when it is valid, and so do the linters that are started
after the answer. -/
theorem ensureReady_ok_isValid_iff (v : Provisioner) (run : Runner σ) (s : Session σ) :
    let out := v.ensureReady run s
    (out.1 = .ok .already → out.2 = s ∧ v.layout.isValid s.tree = true) ∧
    (out.1 = .ok .provisioned →
      v.layout.isValid s.tree = false ∧
      out.2.tree.isFile v.layout.marker = true ∧
      v.layout.isValid out.2.tree = v.layout.hasPackages (v.afterScript run s).2.2) ∧
    (∀ a, out.1 = .ok a →
      (v.layout.isValid out.2.tree = true ↔
        a = .already ∨ v.layout.hasPackages (v.afterScript run s).2.2 = true) ∧
      ((v.ensureReady run out.2).1 = .ok .already ↔ v.layout.isValid out.2.tree = true) ∧
      ∀ (k : Checker) (files : List Path), k.provisioner = v → groupFiles files ≠ [] →
        k.lint run files s =
          match k.runBatches run (groupFiles files).length 0 (groupFiles files) out.2 with
          | (.ok runs, s') => (.ok runs, s'.tell (.done (groupFiles files).length))
          | (.error e, s') => (.error e, s')) := by
  intro out
  have halready : out.1 = .ok .already → out.2 = s ∧ v.layout.isValid s.tree = true := by
    intro h
    have hvalid := ensureReady_eq_already_iff.1 h
    have heq : v.ensureReady run s = (.ok .already, s) := ensureReady_of_isValid hvalid
    exact ⟨congrArg Prod.snd heq, hvalid⟩
  have hprovisioned : out.1 = .ok .provisioned →
      v.layout.isValid s.tree = false ∧ out.2.tree.isFile v.layout.marker = true ∧
        v.layout.isValid out.2.tree = v.layout.hasPackages (v.afterScript run s).2.2 := by
    intro h
    have hnot : v.layout.isValid s.tree = false := by
      rw [← Bool.not_eq_true]
      intro hvalid
      have heq : v.ensureReady run s = (.ok .already, s) := ensureReady_of_isValid hvalid
      cases h.symm.trans (congrArg Prod.fst heq)
    have heq : v.ensureReady run s = _ := ensureReady_of_not_isValid hnot
    -- the answer is that of a pass, which must have succeeded
    have hok : (v.reprovision run s).1 = .ok () := by
      have hmap : (v.reprovision run s).1.map (fun _ => Readiness.provisioned) =
        .ok .provisioned := (congrArg Prod.fst heq).symm.trans h
      cases hres : (v.reprovision run s).1 with
      | error e =>
        rw [hres] at hmap
        cases hmap
      | ok _ => rfl
    have htree : out.2 = (v.reprovision run s).2 := congrArg Prod.snd heq
    rw [htree]
    exact ⟨hnot, isValid_of_reprovision_ok hok⟩
  refine ⟨halready, hprovisioned, fun a ha => ⟨?_, ensureReady_eq_already_iff, ?_⟩⟩
  · cases a with
    | already =>
      obtain ⟨hsame, hvalid⟩ := halready ha
      simp [hsame, hvalid]
    | provisioned => simp [(hprovisioned ha).2.2]
  · rintro k files rfl hne
    exact Checker.lint_of_ok hne ha

theorem ensureReady_ready_but_not_valid :
    let s : Session Unit := ⟨(default : FileTree).put ["a.js"] (.file [] 0), (), [], []⟩
    let v := plain ⟨"/env"⟩ 1
    let out := v.ensureReady idle s
    let k : Checker := ⟨[⟨.esLint, true⟩], v, none, none⟩
    out.1 = .ok .provisioned ∧
      v.layout.isValid out.2.tree = false ∧
      (v.ensureReady idle out.2).2.calls.length = 2 ∧
      (k.lint idle [⟨"/a.js"⟩] s).2.calls.length = 2 ∧
      v.layout.isValid (k.lint idle [⟨"/a.js"⟩] s).2.tree = false := by
  decide +kernel

end Provisioner
end LintHub
