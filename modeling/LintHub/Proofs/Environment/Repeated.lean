import LintHub.Proofs.Environment.Failure
import LintHub.Proofs.Environment.InTurn

/-!
# Passes one after another

A script that changes nothing outside of the environment's directory (`Confined`) leaves the
next pass what the first one found: the directory is removed and made again, the tree is the
same as the first time (`prepare_again`), and so the payloads are put in place again.

* `regular_afterPasses`: if the first preparations succeed, those of every later pass do, and
  each pass ends as its script does.
-/

namespace LintHub

variable {σ : Type}

namespace FileTree.Agree

variable {t t' : FileTree}

theorem onTree_extract (h : t.Agree t') (p : Payload) (dir : Path) :
    SameChange (p.onTree dir t) (p.onTree dir t') := by
  unfold Payload.onTree
  simp only
  split
  · rename_i content _
    obtain ⟨e, s, s', hx, hy, hs⟩ | ⟨_, s, s', hx, hy, hs⟩ :=
      (h.write (dir.joinText p.name) content).cases_eq
    · rw [hx, hy]
      exact ⟨rfl, hs⟩
    · obtain ⟨hresult, htree⟩ := hs.setMode (dir.joinText p.name) programMode
      rw [hx, hy]
      refine ⟨?_, htree⟩
      simp only
      rw [hresult]
  · rename_i source _
    rw [h.isFile]
    split
    · obtain ⟨hresult, htree⟩ := h.copy source (dir.joinText p.name)
      refine ⟨?_, htree⟩
      simp only
      rw [hresult]
    · exact ⟨rfl, h⟩

/-- Payloads are put in place alike. -/
theorem allOnTree_extract (h : t.Agree t') (v : Provisioner) (payloads : List Payload) :
    SameChange (SetupStep.allOnTree v (payloads.map .extract) t)
      (SetupStep.allOnTree v (payloads.map .extract) t') := by
  induction payloads generalizing t t' with
  | nil => exact ⟨rfl, h⟩
  | cons p payloads ih =>
    rw [List.map_cons, SetupStep.allOnTree_cons, SetupStep.allOnTree_cons]
    simp only [SetupStep.onTree]
    obtain ⟨e, s, s', hx, hy, hs⟩ | ⟨_, s, s', hx, hy, hs⟩ :=
      (h.onTree_extract p v.layout.execDir).cases_eq
    · rw [hx, hy]
      exact ⟨rfl, hs⟩
    · rw [hx, hy]
      exact ih hs

end FileTree.Agree

theorem Layout.Unmarked.agree {l : Layout} {t t' : FileTree} (h : l.Unmarked t)
    (hsame : t.Agree t') : l.Unmarked t' := by
  intro k hlead name e hget
  rw [hsame.get?] at hget
  exact h k (hsame.symm.grows.keepsWays.leadsTo hlead) name e hget

namespace Provisioner

open FileTree (SameOutside)

variable {v : Provisioner} {run : Runner σ} {s : Session σ} {t t' t₁ : FileTree} {k : Place}

/-- A script that is started in a directory with nothing but files in it, none of them the
marker, changes nothing outside and leaves nothing by the name of the marker. -/
structure Confined (v : Provisioner) (run : Runner σ) : Prop where
  outside : ∀ (state : σ) (t : FileTree) (k : Place), t.LeadsTo v.layout.execDir k →
    v.layout.Unmarked t → SameOutside k t (run v.setupCall state t).2.2
  marker : ∀ (state : σ) (t : FileTree) (k : Place), t.LeadsTo v.layout.execDir k →
    v.layout.Unmarked t → (run v.setupCall state t).2.2.get? (k ++ [Layout.markerName]) = none

/-- The pass that begins here gets to the script and ends as the script does. -/
structure Regular (v : Provisioner) (run : Runner σ) (s : Session σ) : Prop where
  prepared : (v.prepare s.tree).1 = .ok ()
  result : (v.reprovision run s).1 = verdict (v.afterScript run s).1
  valid : v.layout.isValid (v.reprovision run s).2.tree =
    ((verdict (v.afterScript run s).1).isOk && v.layout.hasPackages (v.afterScript run s).2.2)

/-- Whatever is in the directory, the first two steps make it again. -/
theorem renew_again (hp : FileTree.Takes v.layout.execDir) (hmakes : t₁.Makes v.layout.execDir t k)
    (h : SameOutside k t t') :
    ∃ t'', t.Agree t'' ∧ SetupStep.allOnTree v [.clear, .create] t' = (.ok (), t'') := by
  have hne : v.layout.execDir.text ≠ "" := by simpa using hp.nonempty
  obtain ⟨t₀, hlast⟩ := hmakes.last
  obtain ⟨hex, hremove⟩ := FileTree.removeAll_again hp hlast hmakes.leads hmakes.empty h
  have hclear : SetupStep.clear.onTree v t' = (.ok (), t'.erase k) := by
    rw [onTree_clear_of_exists hex, hremove]
    rfl
  obtain ⟨t'', hagree, hmade⟩ := FileTree.makeDirectories_again hne hlast hmakes.leads h
  exact ⟨t'', hagree,
    SetupStep.allOnTree_pair_ok.2 ⟨t'.erase k, hclear, onTree_create_eq_ok_iff.2 hmade⟩⟩

/-- **The same preparations** as the first time. -/
theorem prepare_again (hp : FileTree.Takes v.layout.execDir)
    (hmakes : t₁.Makes v.layout.execDir t k) (h : SameOutside k t t') :
    FileTree.SameChange (SetupStep.allOnTree v (v.bundle.payloads.map .extract) t)
      (v.prepare t') := by
  obtain ⟨t'', hagree, hrenewed⟩ := renew_again hp hmakes h
  rw [prepare_of_renewal_ok hrenewed]
  exact hagree.allOnTree_extract v v.bundle.payloads

/-- Payloads go into the directory. -/
theorem sameOutside_extract {payloads : List Payload}
    (hnames : ∀ p ∈ payloads, FileTree.IsName p.name ∧ p.name ≠ Layout.markerName)
    (h : v.layout.Unmarked t) (hlead : t.LeadsTo v.layout.execDir k) :
    SameOutside k t (SetupStep.allOnTree v (payloads.map .extract) t).2 := by
  induction payloads generalizing t with
  | nil => exact .refl k t
  | cons p payloads ih =>
    obtain ⟨hname, hne⟩ := hnames p (List.mem_cons_self ..)
    have hwrites := p.writes_onTree v.layout.execDir t
    have hp := hwrites.sameOutside hname hlead fun target hlink => by
      obtain ⟨-, _, _, heq⟩ := h k hlead p.name _ hlink
      cases heq
    rw [List.map_cons, SetupStep.allOnTree_cons]
    simp only [SetupStep.onTree]
    generalize p.onTree v.layout.execDir t = extracted at hwrites hp ⊢
    obtain ⟨e | _, t'⟩ := extracted
    · exact hp
    · exact hp.trans (ih (fun q hq => hnames q (List.mem_cons_of_mem _ hq))
        (h.writes hname hne hwrites) (hwrites.grows.keepsWays.leadsTo hlead))

/-- The marker is written where nothing stands by its name. -/
theorem mark_of_vacant (hmarker : FileTree.Takes v.layout.marker)
    (hlead : t.LeadsTo v.layout.execDir k) (hnone : t.get? (k ++ [Layout.markerName]) = none) :
    (v.mark t).1 = .ok () ∧ SameOutside k t (v.mark t).2 := by
  constructor
  · rw [mark_fst]
    unfold Layout.marker at hmarker ⊢
    rw [FileTree.write_joinText_ok FileTree.isName_markerName hmarker hlead (by decide) hnone]
    rfl
  · refine (writes_mark v t).sameOutside FileTree.isName_markerName hlead fun target hlink => ?_
    rw [hnone] at hlink
    cases hlink

/-- **A pass that is prepared like the first** ends as its script does, and changes nothing
outside of the directory. -/
theorem pass_again (hnames : v.PlainNames) (hconfined : v.Confined run)
    (hmarker : FileTree.Takes v.layout.marker) (hmakes : t₁.Makes v.layout.execDir t k)
    (hfilled : (SetupStep.allOnTree v (v.bundle.payloads.map .extract) t).1 = .ok ())
    (hsame : FileTree.SameChange (SetupStep.allOnTree v (v.bundle.payloads.map .extract) t)
      (v.prepare s.tree)) :
    v.Regular run s ∧ SameOutside k t (v.reprovision run s).2.tree := by
  have hunmarked : v.layout.Unmarked t := fun k' hlead name e hget => by
    obtain rfl := hlead.unique hmakes.leads
    rw [hmakes.empty _ (FileTree.isBelow_append_singleton k' name)] at hget
    cases hget
  have hleads {t' : FileTree} (h : SameOutside k t t') : t'.LeadsTo v.layout.execDir k :=
    (h.grows hmakes.empty).keepsWays.leadsTo hmakes.leads
  -- the tree in which the script is started
  have hextract := sameOutside_extract hnames hunmarked hmakes.leads
  have hprepared : SameOutside k t (v.prepare s.tree).2 :=
    hextract.trans ⟨hsame.tree.here, fun l _ => hsame.tree.get? l⟩
  have hstart : v.layout.Unmarked (v.prepare s.tree).2 :=
    (unmarked_allOnTree hnames hunmarked).agree hsame.tree
  -- the tree that it leaves
  have hscript : SameOutside k t (v.afterScript run s).2.2 :=
    hprepared.trans (hconfined.outside s.runner _ k (hleads hprepared) hstart)
  have hvacant : (v.afterScript run s).2.2.get? (k ++ [Layout.markerName]) = none :=
    hconfined.marker s.runner _ k (hleads hprepared) hstart
  have hok : (v.prepare s.tree).1 = .ok () := hsame.result.trans hfilled
  cases hverdict : verdict (v.afterScript run s).1 with
  | error e =>
    obtain ⟨hres, htree, -, -⟩ := reprovision_of_script_error hok hverdict
    -- without a marker the environment is not valid, whatever packages there are
    have hfile : (v.afterScript run s).2.2.isFile v.layout.marker = false := by
      rw [← Bool.not_eq_true]
      intro hfile
      obtain ⟨-, k', hlead, e, hget⟩ := Layout.leadsTo_of_isFile_marker hfile
      obtain rfl := hlead.unique (hleads hscript)
      rw [hvacant] at hget
      cases hget
    refine ⟨⟨hok, by rw [hres, hverdict], ?_⟩, by rw [htree]; exact hscript⟩
    rw [htree, hverdict, Layout.isValid_of_no_marker hfile]
    rfl
  | ok _ =>
    obtain ⟨hres, htree, -, -⟩ := reprovision_of_script_ok hok hverdict
    obtain ⟨hmark, hmarked⟩ := mark_of_vacant hmarker (hleads hscript) hvacant
    have hdone : (v.reprovision run s).1 = .ok () := hres.trans hmark
    refine ⟨⟨hok, by rw [hdone, hverdict], ?_⟩, by rw [htree]; exact hscript.trans hmarked⟩
    rw [(isValid_of_reprovision_ok hdone).2, hverdict]
    rfl

/-- From a tree on in which the directory has been made, every pass is like the next. -/
theorem regular_of_made (hnames : v.PlainNames) (hconfined : v.Confined run)
    (hmarker : FileTree.Takes v.layout.marker) (hp : FileTree.Takes v.layout.execDir)
    (hmakes : t₁.Makes v.layout.execDir t k)
    (hfilled : (SetupStep.allOnTree v (v.bundle.payloads.map .extract) t).1 = .ok ())
    (h : SameOutside k t s.tree) (j : Nat) : v.Regular run (v.afterPasses run j s) := by
  induction j generalizing s with
  | zero => exact (pass_again hnames hconfined hmarker hmakes hfilled (prepare_again hp hmakes h)).1
  | succ j ih =>
    have hpass := pass_again hnames hconfined hmarker hmakes hfilled (prepare_again hp hmakes h)
    exact ih hpass.2

/-- **Passes one after another**: if the first preparations succeed, all do, and each pass ends
as its script does. -/
theorem regular_afterPasses (hnames : v.PlainNames) (hconfined : v.Confined run)
    (hmarker : FileTree.Takes v.layout.marker) (hne : v.layout.execDir.text ≠ "")
    (hup : .up ∉ FileTree.moves v.layout.execDir) (hprepare : (v.prepare s.tree).1 = .ok ())
    (j : Nat) : v.Regular run (v.afterPasses run j s) := by
  have hp := FileTree.Takes.of_joinText hmarker FileTree.isName_markerName hne
  -- the directory as the first pass makes it
  obtain ⟨t, hrenewed, heq⟩ := exists_renewal_of_prepare_ok hprepare
  obtain ⟨t₁, k, hmakes⟩ := makes_of_no_up hne hup hrenewed
  rw [heq] at hprepare
  have hfirst := pass_again (s := s) hnames hconfined hmarker hmakes hprepare
    (heq ▸ ⟨rfl, .refl _⟩)
  cases j with
  | zero => exact hfirst.1
  | succ j => exact regular_of_made hnames hconfined hmarker hp hmakes hprepare hfirst.2 j

end Provisioner
end LintHub
