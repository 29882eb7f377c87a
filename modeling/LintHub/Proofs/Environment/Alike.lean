import LintHub.Proofs.Environment.History
import LintHub.Proofs.Environment.Renewed
import LintHub.Proofs.Environment.Repeated

/-!
# Setup over an old installation

Two trees that differ only in what is in the environment's directory are the same once the
directory has been cleared. So a request for setup ends alike in both: with the same answer, the
same news and starts, and the same files, if setup itself does the same to the same files
(`ActsAlike`). Two provisioners that differ only in their time stamp tell it to the marker and
to nothing else (`AlikeUpTo`).

* `prepare_alike`, `mark_alike`: the phases before and after the script.
* `answer_alike`: a whole request.
-/

namespace LintHub

open FileTree (SameOutside SameChange)

variable {σ : Type}

/-- The same stands everywhere, but for files that hold the first contents in one tree and the
second in the other. -/
structure FileTree.AlikeUpTo (content content' : Bytes) (t t' : FileTree) : Prop where
  here : t'.here = t.here
  get? : ∀ l, t'.get? l = t.get? l ∨
    ∃ mode, t.get? l = some (.file content mode) ∧ t'.get? l = some (.file content' mode)

namespace FileTree

variable {t t' : FileTree} {content content' : Bytes}

theorem Agree.alikeUpTo (h : t.Agree t') : t.AlikeUpTo content content' t' :=
  ⟨h.here, fun l => .inl (h.get? l)⟩

/-- Different contents written at the same path in trees that agree. -/
theorem Agree.write_alike (h : t.Agree t') (p : Path) (content content' : Bytes) :
    (t'.write p content').1 = (t.write p content).1 ∧
      (t.write p content).2.AlikeUpTo content content' (t'.write p content').2 := by
  have hput {k : Place} (hplace : t.WritesAt p k) (mode : Nat) :
      (t.put k (.file content mode)).AlikeUpTo content content'
        (t'.put k (.file content' mode)) := by
    refine ⟨by rw [here_put, here_put, h.here], fun l => ?_⟩
    rw [hplace.get?_put, get?_put (h.admits k _ ▸ hplace.admits _), h.get?]
    split
    · exact .inr ⟨mode, rfl, rfl⟩
    · exact .inl rfl
  unfold FileTree.write FileTree.writeWithMode
  rw [h.locateForWriting]
  rcases hloc : t.locateForWriting p with e | spot
  · exact ⟨rfl, h.alikeUpTo⟩
  · have hspot := locate_of_locateForWriting hloc
    rcases spot with ⟨k, _ | ⟨old, mode⟩ | target⟩ | ⟨dir, name, _ | _⟩
    · exact ⟨rfl, h.alikeUpTo⟩
    · exact ⟨rfl, hput (.existing hspot) mode⟩
    · exact ⟨rfl, h.alikeUpTo⟩
    · exact ⟨rfl, hput (.fresh hspot) plainMode⟩
    · exact ⟨rfl, h.alikeUpTo⟩

end FileTree

namespace Provisioner

variable {v : Provisioner} {run : Runner σ} {r : Request} {s s' : Session σ} {t t' : FileTree}
  {k : Place}

/-- The same environment, with another time stamp. -/
def stamped (v : Provisioner) (stamp : String) : Provisioner := { v with stamp := stamp }

/-- What setup does depends on its own state and on what stands where. -/
def ActsAlike (v : Provisioner) (run : Runner σ) : Prop :=
  ∀ (state : σ) (t t' : FileTree), t.Agree t' →
    (run v.setupCall state t').1 = (run v.setupCall state t).1 ∧
    (run v.setupCall state t').2.1 = (run v.setupCall state t).2.1 ∧
    (run v.setupCall state t).2.2.Agree (run v.setupCall state t').2.2

theorem prepare_stamped (v : Provisioner) (stamp : String) (t : FileTree) :
    (v.stamped stamp).prepare t = v.prepare t := rfl

/-- **The preparations** see nothing of what was in the directory. -/
theorem prepare_alike (h : SameOutside k t t')
    (hfind : t.find? false v.layout.execDir = .ok (k, .directory))
    (hfind' : t'.find? false v.layout.execDir = .ok (k, .directory)) :
    SameChange (v.prepare t) (v.prepare t') := by
  unfold prepare Bundle.preparations
  rw [List.cons_append, List.cons_append, List.nil_append, SetupStep.allOnTree_cons,
    SetupStep.allOnTree_cons, onTree_clear_of_exists (exists_of_find?_false hfind),
    onTree_clear_of_exists (exists_of_find?_false hfind')]
  obtain ⟨e, u, u', hx, hy, hu⟩ | ⟨_, u, u', hx, hy, hu⟩ :=
    (FileTree.removeAll_alike h hfind hfind').cases_eq
  · rw [hx, hy]
    exact ⟨rfl, hu⟩
  · rw [hx, hy]
    simp only [mapError_ok]
    rw [SetupStep.allOnTree_cons, SetupStep.allOnTree_cons, onTree_create, onTree_create]
    obtain ⟨e, w, w', hx, hy, hw⟩ | ⟨_, w, w', hx, hy, hw⟩ :=
      (hu.makeDirectories v.layout.execDir).cases_eq
    · rw [hx, hy]
      exact ⟨rfl, hw⟩
    · rw [hx, hy]
      exact hw.allOnTree_extract v v.bundle.payloads

/-- **The marker** is the only place where the time stamp stands. -/
theorem mark_alike (h : t.Agree t') (stamp : String) :
    ((v.stamped stamp).mark t').1 = (v.mark t).1 ∧
      (v.mark t).2.AlikeUpTo (Text.encode v.stamp.toList) (Text.encode stamp.toList)
        ((v.stamped stamp).mark t').2 := by
  obtain ⟨hres, htree⟩ := h.write_alike v.layout.marker (Text.encode v.stamp.toList)
    (Text.encode stamp.toList)
  rw [mark_fst, mark_fst, mark_snd, mark_snd]
  exact ⟨congrArg (Except.mapError _) hres, htree⟩

/-- A pass tells by its result what it told, and starts the script if the preparations succeed. -/
theorem reprovision_started (v : Provisioner) (run : Runner σ) (s : Session σ) :
    s.Leads (v.reprovision run s).2 (.installing :: lastNews (v.reprovision run s).1)
      (if (v.prepare s.tree).1 = .ok () then [v.setupCall] else []) := by
  obtain ⟨n, -, hlead, -⟩ := reprovision_leads v run s
  refine ⟨hlead.events, ?_⟩
  cases hprepare : (v.prepare s.tree).1 with
  | error e =>
    rw [(reprovision_of_unprepared hprepare).2.2.2, if_neg (by nofun), List.append_nil]
  | ok _ =>
    rw [if_pos rfl]
    cases hscript : verdict (v.afterScript run s).1 with
    | error e => exact (reprovision_of_script_error hprepare hscript).2.2.2
    | ok _ => exact (reprovision_of_script_ok hprepare hscript).2.2.2

/-- **A pass over an old installation** ends as it does over another one. -/
theorem reprovision_alike (halike : v.ActsAlike run) (stamp : String)
    (hrunner : s'.runner = s.runner) (h : SameOutside k s.tree s'.tree)
    (hfind : s.tree.find? false v.layout.execDir = .ok (k, .directory))
    (hfind' : s'.tree.find? false v.layout.execDir = .ok (k, .directory)) :
    ((v.stamped stamp).reprovision run s').1 = (v.reprovision run s).1 ∧
      ((v.stamped stamp).reprovision run s').2.runner = (v.reprovision run s).2.runner ∧
      (v.reprovision run s).2.tree.AlikeUpTo (Text.encode v.stamp.toList)
        (Text.encode stamp.toList) ((v.stamped stamp).reprovision run s').2.tree ∧
      ∃ told started, s.Leads (v.reprovision run s).2 told started ∧
        s'.Leads ((v.stamped stamp).reprovision run s').2 told started := by
  have hprepared := prepare_alike h hfind hfind'
  rw [← prepare_stamped v stamp s'.tree] at hprepared
  -- the result says what was told, and the preparations say what was started
  have hnews : ∀ hres : ((v.stamped stamp).reprovision run s').1 = (v.reprovision run s).1,
      ∃ told started, s.Leads (v.reprovision run s).2 told started ∧
        s'.Leads ((v.stamped stamp).reprovision run s').2 told started := by
    intro hres
    have hlead := reprovision_started v run s
    have hlead' := reprovision_started (v.stamped stamp) run s'
    rw [hres, hprepared.result] at hlead'
    exact ⟨_, _, hlead, hlead'⟩
  obtain ⟨hsame, hstate, htrees⟩ := halike s.runner _ _ hprepared.tree
  have hscript : (v.stamped stamp).afterScript run s' =
      run v.setupCall s.runner ((v.stamped stamp).prepare s'.tree).2 := by
    rw [← hrunner]
    rfl
  cases hprepare : (v.prepare s.tree).1 with
  | error e =>
    obtain ⟨hres, htree, hrun, -⟩ : (v.reprovision run s).1 = .error e ∧ _ :=
      reprovision_of_unprepared hprepare
    obtain ⟨hres', htree', hrun', -⟩ : ((v.stamped stamp).reprovision run s').1 = .error e ∧ _ :=
      reprovision_of_unprepared (hprepared.result.trans hprepare)
    have heq := hres'.trans hres.symm
    refine ⟨heq, by rw [hrun, hrun', hrunner], ?_, hnews heq⟩
    rw [htree, htree']
    exact hprepared.tree.alikeUpTo
  | ok _ =>
    have hprepare' := hprepared.result.trans hprepare
    have hverdict : verdict ((v.stamped stamp).afterScript run s').1 =
        verdict (v.afterScript run s).1 := by
      rw [hscript, hsame]
      rfl
    cases hend : verdict (v.afterScript run s).1 with
    | error e =>
      obtain ⟨hres, htree, hrun, -⟩ := reprovision_of_script_error hprepare hend
      obtain ⟨hres', htree', hrun', -⟩ :=
        reprovision_of_script_error hprepare' (hverdict.trans hend)
      have heq := hres'.trans hres.symm
      refine ⟨heq, by rw [hrun, hrun', hscript, hstate]; rfl, ?_, hnews heq⟩
      rw [htree, htree', hscript]
      exact htrees.alikeUpTo
    | ok _ =>
      obtain ⟨hres, htree, hrun, -⟩ := reprovision_of_script_ok hprepare hend
      obtain ⟨hres', htree', hrun', -⟩ :=
        reprovision_of_script_ok hprepare' (hverdict.trans hend)
      obtain ⟨hmark, hmarked⟩ := mark_alike (v := v) htrees stamp
      have heq : ((v.stamped stamp).reprovision run s').1 = (v.reprovision run s).1 := by
        rw [hres, hres', hscript]
        exact hmark
      refine ⟨heq, by rw [hrun, hrun', hscript, hstate]; rfl, ?_, hnews heq⟩
      rw [htree, htree', hscript]
      exact hmarked

end Provisioner
end LintHub
