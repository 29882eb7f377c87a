import LintHub.Proofs.Environment.Stages

/-!
# Answers without the lock

A caller that finds the environment ready does not take the lock. It sees the marker, the
directory of packages and their number one after another, and between two of these a pass may
begin and go on. What the caller has seen is then of different environments.

* `returns_already`: with the lock, and without it as long as nobody deletes the environment
  between the first look and the answer, the environment is ready when a caller is told so.
* `returns_already_without_marker`: a marker that was seen before a pass, and packages that were
  seen during it.
-/

namespace LintHub

variable {σ : Type}

/-- What a look has seen before these steps of it. -/
def Seen (l : Layout) (t : FileTree) (looks : List Look) : Prop :=
  ∃ passed, passed ++ looks = Look.all ∧ ∀ look ∈ passed, l.sees t look = true

namespace Seen

variable {l : Layout} {t t' : FileTree} {looks : List Look} {look : Look}

theorem all (l : Layout) (t : FileTree) : Seen l t Look.all := ⟨[], rfl, nofun⟩

theorem next (h : Seen l t (look :: looks)) (hsees : l.sees t look = true) : Seen l t looks := by
  obtain ⟨passed, hpassed, hseen⟩ := h
  refine ⟨passed ++ [look], by rw [List.append_assoc]; exact hpassed, ?_⟩
  intro x hx
  rcases List.mem_append.1 hx with hx | hx
  · exact hseen x hx
  · rw [List.mem_singleton.1 hx]
    exact hsees

theorem isValid (h : Seen l t []) : l.isValid t = true := by
  obtain ⟨passed, hpassed, hseen⟩ := h
  rw [List.append_nil] at hpassed
  rw [Throng.isValid_eq_all, ← hpassed, List.all_eq_true]
  exact hseen

theorem sees_of_grows (h : t.Grows t') (look : Look) (hsees : l.sees t look = true) :
    l.sees t' look = true := by
  cases look with
  | marker => exact h.isFile hsees
  | modules => exact h.keepsWays.isDirectory hsees
  | count =>
    have hle : l.minModules ≤ l.moduleCount t := of_decide_eq_true hsees
    exact decide_eq_true (hle.trans (Layout.moduleCount_le h.keepsWays))

/-- The marker is looked at first. -/
theorem grows (h : Seen l t looks) (hgrows : t.isFile l.marker = true → t.Grows t') :
    Seen l t' looks := by
  obtain ⟨passed, hpassed, hseen⟩ := h
  cases passed with
  | nil => exact ⟨[], hpassed, nofun⟩
  | cons first passed =>
    obtain ⟨rfl, -⟩ := List.cons.inj hpassed
    have hmarker : t.isFile l.marker = true := hseen _ (List.mem_cons_self ..)
    exact ⟨_, hpassed, fun x hx => sees_of_grows (hgrows hmarker) x (hseen x hx)⟩

end Seen

namespace Throng

variable {v : Provisioner} {run : Runner σ} {stages : Stages σ} {t t' t₀ : Throng σ}
  {s s' : Session σ} {h h' : Holder} {n i j : Nat}

/-- Only deletion and the script can take anything away. -/
theorem Advances.grows (hnext : Advances v run stages s h s' h')
    (hclear : ∀ steps, h ≠ .settingUp (.clear :: steps))
    (hrun : ∀ u ahead r steps, h = .running (u :: ahead) r steps → s.tree.Grows u) :
    s.tree.Grows s'.tree := by
  have hstep {step : SetupStep} {steps : List SetupStep} (heq : h = .settingUp (step :: steps)) :
      s.tree.Grows (step.onTree v s.tree).2 := by
    refine Provisioner.grows_onTree ?_ s.tree
    rintro rfl
    exact hclear steps heq
  cases hnext with
  | satisfied | saw | missed | began | succeeded | broke => exact .refl s.tree
  | installed htree =>
    rw [htree]
    exact .refl s.tree
  | took _ honTree | failed _ honTree =>
    have hgrows := hstep rfl
    rw [honTree] at hgrows
    exact hgrows
  | changed => exact hrun _ _ _ _ rfl

/-- What the caller with the lock knows of the environment. -/
def Knows (v : Provisioner) (s : Session σ) : Holder → Prop
  | .looking looks => Seen v.layout s.tree looks
  | .leaving (.ok .already) => v.layout.isValid s.tree = true
  | _ => True

theorem Knows.advance (hknows : Knows v s h) (hnext : Advances v run stages s h s' h') :
    Knows v s' h' := by
  cases hnext with
  | satisfied => exact Seen.isValid hknows
  | saw seen => exact Seen.next hknows seen
  | missed | installed | began | took | failed | changed | succeeded | broke => trivial

/-- The files that are shown while the script runs only grow. -/
def Growing (s : Session σ) : Holder → Prop
  | .running ahead _ _ => (s.tree :: ahead).IsChain FileTree.Grows
  | _ => True

theorem Growing.advance (hadds : v.AlwaysAdds run stages) (hgrowing : Growing s h)
    (hnext : Advances v run stages s h s' h') : Growing s' h' := by
  cases hnext with
  | began => exact hadds s.runner s.tree
  | changed => exact (List.isChain_cons_cons.1 hgrowing).2
  | satisfied | saw | missed | installed | took | failed | succeeded | broke => trivial

/-- From the deletion on there is no marker, until it is written. -/
def Pending (v : Provisioner) (s : Session σ) : Holder → Prop
  | .settingUp steps => steps = v.bundle.setupSteps ∨ v.Bare steps s.tree
  | .running ahead _ steps =>
    (∀ u ∈ s.tree :: ahead, u.isFile v.layout.marker = false) ∧
      ∀ u, u.isFile v.layout.marker = false → v.Bare steps u
  | _ => True

theorem Pending.advance (hstarts : v.StartsEmpty) (hspares : v.AlwaysSparesMarker run stages)
    (hpending : Pending v s h) (hnext : Advances v run stages s h s' h') : Pending v s' h' := by
  cases hnext with
  | missed => exact .inl rfl
  | took hother honTree =>
    rcases hpending with hfirst | ⟨-, -, hrest⟩
    · obtain ⟨rfl, rfl⟩ := List.cons.inj hfirst
      exact .inr (hstarts.bare_of_clear honTree)
    · exact .inr (hrest s'.tree (Provisioner.after_of_onTree hother honTree))
  | began =>
    rcases hpending with hfirst | ⟨hmarker, hunpacked, hrest⟩
    · cases hfirst
    · refine ⟨?_, hrest⟩
      rw [List.forall_mem_cons]
      exact ⟨hmarker, hspares s.runner s.tree (hunpacked rfl)⟩
  | changed =>
    obtain ⟨hmarker, hrest⟩ := hpending
    exact ⟨fun w hw => hmarker w (List.mem_cons_of_mem _ hw), hrest⟩
  | succeeded =>
    obtain ⟨hmarker, hrest⟩ := hpending
    exact .inr (hrest s.tree (hmarker _ (List.mem_cons_self ..)))
  | satisfied | saw | installed | failed | broke => trivial

/-- The caller with the lock has deleted the environment and is still to write the marker. -/
def isUnfinished (t : Throng σ) : Bool :=
  match t.holder with
  | some (_, .settingUp steps) => !steps.contains .clear && steps.contains .mark
  | some (_, .running ..) => true
  | _ => false

/-- **While a pass is unfinished** there is no marker. -/
theorem Reaches.isFile_of_isUnfinished (hstarts : v.StartsEmpty)
    (hspares : v.AlwaysSparesMarker run stages) (h : Reaches v run stages (gather s n) t)
    (hunfinished : t.isUnfinished = true) : t.session.tree.isFile v.layout.marker = false := by
  have hheld {i : Nat} {x : Holder} (hx : t.holder = some (i, x)) : Pending v t.session x :=
    h.held (fun _ => trivial) (Pending.advance hstarts hspares) hx
  unfold isUnfinished at hunfinished
  split at hunfinished
  · rename_i i steps hsteps
    rw [Bool.and_eq_true, Bool.not_eq_true', List.contains_iff_mem] at hunfinished
    obtain ⟨hclear, hmark⟩ := hunfinished
    rcases hheld hsteps with rfl | hbare
    · simp [Bundle.setupSteps] at hclear
    · cases steps with
      | nil => cases hmark
      | cons step steps => exact hbare.1
  · rename_i i ahead r steps hrunning
    exact (hheld hrunning).1 _ (List.mem_cons_self ..)
  · cases hunfinished

/-- What this caller does next is to delete the environment. -/
def deletes (t : Throng σ) (i : Nat) : Bool :=
  match t.holder with
  | some (j, .settingUp (.clear :: _)) => j == i
  | _ => false

/-- Steps of callers, none of which deletes the environment. -/
inductive Undisturbed (v : Provisioner) (run : Runner σ) (stages : Stages σ) (t : Throng σ) :
    Throng σ → Prop
  | refl : Undisturbed v run stages t t
  | step {t' t'' : Throng σ} {i : Nat} (before : Undisturbed v run stages t t')
    (keeps : t'.deletes i = false) (move : t'.move v run stages i = some t'') :
    Undisturbed v run stages t t''

theorem Undisturbed.followOne (h : Undisturbed v run stages t₀ t) (hkeeps : t.deletes i = false) :
    Undisturbed v run stages t₀ (t.follow v run stages [i]) := by
  simp only [follow, List.foldl_cons, List.foldl_nil]
  cases hmove : t.move v run stages i with
  | none => exact h
  | some t' => exact h.step hkeeps hmove

theorem Undisturbed.reaches (h : Undisturbed v run stages t t') (h₀ : Reaches v run stages t₀ t) :
    Reaches v run stages t₀ t' := by
  induction h with
  | refl => exact h₀
  | step _ _ move ih => exact ih.step move

/-- While the script runs an environment with a marker only grows. -/
theorem grows_of_running
    (hscript : v.AlwaysAdds run stages ∨ v.StartsEmpty ∧ v.AlwaysSparesMarker run stages)
    (h : Reaches v run stages (gather s n) t) {u : FileTree} {ahead : List FileTree}
    {r : Except ProvisionError Unit} {steps : List SetupStep}
    (hrunning : t.holder = some (i, .running (u :: ahead) r steps))
    (hmarker : t.session.tree.isFile v.layout.marker = true) : t.session.tree.Grows u := by
  rcases hscript with hadds | ⟨hstarts, hspares⟩
  · have hgrowing : Growing t.session (.running (u :: ahead) r steps) :=
      h.held (fun _ => trivial) (Growing.advance hadds) hrunning
    exact (List.isChain_cons_cons.1 hgrowing).1
  · have hunfinished : t.isUnfinished = true := by simp [isUnfinished, hrunning]
    have hnone := h.isFile_of_isUnfinished hstarts hspares hunfinished
    rw [hmarker] at hnone
    cases hnone

/-- **What a caller has seen without the lock** stays so until somebody deletes the environment,
if the script takes nothing away from an environment with a marker. -/
theorem Undisturbed.seen
    (hkeeps : ∀ {t j u ahead r steps}, Reaches v run stages (gather s n) t →
      t.holder = some (j, .running (u :: ahead) r steps) →
      t.session.tree.isFile v.layout.marker = true → t.session.tree.Grows u)
    (h : Undisturbed v run stages t₀ t) (h₀ : Reaches v run stages (gather s n) t₀)
    (hfirst : t₀.callers[i]? = some (.looking Look.all)) {looks : List Look}
    (hi : t.callers[i]? = some (.looking looks)) : Seen v.layout t.session.tree looks := by
  induction h generalizing looks with
  | refl =>
    rw [hfirst] at hi
    cases hi
    exact .all v.layout _
  | @step t t' j before keeps move ih =>
    have hmoves := moves_of_move move
    rcases hmoves.looking hi with hi | ⟨look, hi, hsees, hsame⟩
    · refine (ih hi).grows fun hmarker => ?_
      rcases hmoves.session with hsame | ⟨x, x', holds, hnext⟩
      · rw [hsame]
        exact .refl _
      · refine hnext.grows (fun steps heq => ?_) fun u ahead r steps heq => ?_
        · simp [deletes, holds, heq] at keeps
        · exact hkeeps (before.reaches h₀) (heq ▸ holds) hmarker
    · rw [hsame]
      exact (ih hi).next hsees

/-- These looks, the last one first, have each found what they should, one after another. -/
def Glimpsed (v : Provisioner) (run : Runner σ) (stages : Stages σ) (t₀ : Throng σ) :
    List Look → Throng σ → Prop
  | [], t => Reaches v run stages t₀ t
  | look :: earlier, t => ∃ t', Glimpsed v run stages t₀ earlier t' ∧
      v.layout.sees t'.session.tree look = true ∧ Reaches v run stages t' t

theorem Glimpsed.step {looks : List Look} (h : Glimpsed v run stages t₀ looks t)
    (hmove : t.move v run stages i = some t') : Glimpsed v run stages t₀ looks t' := by
  cases looks with
  | nil => exact Reaches.step h hmove
  | cons look earlier =>
    obtain ⟨t₁, hearlier, hsees, hlater⟩ := h
    exact ⟨t₁, hearlier, hsees, hlater.step hmove⟩

/-- What a caller has passed by it has seen, though at different moments. -/
theorem Reaches.glimpsed (h : Reaches v run stages (gather s n) t) {looks : List Look}
    (hi : t.callers[i]? = some (.looking looks)) :
    ∃ passed, passed.reverse ++ looks = Look.all ∧
      Glimpsed v run stages (gather s n) passed t := by
  induction h generalizing looks with
  | refl =>
    have hmem := List.mem_of_getElem? hi
    cases List.eq_of_mem_replicate hmem
    exact ⟨[], rfl, .refl⟩
  | @step t t' j before move ih =>
    rcases (moves_of_move move).looking hi with hi | ⟨look, hi, hsees, -⟩
    · obtain ⟨passed, hpassed, hglimpsed⟩ := ih hi
      exact ⟨passed, hpassed, hglimpsed.step move⟩
    · obtain ⟨passed, hpassed, hglimpsed⟩ := ih hi
      refine ⟨look :: passed, ?_, t, hglimpsed, hsees, Reaches.refl.step move⟩
      rw [List.reverse_cons, List.append_assoc]
      exact hpassed

/-- **A caller that is told that the environment was ready.** If it had the lock, the environment
is ready, and nobody has the lock. If it had not, it has seen a marker, then packages, and then
enough of them. The environment is still ready, and no pass is unfinished, if since its first look
nobody has deleted the environment. -/
theorem returns_already (h : Reaches v run stages (gather s n) t)
    (hmove : t.move v run stages i = some t')
    (hanswer : t'.callers[i]? = some (.answered (.ok .already))) :
    (t.callers[i]? = some .inside →
      v.layout.isValid t'.session.tree = true ∧ t'.holder = none) ∧
    (t.callers[i]? ≠ some .inside →
      Glimpsed v run stages (gather s n) Look.all.reverse t' ∧
      ∀ t₀, Reaches v run stages (gather s n) t₀ → t₀.callers[i]? = some (.looking Look.all) →
        Undisturbed v run stages t₀ t →
          (v.AlwaysAdds run stages ∨ v.StartsEmpty ∧ v.AlwaysSparesMarker run stages →
            v.layout.isValid t'.session.tree = true) ∧
          (v.StartsEmpty → v.AlwaysSparesMarker run stages → t'.isUnfinished = false)) := by
  have hafter := h.step hmove
  rcases (moves_of_move hmove).answered hanswer with
    ⟨hi, hsession, hholder⟩ | ⟨hi, hholds, hsession, hholder⟩
  -- without the lock
  · refine ⟨fun hinside => ?_, fun _ => ⟨?_, fun t₀ h₀ hfirst hundisturbed => ?_⟩⟩
    · rw [hi] at hinside
      cases hinside
    · obtain ⟨passed, hpassed, hglimpsed⟩ := h.glimpsed hi
      rw [List.append_nil] at hpassed
      rw [← hpassed, List.reverse_reverse]
      exact hglimpsed.step hmove
    · have hvalid (hscript : v.AlwaysAdds run stages ∨
          v.StartsEmpty ∧ v.AlwaysSparesMarker run stages) :
          v.layout.isValid t'.session.tree = true := by
        rw [hsession]
        refine (hundisturbed.seen (fun hreach hrunning hmarker => ?_) h₀ hfirst hi).isValid
        exact grows_of_running hscript hreach hrunning hmarker
      refine ⟨hvalid, fun hstarts hspares => ?_⟩
      rw [← Bool.not_eq_true]
      intro hunfinished
      have hmarker := hafter.isFile_of_isUnfinished hstarts hspares hunfinished
      have hready := hvalid (.inr ⟨hstarts, hspares⟩)
      rw [Layout.isValid_of_no_marker hmarker] at hready
      cases hready
  -- with the lock
  · refine ⟨fun _ => ⟨?_, hholder⟩, fun hnot => absurd hi hnot⟩
    rw [hsession]
    exact h.held (fun s => Seen.all v.layout s.tree) Knows.advance hholds

/-- The second caller looks as soon as the first has written the marker, and goes before it. -/
theorem returns_already_behind_marker :
    let v := Provisioner.plain ⟨"/env"⟩ 1
    let run := scripted fun _ => .ok (⟨"", "", some 0⟩, 1)
    let stages := scriptedStages fun _ => .ok (⟨"", "", some 0⟩, 1)
    ∃ t₀ t t', Reaches v run stages (gather ⟨default, 0, [], []⟩ 2) t₀ ∧
      t₀.callers = [.inside, .looking Look.all] ∧ Undisturbed v run stages t₀ t ∧
      t.move v run stages 1 = some t' ∧ t'.callers = [.inside, .answered (.ok .already)] ∧
      v.layout.isValid t'.session.tree = true ∧ t'.isUnfinished = false := by
  intro v run stages
  obtain ⟨t₀, t, h₀, hundisturbed, hfirst, hcallers⟩ : ∃ t₀ t,
      Reaches v run stages (gather ⟨default, 0, [], []⟩ 2) t₀ ∧ Undisturbed v run stages t₀ t ∧
      t₀.callers = [.inside, .looking Look.all] ∧ t.callers = [.inside, .looking []] := by
    -- the first caller has taken its steps up to the marker
    refine ⟨_, _, Reaches.refl.follow (List.replicate 14 0),
      ((Undisturbed.refl.followOne (i := 1) ?_).followOne (i := 1) ?_).followOne (i := 1) ?_,
      ?_, ?_⟩
    all_goals decide +kernel
  have hmove : t.move v run stages 1 =
      some ⟨t.session, t.holder, [.inside, .answered (.ok .already)]⟩ := by
    simp [move, hcallers]
  have hstarts : v.StartsEmpty :=
    ⟨Provisioner.plainNames_plain _ _, by decide, Provisioner.renews_of_no_up (by decide) (by decide)⟩
  obtain ⟨-, houtside⟩ := returns_already (hundisturbed.reaches h₀) hmove rfl
  obtain ⟨-, hready⟩ := houtside (by simp [hcallers])
  obtain ⟨hvalid, hfinished⟩ := hready t₀ h₀ (by simp [hfirst]) hundisturbed
  exact ⟨t₀, t, _, h₀, hfirst, hundisturbed, hmove, rfl, hvalid (.inl (v.alwaysAdds_scripted _)),
    hfinished hstarts (v.alwaysSparesMarker_scripted _)⟩

/-- The first caller sees the marker of an environment without packages. The second deletes it,
and its script makes a package. The first then sees that. -/
theorem returns_already_without_marker :
    let v := Provisioner.plain ⟨"/env"⟩ 1
    let run := scripted fun _ => .ok (⟨"", "", some 0⟩, 1)
    let stages := scriptedStages fun _ => .ok (⟨"", "", some 0⟩, 1)
    let tree := (((default : FileTree).put ["env"] .directory).put ["env", "log.txt"]
      (.file [] 0)).put ["env", "node_modules"] .directory
    let t := (gather ⟨tree, 0, [], []⟩ 2).follow v run stages
      (List.replicate 7 1 ++ [0] ++ List.replicate 9 1 ++ [0, 0])
    let t' := t.follow v run stages [0]
    t.callers = [.looking [], .inside] ∧ t'.callers = [.answered (.ok .already), .inside] ∧
      t'.session.tree.isFile v.layout.marker = false ∧ t'.isUnfinished = true := by
  decide +kernel

end Throng
end LintHub
