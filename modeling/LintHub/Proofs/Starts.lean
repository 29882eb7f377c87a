import LintHub.Proofs.Shares

/-!
# What a call of `lint` starts

Whatever a call starts is the setup script, or a linter that is switched on, on its share of
the files; and the runs that it answers with are those of the groups.

* `Turns.starts`, `Stops.starts`: on the way to either end.
* `lint_starts`: the whole call.
* `groups_of_lint`, `answered_of_lint`: where its runs come from.
-/

namespace LintHub.Checker

variable {σ : Type} {k : Checker} {run : Runner σ} {total completed : Nat} {bs : List Batch}
  {s s' : Session σ}

/-- A linter that is switched on is started on one of these batches. -/
def StartsIn (k : Checker) (bs : List Batch) (i : Invocation) : Prop :=
  ∃ b ∈ bs, (k.linter b.kind).enabled = true ∧
    ∃ t, (k.linter b.kind).StartsOn k.context t b.files i

theorem StartsIn.mono {bs' : List Batch} {i : Invocation} (h : k.StartsIn bs i) (hbs : bs ⊆ bs') :
    k.StartsIn bs' i := by
  obtain ⟨b, hb, hstart⟩ := h
  exact ⟨b, hbs hb, hstart⟩

/-- From one session to another nothing was started but linters on these batches. -/
def StartsOnly (k : Checker) (bs : List Batch) (s s' : Session σ) : Prop :=
  ∃ started, s'.calls = s.calls ++ started ∧ ∀ i ∈ started, k.StartsIn bs i

theorem StartsOnly.cons {b : Batch} {s'' : Session σ} (h : k.StartsOnly [b] s s')
    (h' : k.StartsOnly bs s' s'') : k.StartsOnly (b :: bs) s s'' := by
  obtain ⟨first, hfirst, hb⟩ := h
  obtain ⟨started, hstarted, hbs⟩ := h'
  refine ⟨first ++ started, by rw [hstarted, hfirst, List.append_assoc], fun i hi => ?_⟩
  rcases List.mem_append.1 hi with hi | hi
  · exact (hb i hi).mono (by simp)
  · exact (hbs i hi).mono (List.subset_cons_self b bs)

/-- One turn starts the linter of its batch, or nothing. -/
theorem turn_starts (k : Checker) (run : Runner σ) (total completed : Nat) (b : Batch)
    (s : Session σ) :
    k.StartsOnly [b] s
      ((k.linter b.kind).run k.context run b.files (called total completed b s)).2 := by
  by_cases hdue : (k.linter b.kind).Due (called total completed b s).tree b.files
  · obtain ⟨i, hstart, hcalls, -⟩ := Linter.run_of_due k.context run hdue
    refine ⟨[i], hcalls, fun j hj => ?_⟩
    obtain rfl := List.mem_singleton.1 hj
    exact ⟨b, by simp, hdue.1, _, hstart⟩
  · have hcalls := (Linter.run_of_not_due k.context run hdue).1
    exact ⟨[], by rw [hcalls, List.append_nil]; rfl, by simp⟩

theorem Turns.starts {runs : List LintRun} (h : k.Turns run total completed bs s runs s') :
    k.StartsOnly bs s s' := by
  induction h with
  | nil completed s => exact ⟨[], by simp, by simp⟩
  | @cons completed b bs s s₁ s₂ r rs turn _ ih =>
    have hturn := turn_starts k run total completed b s
    rw [turn] at hturn
    exact hturn.cons ih

theorem Stops.starts {j : Nat} {b : Batch} {e : LaunchError}
    (h : k.Stops run total completed bs s j b e s') : k.StartsOnly bs s s' := by
  induction h with
  | @here completed b bs s s' e breaks left =>
    have hturn := turn_starts k run total completed b s
    rw [left] at hturn
    exact hturn.cons ⟨[], by simp, by simp⟩
  | @later completed j b broken bs s s₁ s₂ r e turn _ ih =>
    have hturn := turn_starts k run total completed b s
    rw [turn] at hturn
    exact hturn.cons ih

/-- **What a call starts** is the setup script, or linters on their groups. -/
theorem lint_starts (k : Checker) (run : Runner σ) (files : List Path) (s : Session σ) :
    ∃ started, (k.lint run files s).2.calls = s.calls ++ started ∧
      ∀ i ∈ started, i = k.provisioner.setupCall ∨ k.StartsIn (groupFiles files) i := by
  by_cases hne : groupFiles files = []
  · rw [lint_of_nil hne]
    exact ⟨[], by simp, by simp⟩
  · obtain ⟨n, -, hlead⟩ := k.provisioner.ensureReady_leads run s
    have hsetup : ∀ i ∈ List.replicate n k.provisioner.setupCall,
        i = k.provisioner.setupCall := fun i hi => (List.mem_replicate.1 hi).2
    cases hready : (k.provisioner.ensureReady run s).1 with
    | error e =>
      rw [lint_of_error hne hready]
      exact ⟨_, hlead.calls, fun i hi => .inl (hsetup i hi)⟩
    | ok a =>
      -- the setup script comes first, then the linters
      have hall : k.StartsOnly (groupFiles files) (k.provisioner.ensureReady run s).2
          (k.lint run files s).2 := by
        rw [lint_of_ok hne hready]
        rcases turns_or_stops k run (groupFiles files).length (groupFiles files) 0
          (k.provisioner.ensureReady run s).2 with ⟨runs, s₁, hturns⟩ | ⟨j, b, e, s₁, hstops⟩
        · rw [runBatches_of_turns hturns]
          exact hturns.starts
        · rw [runBatches_of_stops hstops]
          exact hstops.starts
      obtain ⟨started, hcalls, hstarted⟩ := hall
      refine ⟨List.replicate n k.provisioner.setupCall ++ started, ?_, fun i hi => ?_⟩
      · rw [hcalls, hlead.calls, List.append_assoc]
      · rcases List.mem_append.1 hi with hi | hi
        · exact .inl (hsetup i hi)
        · exact .inr (hstarted i hi)

/-- **The runs of a call** are those of its groups. -/
theorem groups_of_lint {files : List Path} {runs : List LintRun}
    (h : (k.lint run files s).1 = .ok runs) :
    runs.map (fun r => Batch.mk r.linter r.files) = groupFiles files := by
  by_cases hne : groupFiles files = []
  · rw [lint_of_nil hne] at h
    cases h
    exact hne.symm
  · obtain ⟨s₀, s', hturns⟩ := turns_of_lint hne h
    exact hturns.batches_eq

/-- In this session the linter of a run answers with it. -/
def Answers (k : Checker) (run : Runner σ) (r : LintRun) (s : Session σ) : Prop :=
  ((k.linter r.linter).run k.context run r.files s).1 = .ok r

/-- Each run was the answer of its linter in some session on the way. -/
theorem Turns.answered {runs : List LintRun} (h : k.Turns run total completed bs s runs s') :
    ∀ r ∈ runs, ∃ s₁ : Session σ, k.Answers run r s₁ := by
  induction h with
  | nil => simp
  | @cons completed b bs s s₁ s₂ r rs turn _ ih =>
    intro r hr
    rcases List.mem_cons.1 hr with rfl | hr
    · obtain ⟨hkind, hfiles⟩ := Linter.run_ok (congrArg Prod.fst turn)
      refine ⟨called total completed b s, ?_⟩
      unfold Answers
      rw [hkind, hfiles, linter_kind]
      exact congrArg Prod.fst turn
    · exact ih r hr

/-- And so was each run of a call. -/
theorem answered_of_lint {files : List Path} {runs : List LintRun}
    (h : (k.lint run files s).1 = .ok runs) : ∀ r ∈ runs, ∃ s₁ : Session σ, k.Answers run r s₁ := by
  by_cases hne : groupFiles files = []
  · rw [lint_of_nil hne] at h
    cases h
    simp
  · obtain ⟨s₀, s', hturns⟩ := turns_of_lint hne h
    exact hturns.answered

end LintHub.Checker
