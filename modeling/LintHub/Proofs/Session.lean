import LintHub.Launch.Runner

/-!
# What actions do in a session

An action takes a session to a result and the session it leaves. The equations below
run the few actions of which all others are made; with them no proof looks into the
monad. `Session.Leads` keeps account of the two things that only grow, what the caller
was told and what was started.
-/

namespace LintHub

variable {σ ε ε' α β : Type}

@[simp] theorem mapError_ok (wrap : ε → ε') (a : α) :
    (Except.ok a : Except ε α).mapError wrap = .ok a := rfl

@[simp] theorem mapError_error (wrap : ε → ε') (e : ε) :
    (Except.error e : Except ε α).mapError wrap = .error (wrap e) := rfl

theorem mapError_eq_ok_iff {x : Except ε α} {wrap : ε → ε'} {a : α} :
    x.mapError wrap = .ok a ↔ x = .ok a := by
  cases x <;> simp

/-- The session that the start of a program leaves, whatever the runner answers: the start is
on record, and the runner may have changed files. -/
def Session.afterLaunch (s : Session σ) (run : Runner σ) (i : Invocation) : Session σ where
  tree := (run i s.runner s.tree).2.2
  runner := (run i s.runner s.tree).2.1
  calls := s.calls ++ [i]
  journal := s.journal ++
    [.logged .debug ("Running " ++ i.commandLine ++ " in " ++ i.workingDir.text)]

namespace Action

@[simp] theorem pure_apply (a : α) (s : Session σ) :
    (pure a : Action σ ε α) s = (.ok a, s) := rfl

@[simp] theorem throw_apply (e : ε) (s : Session σ) :
    (throw e : Action σ ε α) s = (.error e, s) := rfl

/-- What comes after an action goes on where it ended, or not at all if it failed. -/
theorem bind_apply (act : Action σ ε α) (next : α → Action σ ε β) (s : Session σ) :
    (act >>= next) s =
      match act s with
      | (.ok a, s') => next a s'
      | (.error e, s') => (.error e, s') := by
  show ExceptT.bindCont next (act s).1 (act s).2 = _
  rcases act s with ⟨_ | _, _⟩ <;> rfl

@[simp] theorem mapError_apply (wrap : ε → ε') (act : Action σ ε α) (s : Session σ) :
    mapError wrap act s = ((act s).1.mapError wrap, (act s).2) := rfl

@[simp] theorem tree_apply (s : Session σ) : (tree : Action σ ε FileTree) s = (.ok s.tree, s) := rfl

theorem getThe_apply (s : Session σ) :
    (getThe (Session σ) : Action σ ε (Session σ)) s = (.ok s, s) := rfl

@[simp] theorem note_apply (r : Remark) (s : Session σ) :
    (note r : Action σ ε Unit) s = (.ok (), { s with journal := s.journal ++ [r] }) := rfl

theorem change_apply (wrap : FileError → ε) (act : FileTree → FileTree.Change α) (s : Session σ) :
    change wrap act s = ((act s.tree).1.mapError wrap, { s with tree := (act s.tree).2 }) := by
  unfold change
  rw [bind_apply, tree_apply]
  rcases h : act s.tree with ⟨r, t⟩
  simp only [h]
  cases r <;> rfl

theorem launch_apply (run : Runner σ) (wrap : LaunchError → ε) (i : Invocation) (s : Session σ) :
    launch run wrap i s = ((run i s.runner s.tree).1.mapError wrap, s.afterLaunch run i) := by
  unfold launch log Session.afterLaunch
  rw [bind_apply, note_apply]
  simp only
  rw [bind_apply, getThe_apply]
  rcases h : run i s.runner s.tree with ⟨r, state, t⟩
  simp only [h]
  cases r <;> rfl

end Action

namespace Session

/-- The session in which the caller has been told one thing more. -/
def tell (s : Session σ) (e : Event) : Session σ := { s with journal := s.journal ++ [.told e] }

@[simp] theorem tell_tree (s : Session σ) (e : Event) : (s.tell e).tree = s.tree := rfl

@[simp] theorem tell_runner (s : Session σ) (e : Event) : (s.tell e).runner = s.runner := rfl

@[simp] theorem emit_apply (e : Event) (s : Session σ) :
    (Action.emit e : Action σ ε Unit) s = (.ok (), s.tell e) := rfl

/-- From the first session to the second the caller was told this, and these programs were
started. -/
structure Leads (s s' : Session σ) (told : List Event) (started : List Invocation) : Prop where
  events : s'.events = s.events ++ told
  calls : s'.calls = s.calls ++ started

namespace Leads

variable {s s' s'' : Session σ} {told told' : List Event} {started started' : List Invocation}

theorem refl (s : Session σ) : s.Leads s [] [] := ⟨by simp, by simp⟩

theorem trans (h : s.Leads s' told started) (h' : s'.Leads s'' told' started') :
    s.Leads s'' (told ++ told') (started ++ started') :=
  ⟨by rw [h'.events, h.events, List.append_assoc], by rw [h'.calls, h.calls, List.append_assoc]⟩

/-- A remark is told or logged, and nothing is started for it. -/
theorem note (s : Session σ) (r : Remark) :
    s.Leads { s with journal := s.journal ++ [r] } (Remark.events [r]) [] :=
  ⟨Remark.events_append _ _, by simp⟩

theorem launch (s : Session σ) (run : Runner σ) (i : Invocation) :
    s.Leads (s.afterLaunch run i) [] [i] :=
  ⟨by simp [Session.events, afterLaunch, Remark.events_append], rfl⟩

theorem tell (s : Session σ) (e : Event) : s.Leads (s.tell e) [e] [] := note s (.told e)

end Leads
end Session
end LintHub
