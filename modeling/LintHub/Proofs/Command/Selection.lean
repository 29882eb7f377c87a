import LintHub.Command.Check
import LintHub.Proofs.Starts
import LintHub.Proofs.Text.Rows
import LintHub.Proofs.Text.Scanning
import LintHub.Proofs.Walk

/-!
# What a check runs

A linter is asked for when the configuration has it switched on and, if linters are named, a
part between commas is one of its names. A check collects files, and it lints those of them
that pass the filter and whose linter is asked for: restricting the configuration, filtering
and routing agree on this.

* `mem_kindsIn_iff`, `isEnabled_configured`: which linters are asked for.
* `collect_eq`, `select_configured`: which files are linted.
* `runWith_eq`: so a check is a call of `lint` with these files, whatever walks the directories.
* `run_requested`: what is run for them, and what is not.
-/

namespace LintHub

namespace Kind

/-- Whether a text is the display name or the tool name of a linter, ignoring ASCII case. -/
def isCalled (kind : Kind) (name : List Char) : Bool :=
  Text.sameWord kind.displayName.toList name || Text.sameWord kind.tool.toList name

theorem isCalled_iff {kind : Kind} {name : List Char} :
    kind.isCalled name = true ↔ name.map Char.toLower = kind.tool.toList := by
  have hdisplay : kind.displayName.toList.map Char.toLower = kind.tool.toList := by
    cases kind <;> decide
  have htool : kind.tool.toList.map Char.toLower = kind.tool.toList := by
    cases kind <;> decide
  unfold isCalled
  rw [Bool.or_eq_true, Text.sameWord_iff, Text.sameWord_iff, hdisplay, htool, or_self]
  exact eq_comm

theorem tool_injective {kind kind' : Kind} (h : kind.tool = kind'.tool) : kind = kind' := by
  cases kind <;> cases kind' <;> first | rfl | exact absurd h (by decide)

/-- A name is that of one linter. -/
theorem eq_of_isCalled {kind kind' : Kind} {name : List Char} (h : kind.isCalled name = true)
    (h' : kind'.isCalled name = true) : kind = kind' :=
  tool_injective (String.toList_inj.1 ((isCalled_iff.1 h).symm.trans (isCalled_iff.1 h')))

theorem ofName_eq (name : String) :
    ofName name = all.find? fun kind => kind.isCalled (Text.trim name.toList) := rfl

theorem ofName_eq_some_iff {name : String} {kind : Kind} :
    ofName name = some kind ↔ kind.isCalled (Text.trim name.toList) = true := by
  rw [ofName_eq]
  constructor
  · intro h
    simpa using List.find?_some h
  · intro h
    cases hfind : all.find? fun kind => kind.isCalled (Text.trim name.toList) with
    | none =>
      have hno := List.find?_eq_none.1 hfind kind kind.mem_all
      exact absurd h hno
    | some other =>
      have hother : other.isCalled (Text.trim name.toList) = true := by
        simpa using List.find?_some hfind
      rw [eq_of_isCalled hother h]

end Kind

namespace Path

/-- What is put behind a path is not lost. -/
theorem suffix_join (p q : Path) : q.chars <:+ (p.join q).chars := by
  unfold join
  split
  · exact List.suffix_refl _
  · split
    · exact List.suffix_refl _
    · unfold ofChars chars
      rw [String.toList_ofList]
      exact List.suffix_append _ _
    · unfold ofChars chars
      rw [String.toList_ofList]
      exact (List.suffix_cons _ _).trans (List.suffix_append _ _)

/-- Different names behind a path make different paths. -/
theorem joinText_inj {p : Path} {a b : String} (ha : (Path.mk a).isAbsolute = false)
    (hb : (Path.mk b).isAbsolute = false) (h : p.joinText a = p.joinText b) : a = b := by
  unfold joinText join at h
  rw [ha, hb] at h
  simp only [Bool.false_eq_true, if_false] at h
  split at h
  · exact congrArg text h
  · have hchars := congrArg chars h
    simp only [chars, ofChars, String.toList_ofList, List.append_cancel_left_eq] at hchars
    exact String.toList_inj.1 hchars
  · have hchars := congrArg chars h
    simp only [chars, ofChars, String.toList_ofList, List.append_cancel_left_eq,
      List.cons.injEq, true_and] at hchars
    exact String.toList_inj.1 hchars

end Path

namespace Layout

/-- Different linters are different programs. -/
theorem toolPath_inj {l : Layout} {kind kind' : Kind}
    (h : l.toolPath kind.tool = l.toolPath kind'.tool) : kind = kind' := by
  have hrelative (kind : Kind) : (Path.mk kind.tool).isAbsolute = false := by
    cases kind <;> decide
  exact Kind.tool_injective (Path.joinText_inj (hrelative kind) (hrelative kind') h)

/-- The shell is none of them. -/
theorem toolPath_ne_shell (l : Layout) (kind : Kind) : l.toolPath kind.tool ≠ ⟨"sh"⟩ := by
  intro h
  have hsuffix : kind.tool.toList <:+ (l.toolPath kind.tool).chars := Path.suffix_join _ _
  rw [h] at hsuffix
  have hlength : kind.tool.toList.length ≤ 2 := hsuffix.length_le
  revert hlength
  cases kind <;> decide

end Layout

namespace Command.Check

/-- Whether a part of a list, between commas, is a name of a linter. -/
def isNamed (list : String) (kind : Kind) : Bool :=
  (Text.fields ',' list.toList).any fun part => kind.isCalled (Text.trim part)

/-- Whether a linter is asked for: it is switched on, and named if any are. -/
def isRequested (c : Config) (list : Option String) (kind : Kind) : Bool :=
  c.isEnabled kind && list.all fun list => isNamed list kind

/-- Whether a file is to be linted: it passes the filter, and its linter is asked for. -/
def isWanted (c : Config) (list : Option String) (file : Path) : Bool :=
  (filterOf c).isLintable file && (Kind.ofPath file).any (isRequested c list)

/-- The linters that a list selects are those it names. -/
theorem mem_kindsIn_iff {list : String} {kind : Kind} :
    kind ∈ kindsIn list ↔ isNamed list kind = true := by
  have hofName (part : List Char) :
      Kind.ofName (String.ofList (Text.trim part)) = some kind ↔
        kind.isCalled (Text.trim part) = true := by
    rw [Kind.ofName_eq_some_iff, String.toList_ofList, Text.trim_trim]
  unfold kindsIn namesIn isNamed
  rw [List.mem_filterMap, List.any_eq_true]
  constructor
  · rintro ⟨name, hname, hkind⟩
    obtain ⟨part, hpart, rfl⟩ := List.mem_map.1 (List.mem_filter.1 hname).1
    exact ⟨part, hpart, (hofName part).1 hkind⟩
  · rintro ⟨part, hpart, hcalled⟩
    refine ⟨_, List.mem_filter.2 ⟨List.mem_map_of_mem hpart, ?_⟩, (hofName part).2 hcalled⟩
    -- no linter is called by the empty name
    rw [bne_iff_ne]
    intro hempty
    have hname := (hofName part).2 hcalled
    rw [hempty] at hname
    revert hname
    cases kind <;> decide

section Restrict

variable (c : Config) (kinds : List Kind)

/-- Restricting switches linters off, and nothing else. -/
theorem files_restrict : (restrict c kinds).files = c.files := by
  unfold restrict
  refine List.foldlRecOn (motive := fun d : Config => d.files = c.files) _ _ rfl ?_
  intro d hd kind _
  split
  · exact hd
  · exact hd

theorem isEnabled_restrict (kind : Kind) :
    (restrict c kinds).isEnabled kind = (c.isEnabled kind && kinds.contains kind) := by
  -- along the linters, of which those that are done have been switched off
  suffices h : ∀ (ks : List Kind) (d : Config),
      (ks.foldl (fun d k => if kinds.contains k then d else d.setEnabled k false) d).isEnabled kind
        = (d.isEnabled kind && (!ks.contains kind || kinds.contains kind)) by
    rw [restrict, h]
    simp [kind.mem_all]
  intro ks
  induction ks with
  | nil => simp
  | cons k ks ih =>
    intro d
    have hstep : (if kinds.contains k then d else d.setEnabled k false).isEnabled kind =
        (d.isEnabled kind && (!(kind == k) || kinds.contains kind)) := by
      by_cases heq : kind = k
      · subst heq
        by_cases hk : kinds.contains kind = true
        · rw [if_pos hk, hk]
          simp
        · rw [if_neg hk, Bool.eq_false_iff.2 hk]
          simp [Config.setEnabled, Config.isEnabled, LinterFlags.get_set]
      · by_cases hk : kinds.contains k = true
        · rw [if_pos hk]
          simp [heq]
        · rw [if_neg hk]
          simp [Config.setEnabled, Config.isEnabled, LinterFlags.get_set, heq]
    rw [List.foldl_cons, ih, hstep, List.contains_cons]
    cases d.isEnabled kind <;> cases kind == k <;> cases ks.contains kind <;>
      cases kinds.contains kind <;> rfl

end Restrict

theorem filterOf_configured (c : Config) (list : Option String) :
    filterOf (configured c list) = filterOf c := by
  cases list with
  | none => rfl
  | some list =>
    unfold filterOf Config.ignorePatterns configured
    simp only [files_restrict]

/-- **The linters asked for** are those that are switched on in the end. -/
theorem isEnabled_configured (c : Config) (list : Option String) (kind : Kind) :
    (configured c list).isEnabled kind = isRequested c list kind := by
  unfold isRequested
  cases list with
  | none => simp [configured]
  | some list =>
    have hnamed : (kindsIn list).contains kind = isNamed list kind := by
      rw [Bool.eq_iff_iff, List.contains_iff_mem, mem_kindsIn_iff]
    rw [configured, isEnabled_restrict, hnamed]
    rfl

/-- The files to be linted are those of the collected ones that are wanted. -/
theorem select_configured (c : Config) (list : Option String) (files : List Path) :
    select (configured c list) files = files.filter (isWanted c list) := by
  unfold select isWanted
  rw [filterOf_configured]
  refine List.filter_congr fun f _ => ?_
  rw [show (configured c list).isEnabled = isRequested c list from
    funext (isEnabled_configured c list)]

/-- The paths of a check, seen from the current directory. -/
def given (t : FileTree) (paths : List Path) : List Path := paths.map (Path.ofPlace t.here).join

/-- The files that paths stand for, with what walks find below the directories among them. -/
def collected (t : FileTree) (found : Path → List Path) (paths : List Path) : List Path :=
  paths.flatMap fun p => if t.isDirectory p then found p else [p]

theorem collect_eq {t : FileTree} {walk : Path → Except WalkError (List Path)}
    {found : Path → List Path} {paths : List Path}
    (h : ∀ p ∈ paths, t.isDirectory p = true → walk p = .ok (found p)) :
    collect t walk paths = .ok (collected t found paths) := by
  induction paths with
  | nil => rfl
  | cons p ps ih =>
    have hrest := ih fun q hq => h q (List.mem_cons_of_mem _ hq)
    unfold collected at hrest ⊢
    rw [List.flatMap_cons, collect, hrest]
    by_cases hdir : t.isDirectory p = true
    · rw [if_pos hdir, if_pos hdir, h p (List.mem_cons_self ..) hdir]
      rfl
    · rw [if_neg hdir, if_neg hdir]
      rfl

section Run

variable {σ : Type} {h : Host} {paths : List Path} {list : Option String} {c : Config}
  {s : Session σ} {walk : Path → Except WalkError (List Path)} {found : Path → List Path}

/-- **A check is a call of `lint`** with the files collected that are wanted. -/
theorem runWith_eq (h : Host) (runner : Runner σ) (format : Report.Format) (list : Option String)
    (c : Config)
    (hfound : ∀ p ∈ given s.tree paths, s.tree.isDirectory p = true → walk p = .ok (found p)) :
    ∃ notices, runWith walk h runner paths format list c s =
      lint h runner format (configured c list)
        ((collected s.tree found (given s.tree paths)).filter (isWanted c list)) notices s := by
  have hcollect : collect s.tree walk (paths.map (Path.ofPlace s.tree.here).join) =
      .ok (collected s.tree found (given s.tree paths)) := collect_eq hfound
  unfold runWith
  simp only [hcollect, select_configured]
  exact ⟨_, rfl⟩

theorem linter_ofConfig (h : Host) (c : Config) (kind : Kind) :
    (Checker.ofConfig h c).linter kind = ⟨kind, c.isEnabled kind⟩ := by
  cases kind <;> rfl

/-- A file that is wanted has passed the filter, and its linter is asked for. -/
theorem of_isWanted {f : Path} (hf : isWanted c list f = true) :
    f.isAbsolute = true ∧ (c.files.ignoreMinified && f.isMinified) = false ∧
      (filterOf c).ignores f = false ∧
      ∃ kind, Kind.ofPath f = some kind ∧ isRequested c list kind = true := by
  obtain ⟨hlintable, hkind⟩ := Bool.and_eq_true_iff.1 hf
  rw [FileFilter.isLintable_eq] at hlintable
  simp only [Bool.and_eq_true, Bool.not_eq_true'] at hlintable
  obtain ⟨⟨⟨habsolute, -⟩, hminified⟩, hignored⟩ := hlintable
  obtain ⟨kind, hofPath, hrequested⟩ := (Option.any_eq_true _ _).1 hkind
  exact ⟨habsolute, hminified, hignored, kind, hofPath, hrequested⟩

/-- Of wanted files there are groups only for linters that are asked for. -/
theorem isRequested_of_mem_groupFiles {files : List Path} {b : Batch}
    (hb : b ∈ groupFiles (files.filter (isWanted c list))) : isRequested c list b.kind = true := by
  have hfilled : b.files ≠ [] := (isGrouping_groupFiles _).filled b hb
  obtain ⟨f, hf⟩ := List.exists_mem_of_ne_nil _ hfilled
  obtain ⟨hmem, hkind⟩ := mem_of_mem_groupFiles hb hf
  obtain ⟨-, -, -, kind, hofPath, hrequested⟩ := of_isWanted (List.mem_filter.1 hmem).2
  rw [hkind] at hofPath
  cases hofPath
  exact hrequested

/-- A file that is wanted has a linter that some part of the list names. -/
theorem exists_part_of_isWanted {f : Path} {names : String}
    (hf : isWanted c (some names) f = true) :
    ∃ part ∈ Text.fields ',' names.toList, ∃ kind, Kind.ofName (String.ofList part) = some kind ∧
      Kind.ofPath f = some kind := by
  obtain ⟨-, -, -, kind, hofPath, hrequested⟩ := of_isWanted hf
  have hnamed : isNamed names kind = true := (Bool.and_eq_true_iff.1 hrequested).2
  obtain ⟨part, hpart, hcalled⟩ := List.any_eq_true.1 hnamed
  refine ⟨part, hpart, kind, ?_, hofPath⟩
  rwa [Kind.ofName_eq_some_iff, String.toList_ofList]

/-- **A check runs what was asked for.** If the walks of the directories given succeed, whatever
they find, what is handed to `lint` are the files collected that are wanted, in their order; what
the check's own walks find are files below the directories. No file is linted that is relative,
minified where these are left out, or ignored. Each run belongs to a linter that is asked for, and
so does each program that is started, the setup script aside; a linter that is not asked for is
never started, and with a list of names no file is linted but by a linter that a part of the list
names. Without a wanted file nothing happens, whatever the environment is. -/
theorem run_requested (h : Host) (runner : Runner σ) (format : Report.Format)
    (list : Option String) (c : Config) (walk : Path → Except WalkError (List Path))
    (found : Path → List Path)
    (hfound : ∀ p ∈ given s.tree paths, s.tree.isDirectory p = true → walk p = .ok (found p)) :
    let files := (collected s.tree found (given s.tree paths)).filter (isWanted c list)
    let checker := Checker.ofConfig h (configured c list)
    let before : Session σ := { s with journal := [] }
    let answer := checker.lint runner files before
    (∃ notices, runWith walk h runner paths format list c s =
      (outcome h format answer.1 notices, answer.2)) ∧
    (walk = Walk.files h s.tree →
      run h runner paths format list c s = runWith walk h runner paths format list c s ∧
      ∀ p ∈ given s.tree paths, s.tree.isDirectory p = true →
        ∀ f ∈ found p, s.tree.HoldsFile p f) ∧
    (∀ f ∈ files, f.isAbsolute = true ∧ (c.files.ignoreMinified && f.isMinified) = false ∧
      (filterOf c).ignores f = false) ∧
    (∀ runs, answer.1 = .ok runs → ∀ r ∈ runs, isRequested c list r.linter = true ∧
      r.files ≠ [] ∧ ∀ f ∈ r.files, f ∈ files ∧ Kind.ofPath f = some r.linter) ∧
    (∃ started, answer.2.calls = s.calls ++ started ∧
      (∀ i ∈ started, i = checker.provisioner.setupCall ∨
        ∃ kind, isRequested c list kind = true ∧
          i.program = checker.provisioner.layout.toolPath kind.tool ∧
          i.files ≠ [] ∧ ∀ f ∈ i.files, f ∈ files ∧ Kind.ofPath f = some kind) ∧
      ∀ kind, isRequested c list kind = false →
        ∀ i ∈ started, i.program ≠ checker.provisioner.layout.toolPath kind.tool) ∧
    (∀ names, list = some names → ∀ f ∈ files, ∃ part ∈ Text.fields ',' names.toList,
      ∃ kind, Kind.ofName (String.ofList part) = some kind ∧ Kind.ofPath f = some kind) ∧
    (files = [] → ∀ k : Checker, k.lint runner files before = (.ok [], before)) := by
  intro files checker before answer
  have hswitched (kind : Kind) :
      (checker.linter kind).enabled = isRequested c list kind := by
    rw [linter_ofConfig]
    exact isEnabled_configured c list kind
  refine ⟨?_, ?_, fun f hf => ?_, fun runs hruns r hr => ?_, ?_, ?_, fun hnone k => ?_⟩
  · obtain ⟨notices, hrun⟩ := runWith_eq h runner format list c hfound
    exact ⟨_, hrun⟩
  · rintro rfl
    exact ⟨rfl, fun p hp hdir => Walk.holdsFile_of_files (hfound p hp hdir)⟩
  · obtain ⟨habsolute, hminified, hignored, -⟩ := of_isWanted (List.mem_filter.1 hf).2
    exact ⟨habsolute, hminified, hignored⟩
  · have hgroup : Batch.mk r.linter r.files ∈ groupFiles files := by
      rw [← Checker.groups_of_lint hruns]
      exact List.mem_map_of_mem hr
    exact ⟨isRequested_of_mem_groupFiles hgroup, (isGrouping_groupFiles files).filled _ hgroup,
      fun f hf => mem_of_mem_groupFiles hgroup hf⟩
  · obtain ⟨started, hcalls, hstarted⟩ := Checker.lint_starts checker runner files before
    refine ⟨started, hcalls, fun i hi => ?_, fun kind hkind i hi hprogram => ?_⟩
    · rcases hstarted i hi with hsetup | ⟨b, hb, -, t, hstart⟩
      · exact .inl hsetup
      · refine .inr ⟨b.kind, isRequested_of_mem_groupFiles hb, ?_, ?_, fun f hf => ?_⟩
        · rw [hstart.program, Checker.linter_kind]
          rfl
        · rw [hstart.targets]
          exact (isGrouping_groupFiles files).filled b hb
        · rw [hstart.targets] at hf
          exact mem_of_mem_groupFiles hb hf
    · rcases hstarted i hi with rfl | ⟨b, hb, henabled, t, hstart⟩
      · exact Layout.toolPath_ne_shell _ kind hprogram.symm
      · rw [hstart.program, Checker.linter_kind] at hprogram
        obtain rfl := Layout.toolPath_inj hprogram
        rw [hswitched, hkind] at henabled
        cases henabled
  · rintro names rfl f hf
    exact exists_part_of_isWanted (List.mem_filter.1 hf).2
  · have hempty : groupFiles files = [] := by rw [hnone]; rfl
    exact Checker.lint_of_nil hempty before

/-- A directory with files of several kinds. -/
def project : FileTree :=
  ((((default : FileTree).put ["p"] .directory).put ["p", "b.ts"] (.file [] 0)).put
    ["p", "a.min.js"] (.file [] 0)).put ["p", "a.js"] (.file [] 0)

theorem files_project : Walk.files default project ⟨"/p"⟩ =
    .ok [⟨"/p/a.js"⟩, ⟨"/p/a.min.js"⟩, ⟨"/p/b.ts"⟩] := by
  have hdir : project.directoryAt ⟨"/p"⟩ = .ok ["p"] := by decide +kernel
  have hmessages : ((Place.above ["p"]).map (Ignore.Directory.read project)).reverse.flatMap
      (·.messages) = [] := by decide +kernel
  have hordered : (project.children ["p"]).Pairwise fun a b => (!decide (b.1 < a.1)) = true := by
    decide +kernel
  have hlevels : Walk.levels project = 3 := by decide +kernel
  rw [Walk.files_of_messages default hdir hmessages, hlevels, Walk.below,
    Walk.entriesOf_of_ordered hordered]
  decide +kernel

theorem run_requested_project :
    let c : Config := { linters := { tsLint := false } }
    let list := some "TSLint, ESLint,bogus"
    let paths : List Path := [⟨"/p"⟩, ⟨"gone.css"⟩, ⟨"gone.js"⟩]
    let s : Session Unit := ⟨project, (), [], []⟩
    let files : List Path := [⟨"/p/a.js"⟩, ⟨"/gone.js"⟩]
    let checker := Checker.ofConfig default (configured c list)
    let answer := checker.lint Linter.complaining files s
    (∃ notices, run default Linter.complaining paths .text list c s =
        (outcome default .text answer.1 notices, answer.2)) ∧
      ∀ i ∈ answer.2.calls, i.program ≠ checker.provisioner.layout.toolPath "tslint" := by
  intro c list paths s files checker answer
  let found : List Path := [⟨"/p/a.js"⟩, ⟨"/p/a.min.js"⟩, ⟨"/p/b.ts"⟩]
  have hfound : ∀ p ∈ given s.tree paths, s.tree.isDirectory p = true →
      Walk.files default s.tree p = .ok found := by
    have hgiven : given s.tree paths = [⟨"/p"⟩, ⟨"/gone.css"⟩, ⟨"/gone.js"⟩] := by decide +kernel
    have hone : ∀ p ∈ given s.tree paths, s.tree.isDirectory p = true → p = ⟨"/p"⟩ := by
      rw [hgiven]
      decide +kernel
    intro p hp hdir
    rw [hone p hp hdir]
    exact files_project
  have hfiles : (collected s.tree (fun _ => found) (given s.tree paths)).filter (isWanted c list) =
      files := by decide +kernel
  obtain ⟨hrun, -, -, -, hcalls, -⟩ := run_requested default Linter.complaining .text list c
    (Walk.files default s.tree) (fun _ => found) hfound
  rw [hfiles] at hrun hcalls
  obtain ⟨started, hstarted, -, hnever⟩ := hcalls
  refine ⟨hrun, fun i hi => hnever .tsLint (by decide +kernel) i ?_⟩
  rwa [show answer.2.calls = started from hstarted] at hi

end Run

end Command.Check
end LintHub
