import Mathlib.Data.Finset.Card
import Mathlib.Data.List.Destutter
import Mathlib.Data.List.Lex
import Mathlib.Data.Prod.Lex
import Mathlib.Data.String.Basic
import LintHub.Proofs.Environment.Validity
import LintHub.Proofs.Report.Blocks
import LintHub.Proofs.Starts
import LintHub.Proofs.Shares

/-!
# What a summary counts

A summary counts the files of its runs as paths: spellings of one path are one file, in whatever
runs and in whatever order they come. The same number is found by sorting the files, with
whatever order among spellings of one path, and dropping each that repeats the one before it,
since paths are sorted by their components (`Path.key`).

* `Summary.files_eq`: the files are the classes of the same paths.
* `Summary.files_eq_of_sorted`: sorting finds the same number.
* `Summary.ofRuns_exact`: all counts, what they do not depend on, how they add up, and what
  they are for the runs of a call.
-/

namespace LintHub

variable {σ : Type} {files files' : List Path} {runs runs' : List LintRun}

namespace Path

/-- The classes of the same paths among these, each given by its components. -/
def classes (files : List Path) : Finset (List Component) := (files.map components).toFinset

theorem mem_classes {c : List Component} : c ∈ classes files ↔ ∃ f ∈ files, f.components = c := by
  simp [classes]

/-- Where a component stands in order: the root, a `.`, a `..`, then names by their characters. -/
def Component.key : Component → Nat ×ₗ String
  | .root => toLex (0, "")
  | .here => toLex (1, "")
  | .up => toLex (2, "")
  | .name s => toLex (3, s)

/-- Where a path stands in order: by its components, from the front. -/
def key (p : Path) : List (Nat ×ₗ String) := p.components.map Component.key

theorem Component.key_injective : Function.Injective Component.key := by
  intro c d h
  cases c <;> cases d <;> simp_all [Component.key]

/-- The order does not tell spellings of one path apart, and tells all else apart. -/
theorem key_eq_iff {p q : Path} : p.key = q.key ↔ p.Same q :=
  (Component.key_injective.list_map).eq_iff

theorem classes_append (files files' : List Path) :
    classes (files ++ files') = classes files ∪ classes files' := by
  simp [classes]

theorem classes_perm (h : files.Perm files') : classes files = classes files' := by
  ext c
  simp only [mem_classes, h.mem_iff]

/-- Files none of which repeats another make as many classes. -/
theorem card_classes_of_distinct (h : files.Pairwise fun f g => ¬ f.Same g) :
    (classes files).card = files.length := by
  have hnodup : (files.map components).Nodup := List.pairwise_map.2 h
  rw [classes, List.toFinset_card_of_nodup hnodup, List.length_map]

end Path

/-- The first of each class stands for it. -/
theorem classes_distinctPaths (files : List Path) :
    Path.classes (distinctPaths files) = Path.classes files := by
  ext c
  rw [Path.mem_classes, Path.mem_classes]
  constructor
  · rintro ⟨f, hf, rfl⟩
    exact ⟨f, Batch.mem_of_mem_foldl_addFile hf, rfl⟩
  · rintro ⟨f, hf, rfl⟩
    exact Batch.exists_same_foldl_addFile [] hf

theorem length_distinctPaths (files : List Path) :
    (distinctPaths files).length = (Path.classes files).card := by
  rw [← classes_distinctPaths]
  exact (Path.card_classes_of_distinct (Batch.distinct_foldl_addFile files)).symm

/-- **Sorting finds the classes.** Whatever the order among spellings of one path, they stand
together, so what is left when each that repeats the one before it is dropped is one of each. -/
theorem Path.length_destutter (h : files.Pairwise fun f g => f.key ≤ g.key) :
    (files.destutter fun f g => ¬ f.Same g).length = (Path.classes files).card := by
  have hkeys : (files.destutter fun f g => ¬ f.Same g).map Path.key =
      (files.map Path.key).dedup := by
    rw [← (List.pairwise_map.2 h).destutter_eq_dedup]
    exact List.map_destutter fun f _ g _ => not_congr Path.key_eq_iff.symm
  calc (files.destutter fun f g => ¬ f.Same g).length
      = ((files.map Path.key).dedup).length := by rw [← hkeys, List.length_map]
    _ = (((files.map Path.components).toFinset).image (List.map Path.Component.key)).card := by
      rw [← List.card_toFinset]
      congr 1
      ext c
      simp [Path.key]
    _ = (Path.classes files).card :=
      Finset.card_image_of_injective _ Path.Component.key_injective.list_map

namespace Summary

/-- The same runs in another order, each with its files and its diagnostics in another order. -/
def Rearranged (runs runs' : List LintRun) : Prop :=
  ∃ moved, runs.Perm moved ∧
    List.Forall₂ (fun r r' => r.files.Perm r'.files ∧ r.diagnostics.Perm r'.diagnostics) moved runs'

theorem files_eq (runs : List LintRun) :
    (ofRuns runs).files = (Path.classes (runs.flatMap (·.files))).card :=
  length_distinctPaths _

/-- **The files can be counted by sorting them.** -/
theorem files_eq_of_sorted (hperm : files.Perm (runs.flatMap (·.files)))
    (hsorted : files.Pairwise fun f g => f.key ≤ g.key) :
    (ofRuns runs).files = (files.destutter fun f g => ¬ f.Same g).length := by
  rw [files_eq, Path.length_destutter hsorted, Path.classes_perm hperm]

/-- No diagnostic is left out: it is an error or a warning. -/
theorem countOf_add_countOf (ds : List Diagnostic) :
    countOf .error ds + countOf .warning ds = ds.length := by
  induction ds with
  | nil => rfl
  | cons d ds ih =>
    simp only [countOf, List.countP_cons, List.length_cons] at ih ⊢
    cases d.severity <;> simp <;> omega

theorem errors_add_warnings (runs : List LintRun) :
    (ofRuns runs).errors + (ofRuns runs).warnings = (runs.flatMap (·.diagnostics)).length := by
  rw [← countOf_add_countOf]
  exact congrArg₂ (· + ·) (countAll_eq .error runs) (countAll_eq .warning runs)

/-- A summary is read off the files and the diagnostics of all runs, in whatever order. -/
theorem ofRuns_congr (hlength : runs.length = runs'.length)
    (hfiles : (runs.flatMap (·.files)).Perm (runs'.flatMap (·.files)))
    (hdiagnostics : (runs.flatMap (·.diagnostics)).Perm (runs'.flatMap (·.diagnostics))) :
    ofRuns runs = ofRuns runs' := by
  have hcount (severity : Severity) : countAll severity runs = countAll severity runs' := by
    rw [countAll_eq, countAll_eq]
    exact hdiagnostics.countP_eq _
  have hdistinct : (ofRuns runs).files = (ofRuns runs').files := by
    rw [files_eq, files_eq, Path.classes_perm hfiles]
  simp only [ofRuns, hlength, hcount] at hdistinct ⊢
  rw [hdistinct]

theorem flatMap_perm_of_forall₂ {β : Type} {f : LintRun → List β}
    (h : List.Forall₂ (fun r r' => (f r).Perm (f r')) runs runs') :
    (runs.flatMap f).Perm (runs'.flatMap f) := by
  induction h with
  | nil => exact .nil
  | cons hr _ ih =>
    rw [List.flatMap_cons, List.flatMap_cons]
    exact hr.append ih

/-- **The order does not matter**, of the runs or inside them. -/
theorem ofRuns_of_rearranged (h : Rearranged runs runs') : ofRuns runs = ofRuns runs' := by
  obtain ⟨moved, hperm, heach⟩ := h
  calc ofRuns runs
      = ofRuns moved :=
        ofRuns_congr hperm.length_eq (hperm.flatMap_right _) (hperm.flatMap_right _)
    _ = ofRuns runs' :=
        ofRuns_congr heach.length_eq (flatMap_perm_of_forall₂ (heach.imp fun _ _ h => h.1))
          (flatMap_perm_of_forall₂ (heach.imp fun _ _ h => h.2))

/-- **How the counts of two lists of runs add up**: a file of both counts once. -/
theorem ofRuns_append (runs more : List LintRun) :
    (ofRuns (runs ++ more)).runs = (ofRuns runs).runs + (ofRuns more).runs ∧
    (ofRuns (runs ++ more)).errors = (ofRuns runs).errors + (ofRuns more).errors ∧
    (ofRuns (runs ++ more)).warnings = (ofRuns runs).warnings + (ofRuns more).warnings ∧
    max (ofRuns runs).files (ofRuns more).files ≤ (ofRuns (runs ++ more)).files ∧
    (ofRuns (runs ++ more)).files ≤ (ofRuns runs).files + (ofRuns more).files := by
  have hcount (severity : Severity) :
      countAll severity (runs ++ more) = countAll severity runs + countAll severity more := by
    rw [countAll_eq, countAll_eq, countAll_eq, List.flatMap_append]
    exact List.countP_append
  refine ⟨List.length_append, hcount .error, hcount .warning, ?_, ?_⟩
  all_goals rw [files_eq, files_eq, files_eq, List.flatMap_append, Path.classes_append]
  · exact max_le (Finset.card_le_card Finset.subset_union_left)
      (Finset.card_le_card Finset.subset_union_right)
  · exact Finset.card_union_le _ _

end Summary

namespace Checker

variable {k : Checker} {run : Runner σ} {s : Session σ}

/-- The files of the runs of a call are those of its groups. -/
theorem flatMap_files_of_lint (h : (k.lint run files s).1 = .ok runs) :
    runs.flatMap (·.files) = (groupFiles files).flatMap (·.files) := by
  rw [← groups_of_lint h, List.flatMap_map]

/-- No path is in two groups, or in one twice. -/
theorem distinct_files_of_groups (files : List Path) :
    ((groupFiles files).flatMap (·.files)).Pairwise fun f g => ¬ f.Same g := by
  rw [List.pairwise_flatMap]
  constructor
  · intro b hb
    rw [(mem_groupFiles_iff.1 hb).1]
    exact Kind.distinct_share b.kind files
  · refine (isGrouping_groupFiles files).ordered.imp_of_mem ?_
    intro b b' hb hb' hrank f hf f' hf' hsame
    obtain ⟨rfl, -⟩ := eq_of_same_in_groups hb hb' hf hf' hsame
    exact Nat.lt_irrefl _ hrank

/-- The groups hold the files that some linter handles, as paths. -/
theorem classes_groups (files : List Path) :
    Path.classes ((groupFiles files).flatMap (·.files)) =
      Path.classes (files.filter fun f => (Kind.ofPath f).isSome) := by
  ext c
  rw [Path.mem_classes, Path.mem_classes]
  constructor
  · rintro ⟨f, hf, rfl⟩
    obtain ⟨b, hb, hf⟩ := List.mem_flatMap.1 hf
    obtain ⟨hmem, hkind⟩ := mem_of_mem_groupFiles hb hf
    exact ⟨f, List.mem_filter.2 ⟨hmem, by rw [hkind]; rfl⟩, rfl⟩
  · rintro ⟨f, hf, rfl⟩
    obtain ⟨hmem, hsome⟩ := List.mem_filter.1 hf
    obtain ⟨kind, hkind⟩ := Option.isSome_iff_exists.1 hsome
    obtain ⟨f', hf', hsame⟩ := Kind.exists_same_mem_share hmem hkind
    have hgroup : Batch.mk kind (kind.share files) ∈ groupFiles files :=
      mem_groupFiles_iff.2 ⟨rfl, List.ne_nil_of_mem hf'⟩
    exact ⟨f', List.mem_flatMap.2 ⟨_, hgroup, hf'⟩, hsame⟩

end Checker

namespace Summary

/-- **A summary counts what a call of `lint` produced.** For any runs, the files are the classes
of the same paths, which sorting them and dropping repeats finds as well; every diagnostic is
an error or a warning; the order of the runs, and of what is in them, does not matter; and of
two lists of runs the counts add up, but for files of both. For the runs of a call no file is
counted twice, and the files are the given paths that some linter handles. -/
theorem ofRuns_exact (runs : List LintRun) :
    let all := runs.flatMap (·.files)
    (ofRuns runs).runs = runs.length ∧
    (ofRuns runs).files = (Path.classes all).card ∧
    (∀ sorted : List Path, sorted.Perm all → sorted.Pairwise (fun f g => f.key ≤ g.key) →
      (ofRuns runs).files = (sorted.destutter fun f g => ¬ f.Same g).length) ∧
    (ofRuns runs).errors = countOf .error (runs.flatMap (·.diagnostics)) ∧
    (ofRuns runs).errors + (ofRuns runs).warnings = (runs.flatMap (·.diagnostics)).length ∧
    (∀ runs', Rearranged runs runs' → ofRuns runs = ofRuns runs') ∧
    (∀ more,
      (ofRuns (runs ++ more)).runs = (ofRuns runs).runs + (ofRuns more).runs ∧
      (ofRuns (runs ++ more)).errors = (ofRuns runs).errors + (ofRuns more).errors ∧
      (ofRuns (runs ++ more)).warnings = (ofRuns runs).warnings + (ofRuns more).warnings ∧
      max (ofRuns runs).files (ofRuns more).files ≤ (ofRuns (runs ++ more)).files ∧
      (ofRuns (runs ++ more)).files ≤ (ofRuns runs).files + (ofRuns more).files) ∧
    ∀ (σ : Type) (k : Checker) (run : Runner σ) (files : List Path) (s : Session σ),
      (k.lint run files s).1 = .ok runs →
        (ofRuns runs).files = (runs.map (·.files.length)).sum ∧
        (ofRuns runs).files =
          (Path.classes (files.filter fun f => (Kind.ofPath f).isSome)).card := by
  intro all
  refine ⟨rfl, files_eq runs, fun sorted => files_eq_of_sorted, countAll_eq .error runs,
    errors_add_warnings runs, fun runs' => ofRuns_of_rearranged, ofRuns_append runs,
    fun σ k run files s h => ?_⟩
  have hgroups := Checker.flatMap_files_of_lint h
  constructor
  · have hdistinct := Checker.distinct_files_of_groups files
    rw [← hgroups] at hdistinct
    rw [files_eq, Path.card_classes_of_distinct hdistinct, List.length_flatMap]
  · rw [files_eq, hgroups, Checker.classes_groups]

theorem ofRuns_exact_two_spellings :
    let files : List Path := [⟨"/b.ts"⟩, ⟨"//a.js"⟩, ⟨"/notes.txt"⟩, ⟨"/./a.js"⟩]
    let runs : List LintRun := [⟨.esLint, [⟨"//a.js"⟩], []⟩, ⟨.tsLint, [⟨"/b.ts"⟩], []⟩]
    (Checker.twoLinters.lint Provisioner.idle files ⟨Checker.twoFiles, (), [], []⟩).1 = .ok runs ∧
      (ofRuns runs).files = (runs.map (·.files.length)).sum ∧
      ofRuns runs = ofRuns runs.reverse ∧
      (ofRuns runs).files =
        ([⟨"//a.js"⟩, ⟨"/b.ts"⟩].destutter fun f g : Path => ¬ f.Same g).length := by
  intro files runs
  have hlint : (Checker.twoLinters.lint Provisioner.idle files
      ⟨Checker.twoFiles, (), [], []⟩).1 = .ok runs := by decide +kernel
  obtain ⟨-, -, hsorted, -, -, hrearranged, -, hcall⟩ := ofRuns_exact runs
  refine ⟨hlint, (hcall _ _ _ _ _ hlint).1, hrearranged _ ⟨_, (List.reverse_perm runs).symm, ?_⟩,
    hsorted _ (.refl _) (by decide +kernel)⟩
  exact List.forall₂_same.2 fun _ _ => ⟨.refl _, .refl _⟩

end Summary
end LintHub
