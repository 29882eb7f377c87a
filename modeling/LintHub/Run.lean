import LintHub.Diagnostic

/-!
# Runs and their summary

A `LintRun` is what one linter said about one batch of files. Diagnostics are
grouped by file with an index from files to groups, so that each diagnostic is put
in place without a search; files that are the same path share a group headed by
the spelling seen first.
-/

namespace LintHub

/-- The result of one linter on one batch of files. -/
structure LintRun where
  linter : Kind
  /-- The files handed to the linter, in order. -/
  files : List Path
  /-- What the linter reported, in its own order. -/
  diagnostics : List Diagnostic
  deriving DecidableEq, Repr

/-- The diagnostics of one file, under the spelling seen first. -/
structure FileGroup where
  file : Path
  diagnostics : List Diagnostic
  deriving DecidableEq, Repr

/-- Groups under construction, with the place of each file's group. -/
structure GroupIndex where
  groups : List FileGroup
  places : List (List Path.Component × Nat)

namespace GroupIndex

/-- No group yet. -/
def empty : GroupIndex := ⟨[], []⟩

/-- Puts a diagnostic into its file's group, opening the group if there is none. -/
def add (g : GroupIndex) (d : Diagnostic) : GroupIndex :=
  match g.places.lookup d.file.components with
  | some at_ =>
    { g with groups := g.groups.modify at_ fun f => { f with diagnostics := f.diagnostics ++ [d] } }
  | none =>
    { groups := g.groups ++ [⟨d.file, [d]⟩]
      places := (d.file.components, g.groups.length) :: g.places }

end GroupIndex

/-- Groups diagnostics by file: files in the order first seen, diagnostics in
their own order. -/
def groupByFile (ds : List Diagnostic) : List FileGroup :=
  (ds.foldl GroupIndex.add GroupIndex.empty).groups

namespace LintRun

/-- Whether the linter reported anything at all. -/
def hasDiagnostics (r : LintRun) : Bool := !r.diagnostics.isEmpty

/-- How many diagnostics have this severity. -/
def count (r : LintRun) (s : Severity) : Nat := r.diagnostics.countP (·.severity == s)

/-- The diagnostics grouped by file. -/
def byFile (r : LintRun) : List FileGroup := groupByFile r.diagnostics

end LintRun

/-- Counts over several runs. -/
structure Summary where
  /-- How many linters ran. -/
  runs : Nat
  /-- How many different files they were given. -/
  files : Nat
  errors : Nat
  warnings : Nat
  deriving DecidableEq, Repr

/-- One path of each class of same paths, keeping the first. -/
def distinctPaths (files : List Path) : List Path :=
  files.foldl (fun seen f => if seen.any (Path.Same f ·) then seen else seen ++ [f]) []

/-- How many diagnostics of all the runs have this severity. -/
def countAll (s : Severity) : List LintRun → Nat
  | [] => 0
  | r :: rs => r.count s + countAll s rs

/-- The counts of a list of runs. -/
def Summary.ofRuns (runs : List LintRun) : Summary where
  runs := runs.length
  files := (distinctPaths (runs.flatMap (·.files))).length
  errors := countAll .error runs
  warnings := countAll .warning runs

end LintHub
