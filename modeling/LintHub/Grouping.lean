import LintHub.Kind

/-!
# Grouping files by linter

Files are collected per linter in the order in which they come; a path that is the
same as an earlier one of its group is dropped, and so is a path that no linter
handles. The groups stand in running order and none is empty.
-/

namespace LintHub

/-- The files of one linter, in order. -/
structure Batch where
  kind : Kind
  files : List Path
  deriving Repr, DecidableEq

namespace Batch

/-- Adds a file behind the others unless it is already there. -/
def addFile (files : List Path) (file : Path) : List Path :=
  if files.any (Path.Same file ·) then files else files ++ [file]

/-- Adds a file to the batch of its linter, opening the batch in running order. -/
def add (kind : Kind) (file : Path) : List Batch → List Batch
  | [] => [⟨kind, [file]⟩]
  | b :: bs =>
    if kind.rank < b.kind.rank then ⟨kind, [file]⟩ :: b :: bs
    else if b.kind = kind then { b with files := addFile b.files file } :: bs
    else b :: add kind file bs

end Batch

/-- Puts one more file into the batches; a file no linter handles is dropped. -/
def collect (batches : List Batch) (file : Path) : List Batch :=
  match Kind.ofPath file with
  | none => batches
  | some kind => Batch.add kind file batches

/-- Groups files by the linter that handles them. -/
def groupFiles (files : List Path) : List Batch := files.foldl collect []

end LintHub
