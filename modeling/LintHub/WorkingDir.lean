import LintHub.FileTree.Lookup

/-!
# Where a linter runs

A linter runs in the nearest directory, from the first file's directory upwards, that
holds the linter's own configuration file; if there is none, in a fallback directory,
or else where the search began. "Upwards" goes by the text of the path.
-/

namespace LintHub

namespace Path

/-- A path and the paths above it, nearest first; the number bounds how many. -/
def ancestorsWithin : Nat → Path → List Path
  | 0, p => [p]
  | n + 1, p =>
    match p.parent? with
    | none => [p]
    | some q => p :: ancestorsWithin n q

/-- A path and the paths above it, nearest first. -/
def ancestors (p : Path) : List Path := ancestorsWithin p.chars.length p

end Path

/-- Whether a directory holds a file of this name. -/
def isMarked (t : FileTree) (marker : String) (dir : Path) : Bool := t.isFile (dir.joinText marker)

/-- The nearest marked directory, if there is one. -/
def markedDir? (t : FileTree) (start : Path) (marker : String) : Option Path :=
  start.ancestors.find? (isMarked t marker)

/-- The nearest marked directory, or else the fallback, or else the start. -/
def findWorkingDir (t : FileTree) (start : Path) (marker : String) (fallback : Option Path) :
    Path :=
  match markedDir? t start marker with
  | some dir => dir
  | none => fallback.getD start

end LintHub
