import LintHub.FileTree.Edit

/-!
# Listing and laying out files

`place` makes an entry with the directories above it; `listing` shows everything below
a directory, ordered by the text of the relative path.
-/

namespace LintHub.FileTree

/-- Makes an entry at a path, with the missing directories above it. What fails is
left undone. A file that is there already keeps its permission bits, unless the new
one is a program. -/
def place (t : FileTree) (p : Path) (e : Entry) : FileTree :=
  let above (t : FileTree) : FileTree :=
    match p.parent? with
    | some parent => (t.makeDirectories parent).2
    | none => t
  match e with
  | .directory => (t.makeDirectories p).2
  | .file content mode =>
    let t := ((above t).write p content).2
    if isExecutable mode then (t.setMode p mode).2 else t
  | .link target => ((above t).makeLink p target).2

/-- Makes entries in order, at paths below a directory. -/
def placeAll (t : FileTree) (dir : Path) (entries : List (String × Entry)) : FileTree :=
  entries.foldl (fun t e => t.place (dir.joinText e.1) e.2) t

/-- Removes whatever is at a path, a directory with everything below it. -/
def discard (t : FileTree) (p : Path) : FileTree :=
  match t.find? false p with
  | .ok (k, _) => t.erase k
  | .error _ => t

/-- Everything below the directory that a path leads to, with relative paths, ordered
by their characters; nothing if there is no such directory. -/
def listing (t : FileTree) (p : Path) : List (String × Entry) :=
  match t.directoryAt p with
  | .error _ => []
  | .ok k =>
    let entries := (t.below k).map fun e => ("/".intercalate e.1, e.2)
    entries.mergeSort fun a b => !decide (b.1 < a.1)

end LintHub.FileTree
