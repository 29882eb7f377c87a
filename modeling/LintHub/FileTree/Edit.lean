import LintHub.FileTree.Lookup

/-!
# Changing a file tree

Each change is one operation of the file system, with the error that stops it. A
change of several steps that stops half-way leaves what it did so far, so all of them
return the tree together with the error.
-/

namespace LintHub.FileTree

/-- A change: why it stopped, if it did, and the tree it leaves. -/
abbrev Change (α : Type) := Except FileError α × FileTree

/-- The path without the separators at its end. -/
def withoutTrailing (p : Path) : Path :=
  match (p.chars.reverse.dropWhile (· == '/')).reverse with
  | [] => p
  | cs => Path.ofChars cs

/-- Whether a path ends in a separator behind some name. -/
def endsInSeparator (p : Path) : Bool := withoutTrailing p != p

/-- The last piece of a path, separators at the end aside. -/
def lastMove (p : Path) : Option Move := (moves (withoutTrailing p)).getLast?

/-- Where a file written at a path goes. A name with a separator behind it is refused
as a directory's name. -/
def locateForWriting (t : FileTree) (p : Path) : Except FileError Spot :=
  match lastMove p with
  | some (.name _) =>
    if endsInSeparator p then
      match t.locate false (withoutTrailing p) with
      | .ok _ => .error .isDirectory
      | .error e => .error e
    else t.locate true p
  | _ => t.locate true p

/-- Writes a file. One that is there keeps its permission bits; a new one gets `mode`. -/
def writeWithMode (t : FileTree) (p : Path) (content : Bytes) (mode : Nat) : Change Place :=
  match t.locateForWriting p with
  | .error e => (.error e, t)
  | .ok (.taken k (.file _ old)) => (.ok k, t.put k (.file content old))
  | .ok (.taken _ _) => (.error .isDirectory, t)
  | .ok (.vacant _ _ true) => (.error .isDirectory, t)
  | .ok (.vacant dir name false) =>
    (.ok (dir ++ [name]), t.put (dir ++ [name]) (.file content mode))

/-- Writes a file with the permission bits of a plain one. -/
def write (t : FileTree) (p : Path) (content : Bytes) : Change Unit :=
  let (r, t) := t.writeWithMode p content plainMode
  (r.map fun _ => (), t)

/-- Sets the permission bits of a file. -/
def setMode (t : FileTree) (p : Path) (mode : Nat) : Change Unit :=
  match t.find? true p with
  | .error e => (.error e, t)
  | .ok (k, .file content _) => (.ok (), t.put k (.file content mode))
  | .ok _ => (.ok (), t)

/-- Copies a file's contents and permission bits. A file copied onto itself is empty
afterwards, since writing begins before reading does. -/
def copy (t : FileTree) (source target : Path) : Change Unit :=
  match t.find? true source with
  | .error e => (.error e, t)
  | .ok (from_, .file content mode) =>
    match t.writeWithMode target content mode with
    | (.error e, t) => (.error e, t)
    | (.ok goal, t) => (.ok (), t.put goal (.file (if goal = from_ then [] else content) mode))
  | .ok _ => (.error .notCopyable, t)

/-- Makes a directory in an existing one. -/
def makeDirectory (t : FileTree) (p : Path) : Change Unit :=
  match t.locate false (withoutTrailing p) with
  | .error e => (.error e, t)
  | .ok (.taken ..) => (.error .alreadyExists, t)
  | .ok (.vacant dir name _) => (.ok (), t.put (dir ++ [name]) .directory)

/-- Makes a directory and the missing ones above it; the number bounds how many. -/
def makeDirectoriesWithin : Nat → FileTree → Path → Change Unit
  | 0, t, _ => (.error .noParent, t)
  | n + 1, t, p =>
    if p.text.isEmpty then (.ok (), t)
    else match t.makeDirectory p with
      | (.ok (), t) => (.ok (), t)
      | (.error .notFound, t) =>
        match p.parent? with
        | none => (.error .noParent, t)
        | some parent =>
          match makeDirectoriesWithin n t parent with
          | (.error e, t) => (.error e, t)
          | (.ok (), t) =>
            match t.makeDirectory p with
            | (.ok (), t) => (.ok (), t)
            | (.error e, t) => if t.isDirectory p then (.ok (), t) else (.error e, t)
      | (.error e, t) => if t.isDirectory p then (.ok (), t) else (.error e, t)

/-- Makes a directory and the missing ones above it. One that is there already is
left as it is. -/
def makeDirectories (t : FileTree) (p : Path) : Change Unit :=
  makeDirectoriesWithin (p.chars.length + 1) t p

/-- What stops the removal of a directory by its path, in a tree where it is empty. -/
def removalFault (t : FileTree) (p : Path) : Option FileError :=
  match lastMove p with
  | some (.name _) =>
    match t.find? false (withoutTrailing p) with
    | .ok (_, .directory) => none
    | .ok _ => some .notDirectory
    | .error e => some e
  | last =>
    match t.find? true p with
    | .ok _ => some (if last = some .stay then .invalid else .notEmpty)
    | .error e => some e

/-- Removes a directory with everything below it; of a link, only the link itself. What is below
goes first, so that a removal that fails for its path leaves the directory empty. One that the
system stops on the way may leave more (`RemovesPart`). -/
def removeAll (t : FileTree) (p : Path) : Change Unit :=
  match t.find? false p with
  | .error e => (.error e, t)
  | .ok (k, .link _) => (.ok (), t.erase k)
  | .ok (_, .file ..) => (.error .notDirectory, t)
  | .ok (k, .directory) =>
    match removalFault (t.eraseBelow k) p with
    | some e => (.error e, t.eraseBelow k)
    | none => (.ok (), t.erase k)

/-- A removal that did not come to its end: of what is below a place some is gone. -/
structure RemovesPart (t : FileTree) (k : Place) (t' : FileTree) : Prop where
  here : t'.here = t.here
  left (l : Place) : t'.get? l = t.get? l ∨ (Place.isBelow l k = true ∧ t'.get? l = none)

/-- Makes a symbolic link. -/
def makeLink (t : FileTree) (p : Path) (target : String) : Change Unit :=
  match t.locate false p with
  | .error e => (.error e, t)
  | .ok (.taken ..) => (.error .alreadyExists, t)
  | .ok (.vacant _ _ true) => (.error .notFound, t)
  | .ok (.vacant dir name false) => (.ok (), t.put (dir ++ [name]) (.link target))

/-- Removes a file or a link. -/
def unlink (t : FileTree) (p : Path) : Change Unit :=
  match t.find? false p with
  | .error e => (.error e, t)
  | .ok (_, .directory) => (.error .isDirectory, t)
  | .ok (k, _) => (.ok (), t.erase k)

end LintHub.FileTree
