import LintHub.FileTree.Basic

/-!
# What a path leads to

A path is followed name by name. A `..` leads to the directory above, whatever link
led here; a link is replaced by its target; whatever stands before a separator has to
be a directory. A walk follows at most forty links. The last name may be missing:
then a walk ends at a vacant spot of an existing directory.
-/

namespace LintHub

/-- Why an operation on files fails. -/
inductive FileError where
  | notFound
  | alreadyExists
  | notDirectory
  | isDirectory
  | invalid
  | nameTooLong
  | notEmpty
  | tooManyLinks
  | permissionDenied
  /-- A program file that nothing can run. -/
  | notProgram
  /-- A path with a NUL character. -/
  | nulInName
  /-- The source of a copy is no file. -/
  | notCopyable
  /-- No directory above a missing one exists. -/
  | noParent
  /-- The contents of a text file are not UTF-8. -/
  | notText
  /-- Any other failure the system reports, by its number: a full disk, a busy mount, a command
  line that is too long. -/
  | system (number : Nat) (reason : String)
  deriving DecidableEq, Repr

/-- What a failure is called. -/
def FileError.reason : FileError → String
  | .notFound => "No such file or directory"
  | .alreadyExists => "File exists"
  | .notDirectory => "Not a directory"
  | .isDirectory => "Is a directory"
  | .invalid => "Invalid argument"
  | .nameTooLong => "File name too long"
  | .notEmpty => "Directory not empty"
  | .tooManyLinks => "Too many levels of symbolic links"
  | .permissionDenied => "Permission denied"
  | .notProgram => "Exec format error"
  | .nulInName => "file name contained an unexpected NUL byte"
  | .notCopyable => "the source path is neither a regular file nor a symlink to a regular file"
  | .noParent => "failed to create whole tree"
  | .notText => "stream did not contain valid UTF-8"
  | .system _ reason => reason

/-- The number under which the system reports a failure, if the system does. -/
def FileError.number : FileError → Option Nat
  | .notFound => some 2
  | .notProgram => some 8
  | .permissionDenied => some 13
  | .alreadyExists => some 17
  | .notDirectory => some 20
  | .isDirectory => some 21
  | .invalid => some 22
  | .nameTooLong => some 36
  | .notEmpty => some 39
  | .tooManyLinks => some 40
  | .system number _ => some number
  | _ => none

/-- The text of a failure. -/
def FileError.message (e : FileError) : String :=
  match e.number with
  | some n => e.reason ++ " (os error " ++ toString n ++ ")"
  | none => e.reason

namespace FileTree

/-- One piece of a path, as a walk takes it. -/
inductive Move where
  /-- An empty piece, as behind a separator at the end. -/
  | nothing
  /-- A `.`. -/
  | stay
  /-- A `..`. -/
  | up
  | name (s : String)
  deriving DecidableEq, Repr

/-- The move that a piece between separators asks for. -/
def Move.ofPiece : List Char → Move
  | [] => .nothing
  | ['.'] => .stay
  | ['.', '.'] => .up
  | cs => .name (String.ofList cs)

/-- The moves of a path. -/
def moves (p : Path) : List Move := (Text.fields '/' p.chars).map Move.ofPiece

/-- Where a walk ends. -/
inductive Spot where
  /-- At something that is there. -/
  | taken (k : Place) (e : Entry)
  /-- At a name that is missing from an existing directory; `asDirectory` says that a
  separator follows the name. -/
  | vacant (dir : Place) (name : String) (asDirectory : Bool)
  deriving DecidableEq, Repr

/-- Names may not be longer than this, in bytes. -/
def longestName : Nat := 255

/-- Paths may not be longer than this, in bytes. -/
def longestPath : Nat := 4095

/-- How many links a walk follows. -/
def linkLimit : Nat := 40

/-- Walks on from an existing directory. `follow` says whether a link at the end is
followed, and `viaLink` how to walk on from a directory behind a link. -/
def walkWith (viaLink : Place → List Move → Except FileError Spot) (t : FileTree) (follow : Bool) :
    Place → List Move → Except FileError Spot
  | dir, [] => .ok (.taken dir .directory)
  | dir, .nothing :: ms => walkWith viaLink t follow dir ms
  | dir, .stay :: ms => walkWith viaLink t follow dir ms
  | dir, .up :: ms => walkWith viaLink t follow dir.dropLast ms
  | dir, .name s :: ms =>
    if longestName < s.utf8ByteSize then .error .nameTooLong
    else match t.get? (dir ++ [s]) with
      | none => if ms.all (· == .nothing) then .ok (.vacant dir s !ms.isEmpty) else .error .notFound
      | some .directory => walkWith viaLink t follow (dir ++ [s]) ms
      | some (.file content mode) =>
        if ms.isEmpty then .ok (.taken (dir ++ [s]) (.file content mode)) else .error .notDirectory
      | some (.link target) =>
        if ms.isEmpty && !follow then .ok (.taken (dir ++ [s]) (.link target))
        else viaLink (if (Path.mk target).isAbsolute then [] else dir) (moves ⟨target⟩ ++ ms)

/-- Walks on from an existing directory, following at most `links` links. -/
def walk (t : FileTree) (follow : Bool) : Nat → Place → List Move → Except FileError Spot
  | 0 => walkWith (fun _ _ => .error .tooManyLinks) t follow
  | links + 1 => walkWith (walk t follow links) t follow

/-- What a path leads to. -/
def locate (t : FileTree) (follow : Bool) (p : Path) : Except FileError Spot :=
  if p.chars.contains (Char.ofNat 0) then .error .nulInName
  else if p.text.isEmpty then .error .notFound
  else if longestPath < p.text.utf8ByteSize then .error .nameTooLong
  else if p.isAbsolute then walk t follow linkLimit [] (moves p)
  else if t.hasDirectory t.here then walk t follow linkLimit t.here (moves p)
  else .error .notFound

/-- What stands where a path leads, with its place. -/
def find? (t : FileTree) (follow : Bool) (p : Path) : Except FileError (Place × Entry) :=
  match t.locate follow p with
  | .ok (.taken k e) => .ok (k, e)
  | .ok (.vacant ..) => .error .notFound
  | .error e => .error e

/-- Whether a path leads to anything, links followed. -/
def exists? (t : FileTree) (p : Path) : Bool := (t.find? true p).isOk

/-- Whether a path leads to a file, links followed. -/
def isFile (t : FileTree) (p : Path) : Bool :=
  match t.find? true p with
  | .ok (_, .file ..) => true
  | _ => false

/-- Whether a path leads to a directory, links followed. -/
def isDirectory (t : FileTree) (p : Path) : Bool :=
  match t.find? true p with
  | .ok (_, .directory) => true
  | _ => false

/-- The place of the directory that a path leads to. -/
def directoryAt (t : FileTree) (p : Path) : Except FileError Place :=
  match t.find? true p with
  | .ok (k, .directory) => .ok k
  | .ok _ => .error .notDirectory
  | .error e => .error e

/-- The contents of the file that a path leads to. -/
def readBytes (t : FileTree) (p : Path) : Except FileError Bytes :=
  match t.find? true p with
  | .ok (_, .file content _) => .ok content
  | .ok _ => .error .isDirectory
  | .error e => .error e

/-- The text of the file that a path leads to. -/
def readText (t : FileTree) (p : Path) : Except FileError String :=
  match t.readBytes p with
  | .ok bytes =>
    match Text.decode? bytes with
    | some cs => .ok (String.ofList cs)
    | none => .error .notText
  | .error e => .error e

end FileTree
end LintHub
