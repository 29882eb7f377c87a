import LintHub.Ignore.Directory

/-!
# Walking a directory

A walk lists the files below a directory. Hidden names are left out unless a rule keeps
them, whatever an ignore rule drops is left out with everything below it, and links are
not followed, the path of the walk itself aside. The rules of the directories above the
start hold as well; a fault in one of those ends the walk before it begins.

* `Walk.below` descends at most as many levels as the tree has.
-/

namespace LintHub

/-- Why a walk did not begin. -/
structure WalkError where
  root : Path
  /-- What is wrong with the rules above the start. -/
  messages : List String
  deriving DecidableEq, Repr

namespace WalkError

/-- The text of a failure. -/
def message (e : WalkError) : String := "Failed to walk " ++ e.root.text

/-- The texts of the failures behind a failure. -/
def causes (e : WalkError) : List String := ["\n".intercalate e.messages]

end WalkError

/-- What stays the same during a walk. -/
structure Walk where
  tree : FileTree
  user : Ignore.UserRules

/-- The directories above a place, the nearest one first. -/
def Place.above (k : Place) : List Place := (List.range k.length).reverse.map fun n => k.take n

namespace Walk

/-- Whether a name begins with a dot. -/
def isHidden (name : String) : Bool := name.toList.head? == some '.'

/-- Whether a walk leaves out what stands under a name. -/
def leavesOut (w : Walk) (dirs : List Ignore.Directory) (path : Path) (k : Place) (name : String)
    (e : Entry) : Bool :=
  match Ignore.keeps? w.user dirs path k (e == .directory) with
  | some keep => !keep
  | none => isHidden name

/-- What a directory holds, ordered by name. -/
def entriesOf (t : FileTree) (k : Place) : List (String × Entry) :=
  (t.children k).mergeSort fun a b => !decide (b.1 < a.1)

/-- The files below a directory, at most so many levels down. `dirs` are the directories
above it. -/
def below (w : Walk) : Nat → List Ignore.Directory → Path → Place → List Path
  | 0, _, _, _ => []
  | levels + 1, dirs, path, k =>
    let dirs := Ignore.Directory.read w.tree k :: dirs
    (entriesOf w.tree k).flatMap fun (name, e) =>
      let path := path.joinText name
      let k := k ++ [name]
      if w.leavesOut dirs path k name e then []
      else match e with
        | .file .. => [path]
        | .directory => below w levels dirs path k
        | .link _ => []

/-- How many levels a tree has. -/
def levels (t : FileTree) : Nat := t.entries.foldl (fun n e => max n e.1.length) 0 + 1

/-- The files below the directory that a path leads to, each with the path as it was
given in front; nothing if there is no directory. -/
def files (h : Host) (t : FileTree) (root : Path) : Except WalkError (List Path) :=
  match t.directoryAt root with
  | .error _ => .ok []
  | .ok k =>
    let above := (Place.above k).map (Ignore.Directory.read t)
    match above.reverse.flatMap (·.messages) with
    | [] => .ok ((Walk.mk t (Ignore.UserRules.read t h)).below (levels t) above root k)
    | messages => .error ⟨root, messages⟩

end Walk
end LintHub
