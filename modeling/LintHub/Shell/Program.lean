import LintHub.Shell.Tool

/-!
# Program files

What the system does with a file it is asked to run: a tool's program file runs that
tool, a file that begins with `#!` runs the interpreter named there with the file as an
argument, and any other file is no program.
-/

namespace LintHub.Shell

/-- What a program file holds. -/
inductive Image where
  | tool (t : Tool)
  | script (interpreter : Raw) (argument : Option Raw)
  | other
  deriving DecidableEq, Repr

namespace Image

/-- What the contents of a file are as a program. -/
def ofContent (content : Bytes) : Image :=
  match Tool.ofImage? content with
  | some t => .tool t
  | none =>
    match Raw.ofBytes content with
    | '#' :: '!' :: r =>
      let blank := fun c => c == ' ' || c == '\t'
      let line := (r.takeWhile (· != '\n')).dropWhile blank
      let line := (line.reverse.dropWhile blank).reverse
      match line.takeWhile fun c => !blank c with
      | [] => .other
      | interpreter =>
        match (line.dropWhile fun c => !blank c).dropWhile blank with
        | [] => .script interpreter none
        | argument => .script interpreter (some argument)
    | _ => .other

/-- The program that a path leads to. -/
def load (t : FileTree) (p : Path) : Except FileError Image :=
  match t.find? true p with
  | .error e => .error e
  | .ok (_, .file content mode) =>
    if FileTree.isExecutable mode then .ok (ofContent content) else .error .permissionDenied
  | .ok _ => .error .permissionDenied

/-- The tool that finally runs, with all its arguments, the name first; the number
bounds how many interpreters stand between. -/
def resolve (t : FileTree) : Nat → Path → List Raw → Except FileError (Tool × List Raw)
  | 0, _, _ => .error .tooManyLinks
  | n + 1, p, arguments =>
    match load t p with
    | .error e => .error e
    | .ok (.tool found) => .ok (found, arguments)
    | .ok (.script interpreter argument) =>
      resolve t n (Raw.path interpreter)
        (interpreter :: argument.toList ++ Raw.ofString p.text :: arguments.drop 1)
    | .ok .other => .error .notProgram

/-- How many interpreters may stand between a script and a tool. -/
def interpreterLimit : Nat := 5

end Image
end LintHub.Shell
