import LintHub.Host
import LintHub.Launch.Runner
import LintHub.Shell.Run
import LintHub.Text.Blank

/-!
# Starting programs

The runner that starts programs on the host: the working directory is entered first,
then the program is looked up, then it runs, and what it wrote is trimmed. A directory
that is to be searched behind all others counts only if it exists and its name can
stand in a search path. The system may refuse a start for reasons of its own.
-/

namespace LintHub.Spawn

open Shell (Raw Image Tool State)

/-- The search path with one more directory at its end, if that is possible. -/
def extendedPath (h : Host) (t : FileTree) (extra : Option Path) : Option String :=
  match extra with
  | some dir =>
    if t.isDirectory dir && !dir.chars.contains ':' then some (h.searchPath ++ ":" ++ dir.text)
    else none
  | none => none

/-- What a program finds in its environment: what the host has, in the order of the names
if a search path of its own is written into it. -/
def environment (h : Host) (extended : Option String) : List (Raw × Raw) :=
  let pairs := match extended with
    | some path => Host.sorted (h.withValue "PATH" path).environment
    | none => h.environment
  pairs.map fun v => (Raw.ofString v.1, Raw.ofString v.2)

/-- The paths under which a program is looked up, in order. -/
def searchPaths (searchPath : String) (program : Path) : List Path :=
  if program.chars.contains '/' then [program]
  else (Text.fields ':' searchPath.toList).map fun dir =>
    if dir.isEmpty then program else (Path.ofChars dir).join program

/-- What runs in place of a program that is none: a shell, if the search path was
changed and the program was searched for. -/
def asScript (byShell : Bool) (p : Path) (arguments : List Raw) :
    Except FileError (Tool × List Raw) :=
  if byShell then .ok (.sh, Raw.ofString "/bin/sh" :: Raw.ofString p.text :: arguments.drop 1)
  else .error .notProgram

/-- The tool that runs for a program, tried under each path; a file that may not be
executed is remembered in case nothing else is found. -/
def find (t : FileTree) (byShell : Bool) (arguments : List Raw) :
    Bool → List Path → Except FileError (Tool × List Raw)
  | denied, [] => .error (if denied then .permissionDenied else .notFound)
  | denied, p :: ps =>
    match Image.resolve t Image.interpreterLimit p arguments with
    | .ok r => .ok r
    | .error .notProgram => asScript byShell p arguments
    | .error .permissionDenied => find t byShell arguments true ps
    | .error .notFound => find t byShell arguments denied ps
    | .error .notDirectory => if ps.isEmpty && !denied then .error .notDirectory
      else find t byShell arguments denied ps
    | .error e => .error e

/-- The state in which a program starts. -/
def startState (t : FileTree) (dir : Place) (environment : List (Raw × Raw)) : State where
  tree := { t with here := dir }
  bindings := environment
  exported := environment.map (·.1)
  isShell := false
  functions := []
  name := []
  arguments := []
  status := 0
  pace := .running
  loops := 0
  channels := [[], []]
  descriptors := [(0, .nowhere), (1, .channel 0), (2, .channel 1)]
  input := []
  process := 1000
  line := 1
  exitOnError := false
  exitOnUnset := false
  tested := false

/-- The text of a stream: malformed parts are replaced and blanks around it dropped. -/
def streamText (r : Raw) : String :=
  String.ofList (Text.trim (Text.decodeLossy (Raw.toBytes r)))

/-- What a program that has ended leaves. -/
def outputOf (s : State) : Output where
  stdout := streamText (s.written 0)
  stderr := streamText (s.written 1)
  status := match s.pace with
    | .killed _ => none
    | _ => some s.status

/-- Whether an argument cannot be passed on. -/
def hasNul (s : String) : Bool := s.toList.contains (Char.ofNat 0)

/-- The tool that a start runs and its arguments, the name first, with the directory it
runs in and the search path written for it; or why nothing starts. -/
def prepare (h : Host) (t : FileTree) (i : Invocation) :
    Except LaunchCause (Tool × List Raw × Place × Option String) :=
  let words := i.program.text :: i.arguments ++ i.files.map (·.text)
  if words.any hasNul || hasNul i.workingDir.text then .error .nulInArgument
  else if let some e := h.refusal? i then .error (.system e)
  else
    let extended := extendedPath h t i.extraPath
    let path := extended.getD h.searchPath
    match t.directoryAt i.workingDir with
    | .error e => .error (.system e)
    | .ok dir =>
      if i.program.text.isEmpty then .error (.system .notFound)
      else
        let inside := { t with here := dir }
        let byShell := extended.isSome && !i.program.chars.contains '/'
        match find inside byShell (words.map Raw.ofString) false (searchPaths path i.program) with
        | .error e => .error (.system e)
        | .ok (tool, arguments) => .ok (tool, arguments, dir, extended)

/-- Starts programs on a host. -/
def run (h : Host) : Runner Unit := fun i _ t =>
  match prepare h t i with
  | .error cause => (.error ⟨.start, i.program, cause⟩, (), t)
  | .ok (tool, arguments, dir, extended) =>
    let s := startState t dir (environment h extended)
    let s := Shell.runTool Shell.depthLimit true tool arguments s
    (.ok (outputOf s), (), { s.tree with here := t.here })

end LintHub.Spawn
