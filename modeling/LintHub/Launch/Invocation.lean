import LintHub.Path

/-!
# Invocations

One start of a program: what is started, with which arguments and files, where, and
which directory is searched for programs behind all others.
-/

namespace LintHub

/-- One start of a program. -/
structure Invocation where
  program : Path
  /-- The arguments in front of the files. -/
  arguments : List String
  /-- The files, each an argument of its own. -/
  files : List Path
  workingDir : Path
  /-- A directory searched for programs behind all others, if it exists. -/
  extraPath : Option Path
  deriving DecidableEq, Repr

namespace Invocation

/-- A start without arguments. -/
def ofProgram (program workingDir : Path) : Invocation where
  program := program
  arguments := []
  files := []
  workingDir := workingDir
  extraPath := none

/-- Adds arguments. -/
def addArguments (i : Invocation) (arguments : List String) : Invocation :=
  { i with arguments := i.arguments ++ arguments }

/-- Adds files. -/
def addFiles (i : Invocation) (files : List Path) : Invocation :=
  { i with files := i.files ++ files }

/-- Sets the directory searched behind all others. -/
def withExtraPath (i : Invocation) (dir : Option Path) : Invocation := { i with extraPath := dir }

/-- The command line as people read it: files stand in quotes. -/
def commandLine (i : Invocation) : String :=
  i.program.text ++ String.join (i.arguments.map fun a => " " ++ a) ++
    String.join (i.files.map fun f => " \"" ++ f.text ++ "\"")

end Invocation
end LintHub
