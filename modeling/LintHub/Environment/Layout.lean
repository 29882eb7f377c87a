import LintHub.Config
import LintHub.FileTree.Lookup
import LintHub.Host

/-!
# The layout of an environment

An environment is a directory with the installed packages in `node_modules`, the
linters in its `.bin`, and a marker file that setup writes last. It is valid when the
marker is a file and enough package directories are there.
-/

namespace LintHub

/-- Where an environment lives and how many packages make it complete. -/
structure Layout where
  execDir : Path
  minModules : Nat
  deriving DecidableEq, Repr

namespace Layout

/-- The name of the marker file. -/
def markerName : String := "log.txt"

/-- The name of the directory of packages. -/
def modulesName : String := "node_modules"

/-- The directory of an environment unless another is written: one per version, among
the temporary files. -/
def defaultExecDir (h : Host) : Path := h.temporary.joinText ("weblint" ++ version)

/-- The layout that a configuration asks for. -/
def ofSettings (h : Host) (s : EnvironmentSettings) : Layout where
  execDir := s.execDir.getD (defaultExecDir h)
  minModules := s.minModules

/-- The directory of packages. -/
def modulesDir (l : Layout) : Path := l.execDir.joinText modulesName

/-- The marker file. -/
def marker (l : Layout) : Path := l.execDir.joinText markerName

/-- The executable of a tool. -/
def toolPath (l : Layout) (tool : String) : Path := (l.modulesDir.joinText ".bin").joinText tool

/-- How many directories stand among the packages; links to directories do not count. -/
def moduleCount (l : Layout) (t : FileTree) : Nat :=
  match t.directoryAt l.modulesDir with
  | .ok k => (t.children k).countP fun c => c.2 == .directory
  | .error _ => 0

/-- Whether the environment is complete. -/
def isValid (l : Layout) (t : FileTree) : Bool :=
  t.isFile l.marker && t.isDirectory l.modulesDir && l.minModules ≤ l.moduleCount t

end Layout
end LintHub
