import LintHub.Config
import LintHub.FileTree.Lookup
import LintHub.Host

/-!
# Where the configuration comes from

A file named on the command line comes first, then `weblint.toml` or `.weblint.toml`
of the project, then `config.toml` of the user's configuration directory; without any
of them the defaults hold. The first one found is read, and if that fails, nothing
else is tried.
-/

namespace LintHub

/-- Why a configuration cannot be loaded. -/
inductive ConfigError where
  /-- The file cannot be read. -/
  | unreadable (path : Path) (cause : FileError)
  /-- The document is no configuration. -/
  | malformed
  deriving DecidableEq, Repr

namespace ConfigError

/-- The text of a failure. What is wrong with a malformed document is not said. -/
def message : ConfigError → String
  | .unreadable path cause => "Failed to read config file " ++ path.text ++ ": " ++ cause.message
  | .malformed => "Failed to parse config: "

/-- The texts of the failures behind a failure. -/
def causes : ConfigError → List String
  | .unreadable _ cause => [cause.message]
  | .malformed => []

end ConfigError

/-- The configuration in a file. -/
def Config.load (t : FileTree) (path : Path) : Except ConfigError Config :=
  match t.readText path with
  | .error e => .error (.unreadable path e)
  | .ok document =>
    match Config.parse? document with
    | some c => .ok c
    | none => .error .malformed

/-- Where the configuration was found. -/
inductive ConfigSource where
  /-- Named on the command line. -/
  | explicit (path : Path)
  /-- In the project's directory. -/
  | project (path : Path)
  /-- In the user's configuration directory. -/
  | user (path : Path)
  /-- Nowhere. -/
  | default
  deriving DecidableEq, Repr

namespace ConfigSource

/-- The file, if there is one. -/
def path? : ConfigSource → Option Path
  | .explicit p => some p
  | .project p => some p
  | .user p => some p
  | .default => none

/-- The names of a project's configuration file, the preferred one first. -/
def projectNames : List String := ["weblint.toml", ".weblint.toml"]

/-- The name of the file in the user's configuration directory. -/
def userName : String := "config.toml"

/-- The user's configuration directory. -/
def userDir (h : Host) : Option Path :=
  match h.settings with
  | some dir => some dir
  | none => h.home.map (·.joinText ".weblint")

/-- The files that may hold the configuration of a project, the preferred one first. -/
def candidates (h : Host) (projectDir : Path) : List ConfigSource :=
  (projectNames.map fun name => .project (projectDir.joinText name)) ++
    ((userDir h).toList.map fun dir => .user (dir.joinText userName))

/-- Whether the file of a source exists. -/
def isThere (t : FileTree) (s : ConfigSource) : Bool :=
  match s.path? with
  | some p => t.exists? p
  | none => true

/-- Where the configuration of a project comes from. -/
def resolve (h : Host) (t : FileTree) (projectDir : Path) (explicitPath : Option Path) :
    ConfigSource :=
  match explicitPath with
  | some p => .explicit p
  | none => ((candidates h projectDir).find? (isThere t)).getD .default

/-- The configuration that a source holds. -/
def load (t : FileTree) (s : ConfigSource) : Except ConfigError Config :=
  match s.path? with
  | none => .ok {}
  | some p => Config.load t p

/-- What is said when the configuration of a source cannot be loaded. -/
def loadMessage (s : ConfigSource) : String :=
  "Failed to load config: " ++ (s.path?.map (·.text)).getD ""

end ConfigSource
end LintHub
