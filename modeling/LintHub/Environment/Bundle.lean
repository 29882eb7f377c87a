import LintHub.Config
import LintHub.Host
import LintHub.Launch.Invocation
import LintHub.Text.Utf8

/-!
# Bundles

The four files from which an environment is set up: the packed packages, the unpacker,
the unpacker's library and the script that runs it. They are put into the environment
in this order before the script is started there.
-/

namespace LintHub

/-- Where the contents of a payload come from. -/
inductive PayloadSource where
  /-- They are given. -/
  | bytes (content : Bytes)
  /-- They are copied from a file. -/
  | file (path : Path)
  deriving DecidableEq, Repr

/-- One file put into an environment before setup. -/
structure Payload where
  /-- Its name in the environment. -/
  name : String
  source : PayloadSource
  deriving DecidableEq, Repr

/-- Everything needed to set up an environment. -/
structure Bundle where
  archive : Payload
  extractor : Payload
  /-- The library that the extractor needs. -/
  extractorLibrary : Payload
  setupScript : Payload
  deriving DecidableEq, Repr

namespace Bundle

/-- The payloads, in the order in which they are put in place. -/
def payloads (b : Bundle) : List Payload :=
  [b.archive, b.extractor, b.extractorLibrary, b.setupScript]

/-- The payload of this name taken from a directory. -/
def fileIn (dir : Path) (name : String) : Payload := ⟨name, .file (dir.joinText name)⟩

/-- The bundle in a directory, under the usual names. -/
def ofDirectory (dir : Path) : Bundle where
  archive := fileIn dir "node_modules.7z"
  extractor := fileIn dir "7za"
  extractorLibrary := fileIn dir "lib7z.so"
  setupScript := fileIn dir "prepare.sh"

/-- The bundle that a configuration asks for: unless a directory is written, the one
that stands beside the program. -/
def ofSettings (h : Host) (s : EnvironmentSettings) : Bundle :=
  ofDirectory (s.bundleDir.getD (h.program.joinText "node"))

/-- The start of the setup script in an environment. -/
def setupInvocation (b : Bundle) (execDir : Path) : Invocation :=
  (Invocation.ofProgram ⟨"sh"⟩ execDir).addArguments [b.setupScript.name]

end Bundle
end LintHub
