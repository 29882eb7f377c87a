import LintHub.Config.Source
import LintHub.FileTree.Edit
import LintHub.Report.Failure
import LintHub.Report.Text

/-!
# Writing a configuration file

A new project gets a file that spells out the defaults. One that is there already is
kept unless it may be overwritten.
-/

namespace LintHub.Command.Init

/-- The configuration file of a new project, line by line. -/
def documentLines : List String :=
  ["# weblint configuration", "",
    "[linters]", "eslint = true", "tslint = true", "coffeelint = true", "csslint = true", "",
    "[files]", "# Path fragments or glob patterns; matching files are never linted", "ignore = [",
    "    \"/node_modules/\",", "    \"/bower_components/\",", "    \"/typings/\",", "    \"/lib/\",", "]",
    "", "# Skip minified files such as app.min.js", "ignore_minified = true", "",
    "[environment]", "# Where the linters are installed (default: <temp>/weblint<version>)",
    "# exec_dir = \"/var/cache/weblint\"", "",
    "# Directory holding node_modules.7z, the extractor and the setup script",
    "# bundle_dir = \"/opt/weblint/node\"", "",
    "# Packages expected under node_modules for a complete install", "min_modules = 36", "",
    "# Directory appended to PATH for the linters (e.g. where node lives)",
    "# extra_path = \"/usr/local/bin\""]

/-- The configuration file of a new project. -/
def document : String := Report.unlines documentLines

/-- Why no file was written. -/
inductive InitError where
  /-- There is one already. -/
  | present (path : Path)
  /-- It cannot be written. -/
  | unwritable (path : Path) (cause : FileError)
  deriving DecidableEq, Repr

/-- What is said about an error. -/
def InitError.failure : InitError → Failure
  | present path =>
    ⟨"Configuration file already exists at " ++ path.text ++ ". Use --force to overwrite.", []⟩
  | unwritable path cause => ⟨"Failed to write " ++ path.text, [cause.message]⟩

/-- The name of the file. -/
def fileName : String := "weblint.toml"

/-- Writes the file into a directory, and says where it is. -/
def write (dir : Path) (force : Bool) (t : FileTree) : Except InitError Path × FileTree :=
  let path := dir.joinText fileName
  if t.exists? path && !force then (.error (.present path), t)
  else match t.write path (Text.encode document.toList) with
    | (.ok (), t) => (.ok path, t)
    | (.error e, t) => (.error (.unwritable path e), t)

/-- What is printed when the file has been written. -/
def closing (path : Path) : String :=
  Report.unlines
    ["Created " ++ path.text, "", "Next steps:", "  1. Edit weblint.toml to enable or disable linters",
      "  2. Run: weblint check"]

end LintHub.Command.Init
