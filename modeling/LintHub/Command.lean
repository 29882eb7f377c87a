import LintHub.Command.Arguments
import LintHub.Command.Check
import LintHub.Command.Init
import LintHub.Command.Setup
import LintHub.Report.Listing

/-!
# Running a command

A command line is read, the configuration loaded if the command needs one, and the
command run. What goes wrong before a command can do its work ends with status 1, a
wrong command line with status 2.

* `Command.run` is the whole program.
-/

namespace LintHub.Command

/-- The help text. -/
def helpText : String :=
  Report.unlines
    ["Runs ESLint, TSLint, CoffeeLint and CSS Lint with one diagnostic format", "",
      "Usage: weblint [OPTIONS] <COMMAND>", "", "Commands:",
      "  check         Lint files and directories",
      "  setup         Install the linter environment now instead of on first check",
      "  list-linters  List supported linters",
      "  init          Initialize configuration file",
      "  help          Print this message or the help of the given subcommand(s)", "", "Options:",
      "  -v, --verbose          Enable verbose output",
      "  -c, --config <CONFIG>  Path to configuration file [env: WEBLINT_CONFIG=]",
      "  -h, --help             Print help",
      "  -V, --version          Print version"]

/-- How the program ends when no command runs. -/
def stopped : Stop → Outcome
  | .usage =>
    let text := "error: the arguments are not understood\n\nFor more information, try '--help'.\n"
    ⟨2, "", [.shown text]⟩
  | .nothing => ⟨2, "", [.shown helpText]⟩
  | .help => ⟨0, helpText, []⟩
  | .version => ⟨0, "weblint " ++ LintHub.version ++ "\n", []⟩

/-- What the log says about where the configuration comes from. -/
def sourceNotices : ConfigSource → List Notice
  | .project path => [.logged .debug ("Found project config: " ++ path.text)]
  | .user path =>
    [.logged .debug ("Found global config: " ++ path.text),
      .logged .info ("Using global config: " ++ path.text)]
  | _ => []

/-- Loads the configuration for a directory and goes on with it. -/
def withConfig (h : Host) (dir : Path) (named : Option Path) (s : Session σ)
    (act : Config → Outcome × Session σ) : Outcome × Session σ :=
  let source := ConfigSource.resolve h s.tree dir named
  let notices := sourceNotices source
  match source.load s.tree with
  | .error e => (.failed notices ⟨source.loadMessage, e.message :: e.causes⟩, s)
  | .ok c =>
    let (o, s) := act c
    ({ o with stderr := notices ++ o.stderr }, s)

/-- Runs a command in the current directory. -/
def perform (h : Host) (runner : Runner σ) (a : Arguments) (s : Session σ) : Outcome × Session σ :=
  let here := Path.ofPlace s.tree.here
  match a.request with
  | .check paths format linters =>
    let dir := (paths.head?.map fun p => Check.projectDir s.tree (here.join p)).getD here
    withConfig h dir a.config s fun c => Check.run h runner paths format linters c s
  | .setup force => withConfig h here a.config s fun c => Setup.run h runner force c s
  | .listLinters =>
    withConfig h here a.config s fun c => (⟨0, Report.Listing.render c, []⟩, s)
  | .init force =>
    match Init.write here force s.tree with
    | (.ok path, t) => (⟨0, Init.closing path, []⟩, { s with tree := t })
    | (.error e, t) => (.failed [] e.failure, { s with tree := t })

/-- Runs the program with these arguments. -/
def run (h : Host) (runner : Runner σ) (args : List String) (s : Session σ) : Outcome × Session σ :=
  match Arguments.parse h.configFile args with
  | .error stop => (stopped stop, s)
  | .ok a =>
    let (o, s) := perform h runner a s
    ({ o with stderr := o.stderr.filter (Notice.isWritten a.verbose) }, s)

end LintHub.Command
