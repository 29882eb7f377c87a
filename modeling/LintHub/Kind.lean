import LintHub.Path
import LintHub.Text.Blank
import LintHub.Text.Scan

/-!
# The supported linters

The set of tools is closed. A `Kind` knows its names, its executable, the marker
file that anchors its working directory, the extensions routed to it, the
arguments put before the files and where its rules are documented. `Kind.all` is
the order in which linters run.
-/

namespace LintHub

/-- One of the supported linters. -/
inductive Kind where
  /-- JavaScript, JSX and ES6 files. -/
  | esLint
  /-- TypeScript and TSX files. -/
  | tsLint
  /-- CoffeeScript, Literate CoffeeScript and Iced files. -/
  | coffeeLint
  /-- Stylesheets. -/
  | cssLint
  deriving DecidableEq, Repr, Inhabited

namespace Kind

/-- Every linter, in running order. -/
def all : List Kind := [.esLint, .tsLint, .coffeeLint, .cssLint]

/-- The place of a linter in the running order. -/
def rank : Kind → Nat
  | .esLint => 0
  | .tsLint => 1
  | .coffeeLint => 2
  | .cssLint => 3

/-- The name shown to people. -/
def displayName : Kind → String
  | .esLint => "ESLint"
  | .tsLint => "TSLint"
  | .coffeeLint => "CoffeeLint"
  | .cssLint => "CssLint"

/-- The name of the executable, also the name in configurations and reports. -/
def tool : Kind → String
  | .esLint => "eslint"
  | .tsLint => "tslint"
  | .coffeeLint => "coffeelint"
  | .cssLint => "csslint"

/-- The tool's own configuration file, which anchors its working directory. -/
def marker : Kind → String
  | .esLint => ".eslintrc"
  | .tsLint => "tslint.json"
  | .coffeeLint => "coffeelint.json"
  | .cssLint => ".csslintrc"

/-- The extensions routed to a linter, in lower case. -/
def extensions : Kind → List String
  | .esLint => ["js", "jsx", "es6"]
  | .tsLint => ["ts", "tsx"]
  | .coffeeLint => ["coffee", "litcoffee", "iced"]
  | .cssLint => ["css"]

/-- The arguments before the files; they select the output format that is read back. -/
def arguments : Kind → List String
  | .esLint => ["--format=json"]
  | .tsLint => ["--format", "prose"]
  | .coffeeLint => ["--reporter", "csv"]
  | .cssLint => ["--format=compact"]

/-- The mark in a documentation link that stands for the rule's code. -/
def codeMark : String := "\x7bcode\x7d"

/-- Where a rule is documented, with `codeMark` for its code. -/
def helpFormat : Kind → Option String
  | .esLint => some "http://eslint.org/docs/rules/\x7bcode\x7d"
  | _ => none

/-- ASCII lower case. -/
def lower (s : String) : String := String.ofList (s.toList.map Char.toLower)

/-- The linter for an extension, ignoring ASCII case. -/
def ofExtension (ext : String) : Option Kind :=
  all.find? fun k => k.extensions.contains (lower ext)

/-- The linter for a file, by its extension. -/
def ofPath (p : Path) : Option Kind := p.extension?.bind ofExtension

/-- The linter with a display name or tool name, ignoring surrounding blanks and
ASCII case. -/
def ofName (name : String) : Option Kind :=
  let n := Text.trim name.toList
  all.find? fun k => Text.sameWord k.displayName.toList n || Text.sameWord k.tool.toList n

/-- The linter whose tool name is exactly this. -/
def ofTool (tool : String) : Option Kind := all.find? fun k => k.tool == tool

end Kind
end LintHub
