import LintHub.Kind
import LintHub.Text.Blank
import LintHub.Toml.Document

/-!
# Configuration

What a user may set: which linters run, which files are left out and where the
linters' environment lives. Every setting has a default, which holds when the setting
or its whole section is not written; `Config.parse?` reads a document, in which
unknown keys do not matter and a setting of the wrong type spoils the whole.
-/

namespace LintHub

/-- Which linters run. -/
structure LinterFlags where
  esLint : Bool := true
  tsLint : Bool := true
  coffeeLint : Bool := true
  cssLint : Bool := true
  deriving DecidableEq, Repr

/-- The patterns that leave files out unless others are written. -/
def defaultIgnore : List String := ["/node_modules/", "/bower_components/", "/typings/", "/lib/"]

/-- Which files are left out. -/
structure FileSettings where
  ignore : List String := defaultIgnore
  ignoreMinified : Bool := true
  deriving DecidableEq, Repr

/-- How many packages a complete environment holds unless another number is written. -/
def defaultMinModules : Nat := 36

/-- Where the linters' environment lives and where it comes from. -/
structure EnvironmentSettings where
  /-- The directory of the environment. -/
  execDir : Option Path := none
  /-- The directory of the payloads that setup unpacks. -/
  bundleDir : Option Path := none
  /-- The least number of packages of a complete environment. -/
  minModules : Nat := defaultMinModules
  /-- A directory searched for programs behind all others. -/
  extraPath : Option Path := none
  deriving DecidableEq, Repr

/-- The whole configuration. -/
structure Config where
  linters : LinterFlags := {}
  files : FileSettings := {}
  environment : EnvironmentSettings := {}
  deriving DecidableEq, Repr

namespace LinterFlags

/-- Whether a linter runs. -/
def get (f : LinterFlags) : Kind → Bool
  | .esLint => f.esLint
  | .tsLint => f.tsLint
  | .coffeeLint => f.coffeeLint
  | .cssLint => f.cssLint

/-- Lets a linter run, or not. -/
def set (f : LinterFlags) (enabled : Bool) : Kind → LinterFlags
  | .esLint => { f with esLint := enabled }
  | .tsLint => { f with tsLint := enabled }
  | .coffeeLint => { f with coffeeLint := enabled }
  | .cssLint => { f with cssLint := enabled }

theorem get_set (f : LinterFlags) (enabled : Bool) (k l : Kind) :
    (f.set enabled k).get l = if l = k then enabled else f.get l := by
  cases k <;> cases l <;> rfl

end LinterFlags

open Toml (Value)

namespace Setting

/-- The values of a section's keys, in order, `none` where one is not written. A
section is a table, or an array of its values in the order of the keys; a date or time
counts as a section in which nothing is written. -/
def fields? (names : List String) : Value → Option (List (Option Value))
  | .table entries => some (names.map (Toml.Table.get? entries))
  | .array items => some (((items.map some).take names.length) ++
      List.replicate (names.length - items.length) none)
  | .moment _ => some (names.map fun _ => none)
  | _ => none

/-- A setting that holds `fallback` if it is not written. -/
def read? (fallback : α) (ofValue? : Value → Option α) : Option Value → Option α
  | none => some fallback
  | some v => ofValue? v

/-- A truth value. -/
def bool? : Value → Option Bool
  | .boolean b => some b
  | _ => none

/-- A text. -/
def text? : Value → Option String
  | .string s => some s
  | _ => none

/-- A list of texts. -/
def texts? : Value → Option (List String)
  | .array items => items.mapM text?
  | _ => none

/-- A path; one that is not written is unset. -/
def path? (v : Value) : Option (Option Path) := (text? v).map fun s => some ⟨s⟩

/-- A number that is not negative. -/
def nat? : Value → Option Nat
  | .integer n => if 0 ≤ n then some n.toNat else none
  | _ => none

end Setting

open Setting

/-- The flags that a section writes. -/
def LinterFlags.ofValue? (v : Value) : Option LinterFlags :=
  match fields? ["eslint", "tslint", "coffeelint", "csslint"] v with
  | some [es, ts, coffee, css] => do
    return {
      esLint := ← read? true bool? es
      tsLint := ← read? true bool? ts
      coffeeLint := ← read? true bool? coffee
      cssLint := ← read? true bool? css }
  | _ => none

/-- The file settings that a section writes. -/
def FileSettings.ofValue? (v : Value) : Option FileSettings :=
  match fields? ["ignore", "ignore_minified"] v with
  | some [ignore, minified] => do
    return {
      ignore := ← read? defaultIgnore texts? ignore
      ignoreMinified := ← read? true bool? minified }
  | _ => none

/-- The environment settings that a section writes. -/
def EnvironmentSettings.ofValue? (v : Value) : Option EnvironmentSettings :=
  match fields? ["exec_dir", "bundle_dir", "min_modules", "extra_path"] v with
  | some [exec, bundle, modules, extra] => do
    return {
      execDir := ← read? none path? exec
      bundleDir := ← read? none path? bundle
      minModules := ← read? defaultMinModules nat? modules
      extraPath := ← read? none path? extra }
  | _ => none

namespace Config

/-- The configuration that a document's root table writes. -/
def ofTable? (t : Toml.Table) : Option Config := do
  return {
    linters := ← read? {} LinterFlags.ofValue? (t.get? "linters")
    files := ← read? {} FileSettings.ofValue? (t.get? "files")
    environment := ← read? {} EnvironmentSettings.ofValue? (t.get? "environment") }

/-- The configuration that a document writes. -/
def parse? (document : String) : Option Config := (Toml.parse? document).bind ofTable?

/-- Whether a linter runs. -/
def isEnabled (c : Config) (k : Kind) : Bool := c.linters.get k

/-- Lets a linter run, or not. -/
def setEnabled (c : Config) (k : Kind) (enabled : Bool) : Config :=
  { c with linters := c.linters.set enabled k }

/-- The ignore patterns that say something. -/
def ignorePatterns (c : Config) : List String :=
  c.files.ignore.filter fun p => !Text.isBlankText p

end Config
end LintHub
