import LintHub.Path
import LintHub.Report

/-!
# The command line

A command line is read argument by argument. Options that every command has may stand
before or behind the command's name, where the one behind wins; an option may stand only
once in each of these places. Short options may be written together, a value may be
attached to its option, and behind `--` everything is a path.

* `Arguments.parse` reads a whole command line.
-/

namespace LintHub.Command

/-- An option. -/
inductive Flag where
  | verbose
  | config
  | format
  | linters
  | force
  | help
  | version
  deriving DecidableEq, Repr

/-- Whether an option has a value. -/
def Flag.takesValue : Flag → Bool
  | .config | .format | .linters => true
  | _ => false

/-- The name of an option behind two hyphens. -/
def Flag.long : Flag → String
  | .verbose => "verbose"
  | .config => "config"
  | .format => "format"
  | .linters => "linters"
  | .force => "force"
  | .help => "help"
  | .version => "version"

/-- The letter of an option behind one hyphen. -/
def Flag.short? : Flag → Option Char
  | .verbose => some 'v'
  | .config => some 'c'
  | .format => some 'f'
  | .help => some 'h'
  | .version => some 'V'
  | _ => none

/-- What can be asked for. -/
inductive Name where
  | check
  | setup
  | listLinters
  | init
  deriving DecidableEq, Repr

/-- The word for a command. -/
def Name.word : Name → String
  | .check => "check"
  | .setup => "setup"
  | .listLinters => "list-linters"
  | .init => "init"

/-- All commands. -/
def Name.all : List Name := [.check, .setup, .listLinters, .init]

/-- A place for options: before the command's name, or behind it. -/
inductive Slot where
  | top
  | command (name : Name)
  deriving DecidableEq, Repr

/-- The options that may stand at a place. -/
def Slot.flags : Slot → List Flag
  | .top => [.verbose, .config, .help, .version]
  | .command .check => [.verbose, .config, .format, .linters, .help]
  | .command .listLinters => [.verbose, .config, .help]
  | .command _ => [.verbose, .config, .force, .help]

/-- What is given at one place. -/
structure Given where
  verbose : Bool
  force : Bool
  config : Option String
  format : Option Report.Format
  linters : Option String
  paths : List String
  deriving DecidableEq, Repr

/-- Nothing given. -/
def Given.none : Given := ⟨false, false, .none, .none, .none, []⟩

/-- Why no command runs. -/
inductive Stop where
  /-- The command line is wrong. -/
  | usage
  /-- Nothing is given at all. -/
  | nothing
  /-- The user asks for help. -/
  | help
  /-- The user asks for the version. -/
  | version
  deriving DecidableEq, Repr

namespace Given

/-- Notes an option without a value. -/
def switch (g : Given) : Flag → Except Stop Given
  | .verbose => if g.verbose then .error .usage else .ok { g with verbose := true }
  | .force => if g.force then .error .usage else .ok { g with force := true }
  | .help => .error .help
  | .version => .error .version
  | _ => .error .usage

/-- Notes an option with its value. -/
def setting (g : Given) (f : Flag) (value : String) : Except Stop Given :=
  match f with
  | .config =>
    if g.config.isSome || value.isEmpty then .error .usage else .ok { g with config := some value }
  | .format =>
    match g.format, Report.Format.ofName value with
    | .none, some format => .ok { g with format := some format }
    | _, _ => .error .usage
  | .linters => if g.linters.isSome then .error .usage else .ok { g with linters := some value }
  | _ => .error .usage

/-- Notes a path, where paths are taken. -/
def path (g : Given) (slot : Slot) (text : String) : Except Stop Given :=
  if slot = .command .check ∧ !text.isEmpty then .ok { g with paths := g.paths ++ [text] }
  else .error .usage

/-- Notes paths. -/
def addPaths (g : Given) (slot : Slot) : List String → Except Stop Given
  | [] => .ok g
  | text :: rest =>
    match g.path slot text with
    | .ok g => addPaths g slot rest
    | .error e => .error e

/-- Reads options written together. An option at the end may wait for its value. -/
def shorts (g : Given) (slot : Slot) : List Char → Except Stop (Given × Option Flag)
  | [] => .ok (g, .none)
  | c :: cs =>
    match slot.flags.find? fun f => f.short? == some c with
    | .none => .error .usage
    | some f =>
      if f.takesValue then
        match cs with
        | [] => .ok (g, some f)
        | '=' :: value => (g.setting f (String.ofList value)).map (·, .none)
        | value => (g.setting f (String.ofList value)).map (·, .none)
      else match g.switch f with
        | .ok g => shorts g slot cs
        | .error e => .error e

/-- Reads an option written out, behind its hyphens. -/
def long (g : Given) (slot : Slot) (cs : List Char) : Except Stop (Given × Option Flag) :=
  let name := String.ofList (cs.takeWhile (· != '='))
  match slot.flags.find? fun f => f.long == name, cs.dropWhile (· != '=') with
  | .none, _ => .error .usage
  | some f, [] => if f.takesValue then .ok (g, some f) else (g.switch f).map (·, .none)
  | some f, _ :: value =>
    if f.takesValue then (g.setting f (String.ofList value)).map (·, .none) else .error .usage

end Given

/-- The command with this name. -/
def Name.ofWord (word : String) : Option Name := Name.all.find? fun n => n.word == word

/-- What the arguments of one place end in. -/
inductive Rest where
  | ended
  /-- The name of a command and what stands behind it. -/
  | command (name : Name) (arguments : List String)
  deriving DecidableEq, Repr

/-- The word that asks for help on a command. -/
def helpWord : String := "help"

/-- Reads the arguments of one place; `pending` is an option that waits for its value. -/
def scan (slot : Slot) (g : Given) (pending : Option Flag) :
    List String → Except Stop (Given × Rest)
  | [] => if pending.isSome then .error .usage else .ok (g, .ended)
  | arg :: rest =>
    match pending, arg.toList with
    | some f, cs =>
      if cs.head? = some '-' ∧ cs ≠ ['-'] then .error .usage
      else match g.setting f arg with
        | .ok g => scan slot g .none rest
        | .error e => .error e
    | .none, ['-', '-'] => (g.addPaths slot rest).map (·, .ended)
    | .none, '-' :: '-' :: cs =>
      match g.long slot cs with
      | .ok (g, pending) => scan slot g pending rest
      | .error e => .error e
    | .none, '-' :: c :: cs =>
      match g.shorts slot (c :: cs) with
      | .ok (g, pending) => scan slot g pending rest
      | .error e => .error e
    | .none, _ =>
      match slot with
      | .top =>
        match Name.ofWord arg with
        | some name => .ok (g, .command name rest)
        | .none =>
          let isKnown (w : String) : Bool := w == helpWord || (Name.ofWord w).isSome
          if arg = helpWord ∧ rest.length ≤ 1 ∧ rest.all isKnown
          then .error .help
          else .error .usage
      | slot =>
        match g.path slot arg with
        | .ok g => scan slot g .none rest
        | .error e => .error e

/-- A command with what it is given. -/
inductive Request where
  /-- Lints paths. -/
  | check (paths : List Path) (format : Report.Format) (linters : Option String)
  /-- Installs the environment. -/
  | setup (force : Bool)
  | listLinters
  /-- Writes a configuration file. -/
  | init (force : Bool)
  deriving DecidableEq, Repr

/-- A command line that has been read. -/
structure Arguments where
  verbose : Bool
  /-- The configuration file that is named. -/
  config : Option Path
  request : Request
  deriving DecidableEq, Repr

namespace Arguments

/-- The path that is checked unless others are given. -/
def defaultPath : String := "."

/-- The request of a command. -/
def requestOf (name : Name) (g : Given) : Request :=
  match name with
  | .check =>
    .check ((if g.paths.isEmpty then [defaultPath] else g.paths).map Path.mk)
      (g.format.getD .text) g.linters
  | .setup => .setup g.force
  | .listLinters => .listLinters
  | .init => .init g.force

/-- The configuration file: the command line wins over the environment, and what stands
behind the command's name over what stands before it. An empty name in the environment
is an error unless it is not looked at. -/
def configOf (outer inner : Given) (environment : Option String) : Except Stop (Option Path) :=
  if environment = some "" ∧ !(outer.config.isSome && inner.config.isSome) then .error .usage
  else .ok (((inner.config.or outer.config).or environment).map Path.mk)

/-- Reads a command line; `environment` is the configuration file that the environment
names. -/
def parse (environment : Option String) (args : List String) : Except Stop Arguments := do
  let (outer, rest) ← scan .top .none .none args
  match rest with
  | .ended =>
    if environment = .none ∧ outer = .none then throw .nothing else throw .usage
  | .command name args =>
    let (inner, _) ← scan (.command name) .none .none args
    let config ← configOf outer inner environment
    return ⟨outer.verbose || inner.verbose, config, requestOf name inner⟩

end Arguments
end LintHub.Command
