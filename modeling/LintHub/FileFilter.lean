import LintHub.Glob
import LintHub.Kind

/-!
# Which files are worth linting

A file passes when its path is absolute, some linter handles it, it is not minified
(`name.min.ext`, unless that is allowed) and no ignore pattern applies. A pattern
applies as a glob that matches the whole path, or as a piece of text that occurs in
it; backslashes count as slashes in the path and in the piece of text.

* `isLintable_eq`: a file passes when there is no reason against it.
-/

namespace LintHub

/-- An ignore pattern in the two forms in which it applies. -/
structure IgnorePattern where
  /-- The pattern as a glob, if it is one. -/
  glob : Option Glob
  /-- The pattern as a piece of text, with slashes. -/
  fragment : List Char
  deriving DecidableEq, Repr

/-- Which files to leave out. -/
structure FileFilter where
  patterns : List IgnorePattern
  ignoreMinified : Bool
  deriving DecidableEq, Repr

/-- Why a file is left out. -/
inductive Exclusion where
  | notAbsolute
  /-- No linter handles it. -/
  | notHandled
  | minified
  /-- A pattern applies. -/
  | ignored
  deriving DecidableEq, Repr

/-- What the log says about a file that is left out; that no linter handles a file is
nothing to speak of. -/
def Exclusion.record? (e : Exclusion) (p : Path) : Option String :=
  match e with
  | .notAbsolute => some ("Not absolute: " ++ p.text)
  | .notHandled => none
  | .minified => some ("Minified: " ++ p.text)
  | .ignored => some ("Ignored: " ++ p.text)

/-- Backslashes as slashes. -/
def withSlashes (cs : List Char) : List Char := cs.map fun c => if c = '\\' then '/' else c

namespace IgnorePattern

/-- A pattern as it was written. -/
def ofText (raw : String) : IgnorePattern where
  glob := Glob.parse? raw
  fragment := withSlashes raw.toList

/-- The piece of text that has to occur: the pattern without its double stars. -/
def core (p : IgnorePattern) : List Char := Text.replaceAll ['*', '*'] [] p.fragment

/-- Whether the pattern applies to a path written with slashes. -/
def applies (p : IgnorePattern) (path : List Char) : Bool :=
  (match p.glob with
    | some g => g.accepts path
    | none => false) ||
  (p.core != [] && Text.occursIn p.core path)

end IgnorePattern

/-- Whether a path has the form `name.min.ext`, in any case. -/
def Path.isMinified (p : Path) : Bool :=
  match p.stem?.bind fun stem => Path.extension? ⟨stem⟩ with
  | some ext => Text.sameWord ext.toList "min".toList
  | none => false

namespace FileFilter

/-- The filter with these patterns, of which blank ones are dropped. -/
def ofPatterns (patterns : List String) (ignoreMinified : Bool) : FileFilter where
  patterns := (patterns.filter fun p => !Text.isBlankText p).map IgnorePattern.ofText
  ignoreMinified := ignoreMinified

/-- Whether some ignore pattern applies to a path. -/
def ignores (f : FileFilter) (p : Path) : Bool :=
  f.patterns.any fun pattern => pattern.applies (withSlashes p.chars)

/-- Why a file is left out, if it is: the first reason that there is. -/
def exclusion? (f : FileFilter) (p : Path) : Option Exclusion :=
  if !p.isAbsolute then some .notAbsolute
  else if (Kind.ofPath p).isNone then some .notHandled
  else if f.ignoreMinified && p.isMinified then some .minified
  else if f.ignores p then some .ignored
  else none

/-- Whether a file should be linted. -/
def isLintable (f : FileFilter) (p : Path) : Bool := (f.exclusion? p).isNone

theorem isLintable_eq (f : FileFilter) (p : Path) :
    f.isLintable p = (p.isAbsolute && (Kind.ofPath p).isSome &&
      !(f.ignoreMinified && p.isMinified) && !f.ignores p) := by
  unfold isLintable exclusion?
  cases p.isAbsolute <;> cases Kind.ofPath p <;> cases f.ignoreMinified && p.isMinified <;>
    cases f.ignores p <;> rfl

end FileFilter
end LintHub
