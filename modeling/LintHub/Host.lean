import LintHub.FileTree.Lookup
import LintHub.Launch.Invocation

/-!
# The host

What the surroundings tell the program, files aside: the variables of the environment,
where the program itself is, and what the clock says. The variables say where the user's
home is, where temporary files go and where programs are found, and all of them are
passed on to the programs that are started. The surroundings also know which paths are no
Unicode, and which programs they do not start.

* `value?_withValue`, `value?_withValue_of_ne`: setting a variable gives it the value and
  leaves the others alone.
-/

namespace LintHub

/-- The version of this program. -/
def version : String := "0.4.2"

/-- What the surroundings tell the program. -/
structure Host where
  /-- The variables of the environment, each with its value. -/
  environment : List (String × String)
  /-- The directory of the running program. -/
  program : Path
  /-- The date and time, as a stamp writes them. -/
  clock : String
  /-- Whether a path is no Unicode. A path is known by the text that shows it, each malformed
  part as U+FFFD, so one with that character counts as malformed unless it is known better. -/
  isMalformed : Path → Bool := fun p => p.chars.contains (Char.ofNat 0xFFFD)
  /-- Why the system does not start a program, whatever the files are: it lacks rights or
  memory, or the command line is too long. -/
  refusal? : Invocation → Option FileError := fun _ => none
  deriving Inhabited

namespace Host

/-- The value of a variable of the environment. -/
def value? (h : Host) (name : String) : Option String := h.environment.lookup name

/-- The same surroundings with another value of a variable, or with one more variable. -/
def withValue (h : Host) (name value : String) : Host :=
  { h with environment := (name, value) :: h.environment.filter fun v => v.1 != name }

/-- The variables in the order of their names. -/
def sorted (environment : List (String × String)) : List (String × String) :=
  environment.mergeSort fun a b => !decide (b.1 < a.1)

/-- The user's home directory, if it is known. -/
def home (h : Host) : Option Path := (h.value? "HOME").map Path.mk

/-- The directory for temporary files. -/
def temporary (h : Host) : Path := ((h.value? "TMPDIR").map Path.mk).getD ⟨"/tmp"⟩

/-- The directories searched for programs, separated by colons. -/
def searchPath (h : Host) : String := (h.value? "PATH").getD "/bin:/usr/bin"

/-- The user's configuration directory, if one is named. -/
def settings (h : Host) : Option Path := (h.value? "WEBLINT_CONFIG_DIR").map Path.mk

/-- A configuration file named for all commands. -/
def configFile (h : Host) : Option String := h.value? "WEBLINT_CONFIG"

theorem value?_withValue (h : Host) (name value : String) :
    (h.withValue name value).value? name = some value := by
  simp [value?, withValue]

theorem value?_withValue_of_ne (h : Host) {name other : String} (value : String)
    (hne : other ≠ name) : (h.withValue name value).value? other = h.value? other := by
  have hb : (other == name) = false := by simpa using hne
  simp only [value?, withValue, List.lookup_cons, hb]
  induction h.environment with
  | nil => rfl
  | cons v vs ih =>
    obtain ⟨n, w⟩ := v
    by_cases hn : n = name
    · simp [hn, List.lookup_cons, hb, ih]
    · simp [hn, List.lookup_cons, ih]

end Host
end LintHub
