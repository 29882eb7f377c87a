import LintHub.Shell.Raw

/-!
# Shell scripts

The commands of a shell script and the words they are made of. A word is a sequence of
parts, some of which are replaced when the command runs.
-/

namespace LintHub.Shell

/-- How a redirection treats its target. -/
inductive Flow where
  | read
  | write
  | append
  /-- The target is another descriptor. -/
  | duplicate
  /-- The target is the text to be read itself. -/
  | here
  deriving DecidableEq, Repr

mutual

/-- A part of a word; `quoted` says that blanks in its value do not divide the word. -/
inductive Part where
  | literal (text : Raw) (quoted : Bool)
  | parameter (name : Raw) (use : Use) (quoted : Bool)
  | arithmetic (expression : List Part) (quoted : Bool)
  /-- The output of a command. -/
  | output (body : Command) (quoted : Bool)

/-- What of a parameter is used. -/
inductive Use where
  | value
  | length
  /-- A word instead of a parameter that is unset or, if `orEmpty`, empty. -/
  | fallback (orEmpty : Bool) (word : List Part)
  /-- The same, and the parameter is set to it. -/
  | assign (orEmpty : Bool) (word : List Part)
  /-- The same, and the shell ends with the word as its message. -/
  | require (orEmpty : Bool) (word : List Part)
  /-- A word if the parameter is set and, if `orEmpty`, not empty. -/
  | alternative (orEmpty : Bool) (word : List Part)
  /-- The value without the part at one end that matches a pattern. -/
  | strip (atEnd longest : Bool) (pattern : List Part)
  /-- No use that there is; the shell ends when it comes to it. -/
  | malformed

/-- Where a descriptor of a command leads. -/
inductive Redirection where
  | mk (descriptor : Nat) (flow : Flow) (target : List Part)

/-- A command. -/
inductive Command where
  | simple (line : Nat) (assignments : List (Raw × List Part)) (words : List (List Part))
      (redirections : List Redirection)
  /-- Commands of which each reads what the one before it writes. -/
  | pipe (negated : Bool) (parts : List Command)
  /-- The second runs if the first succeeds. -/
  | both (first second : Command)
  /-- The second runs if the first fails. -/
  | either (first second : Command)
  | sequence (commands : List Command)
  /-- A command in a shell of its own. -/
  | separate (body : Command)
  | redirected (body : Command) (redirections : List Redirection)
  | branch (test yes no : Command)
  /-- A loop that runs while its test succeeds, or until it does. -/
  | loop (untilTrue : Bool) (test body : Command)
  /-- A loop over words, or over the arguments. -/
  | each (name : Raw) (words : Option (List (List Part))) (body : Command)
  | choose (word : List Part) (arms : List (List (List Part) × Command))
  | define (name : Raw) (body : Command)

end

/-- The commands whose failure ends a shell. -/
def isSpecial (name : String) : Bool :=
  ["break", ":", ".", "continue", "eval", "exec", "exit", "export", "readonly", "return", "set",
    "shift", "times", "trap", "unset"].contains name

instance : Inhabited Command := ⟨.sequence []⟩

end LintHub.Shell
