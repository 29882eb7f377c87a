import LintHub.Shell.Pattern
import LintHub.Shell.Script
import LintHub.Shell.Tool

/-!
# The state of a shell

What a shell knows while it runs a script: variables, functions, arguments, where its
descriptors lead, and whether it goes on. What is written is kept in channels, newest
piece first.
-/

namespace LintHub.Shell

/-- Where a descriptor leads. -/
inductive Sink where
  | channel (id : Nat)
  | file (k : Place)
  | nowhere
  deriving DecidableEq, Repr

/-- Whether and how a shell goes on. -/
inductive Pace where
  | running
  | exited
  /-- A signal ended the shell. -/
  | killed (signal : Nat)
  /-- Leaving this many loops. -/
  | breaking (loops : Nat)
  /-- Going on with the next round of the loop this many levels out. -/
  | continuing (loops : Nat)
  /-- Leaving a function. -/
  | returning
  deriving DecidableEq, Repr

/-- The state of a shell. -/
structure State where
  tree : FileTree
  bindings : List (Raw × Raw)
  exported : List Raw
  /-- Whether the variables are those of a shell. -/
  isShell : Bool
  functions : List (Raw × Command)
  /-- The name under which the shell complains. -/
  name : Raw
  arguments : List Raw
  /-- The exit code of the last command. -/
  status : Nat
  pace : Pace
  /-- How many loops are running around the command. -/
  loops : Nat
  /-- What was written to each channel, newest piece first. -/
  channels : List (List Raw)
  descriptors : List (Nat × Sink)
  /-- What is left to be read. -/
  input : Raw
  /-- The number of the shell's process. -/
  process : Nat
  line : Nat
  /-- Whether a failing command ends the shell. -/
  exitOnError : Bool
  /-- Whether the use of a variable without a value ends the shell. -/
  exitOnUnset : Bool
  /-- Whether the running command is a test, whose failure is no error. -/
  tested : Bool

namespace State

/-- Whether the shell goes on with the next command. -/
def isRunning (s : State) : Bool := s.pace == .running

/-- The value of a variable. -/
def get? (s : State) (name : Raw) : Option Raw := s.bindings.lookup name

/-- Sets a variable. -/
def set (s : State) (name value : Raw) : State :=
  { s with bindings := (name, value) :: s.bindings.filter fun v => v.1 != name }

/-- Removes a variable. -/
def unset (s : State) (name : Raw) : State :=
  { s with
    bindings := s.bindings.filter fun v => v.1 != name
    exported := s.exported.filter (· != name) }

/-- Passes a variable on to programs. -/
def passOn (s : State) (name : Raw) : State :=
  if s.exported.contains name then s else { s with exported := s.exported ++ [name] }

/-- The chain in which a shell keeps a variable. -/
def chainOf (name : Raw) : Nat :=
  (name.foldl (fun n c => n + c.toNat) (16 * (name.headD '\x00').toNat)) % 39

/-- The variables that programs get; a shell passes them on chain by chain. -/
def environment (s : State) : List (Raw × Raw) :=
  let names :=
    if s.isShell then s.exported.mergeSort fun a b => chainOf a ≤ chainOf b else s.exported
  names.filterMap fun name => (s.get? name).map fun value => (name, value)

/-- The directory of the shell, under the name that led to it. -/
def directory (s : State) : Raw :=
  (s.get? "PWD".toList).getD (Raw.ofString ("/" ++ "/".intercalate s.tree.here))

/-- Sets a variable and passes it on. -/
def publish (s : State) (name value : Raw) : State := (s.set name value).passOn name

/-- Notes the directory in which the shell starts; a name for it that is passed on to the
shell stays if it leads there. -/
def locate (s : State) : State :=
  let actual := Raw.ofString ("/" ++ "/".intercalate s.tree.here)
  match s.get? "PWD".toList with
  | some ('/' :: cs) =>
    match s.tree.directoryAt (Raw.path ('/' :: cs)) with
    | .ok k => if k == s.tree.here then s else s.publish "PWD".toList actual
    | .error _ => s.publish "PWD".toList actual
  | _ => s.publish "PWD".toList actual

/-- The characters that divide words unless others are set. -/
def usualSeparators : Raw := [' ', '\t', '\n']

/-- The characters that divide words. -/
def separators (s : State) : Raw := (s.get? "IFS".toList).getD usualSeparators

/-- Makes the variables those of a shell: words are divided as usual, whatever the
environment says. -/
def takeOver (s : State) : State :=
  { s with
    bindings := s.bindings.map fun v =>
      if v.1 == "IFS".toList then (v.1, usualSeparators) else v
    isShell := true }

/-- Writes to a sink. -/
def writeTo (s : State) (sink : Sink) (text : Raw) : State :=
  if text.isEmpty then s
  else match sink with
    | .channel id => { s with channels := s.channels.modify id (text :: ·) }
    | .file k =>
      match s.tree.get? k with
      | some (.file content mode) =>
        { s with tree := s.tree.put k (.file (content ++ Raw.toBytes text) mode) }
      | _ => s
    | .nowhere => s

/-- Writes to a descriptor. -/
def write (s : State) (descriptor : Nat) (text : Raw) : State :=
  match s.descriptors.lookup descriptor with
  | some sink => s.writeTo sink text
  | none => s

/-- Lets a descriptor lead elsewhere. -/
def redirect (s : State) (descriptor : Nat) (sink : Sink) : State :=
  { s with descriptors := (descriptor, sink) :: s.descriptors.filter fun d => d.1 != descriptor }

/-- Everything written to a channel. -/
def written (s : State) (channel : Nat) : Raw := ((s.channels.getD channel []).reverse).flatten

/-- Opens a new channel for what is written to standard output. -/
def capture (s : State) : State × Nat :=
  let id := s.channels.length
  (({ s with channels := s.channels ++ [[]] } : State).redirect 1 (.channel id), id)

/-- Complains. -/
def complain (s : State) (text : Raw) : State :=
  s.write 2 (s.name ++ Raw.ofString (": " ++ toString s.line ++ ": ") ++ text ++ ['\n'])

/-- Sets the exit code. -/
def withStatus (s : State) (n : Nat) : State := { s with status := n }

/-- Ends the shell with an exit code. -/
def exit (s : State) (n : Nat) : State := { s with status := n % 256, pace := .exited }

/-- The words for a program that a signal ended. -/
def signalNotice (signal : Nat) : Raw :=
  match notices.lookup signal with
  | some text => Raw.ofString (text ++ "\n")
  | none => []
where
  /-- The signals and their words; an interrupt and a broken pipe are passed over. -/
  notices : List (Nat × String) :=
    [(1, "Hangup"), (3, "Quit"), (4, "Illegal instruction"), (5, "Trace/breakpoint trap"),
      (6, "Aborted"), (7, "Bus error"), (8, "Floating point exception"), (9, "Killed"),
      (10, "User defined signal 1"), (11, "Segmentation fault"), (12, "User defined signal 2"),
      (14, "Alarm clock"), (15, "Terminated"), (24, "CPU time limit exceeded"),
      (25, "File size limit exceeded"), (26, "Virtual timer expired"),
      (27, "Profiling timer expired"), (29, "I/O possible"), (30, "Power failure"),
      (31, "Bad system call")]

/-- Goes on after a shell of its own has ended: what it wrote and did to files stays. -/
def rejoin (s child : State) : State :=
  let s := { s with
    tree := { child.tree with here := s.tree.here }
    channels := child.channels.take s.channels.length
    input := child.input
    status := child.status }
  match child.pace with
  | .killed signal =>
    if child.process == s.process then { s with pace := .killed signal }
    else (s.write 2 (signalNotice signal)).withStatus (128 + signal)
  | _ => s

end State

/-- One piece of an expanded word. -/
inductive Glyph where
  /-- A character; `split` says that it may divide words. -/
  | char (c : Char) (quoted split : Bool)
  /-- There is a word here, even if nothing stands in it. -/
  | hold
  /-- A new word begins. -/
  | divide
  deriving DecidableEq, Repr

namespace Glyph

/-- The characters of a value. -/
def ofValue (r : Raw) (quoted : Bool) : List Glyph :=
  (if quoted then [.hold] else []) ++ r.map fun c => .char c quoted (!quoted)

/-- The characters of a text that stands in the script. -/
def ofLiteral (r : Raw) (quoted : Bool) : List Glyph :=
  (if quoted then [.hold] else []) ++ r.map fun c => .char c quoted false

/-- The marked characters of a word that is not divided. -/
def marked (gs : List Glyph) : Marked :=
  gs.filterMap fun
    | .char c quoted _ => some (c, quoted)
    | .hold => none
    | .divide => some (' ', true)

/-- The words of a sequence of pieces; the current one is in reverse. -/
def words (separators : Raw) : Option Marked → List Glyph → List Marked
  | current, [] => (current.map List.reverse).toList
  | current, .hold :: gs => words separators (some (current.getD [])) gs
  | current, .divide :: gs => (current.map List.reverse).toList ++ words separators none gs
  | current, .char c quoted split :: gs =>
    if split && separators.contains c then
      let isSpace := c == ' ' || c == '\t' || c == '\n'
      let ended := if isSpace then (current.map List.reverse).toList
        else [(current.getD []).reverse]
      ended ++ words separators none gs
    else words separators (some ((c, quoted) :: current.getD [])) gs

end Glyph
end LintHub.Shell
