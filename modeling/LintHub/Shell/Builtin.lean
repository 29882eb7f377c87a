import LintHub.Shell.State

/-!
# The shell's own commands

Commands that the shell runs itself and that need nothing but its state and their
arguments.
-/

namespace LintHub.Shell

/-- The names of the signals and their numbers. -/
def signalNumbers : List (String × Nat) :=
  [("HUP", 1), ("INT", 2), ("QUIT", 3), ("ILL", 4), ("TRAP", 5), ("ABRT", 6), ("BUS", 7), ("FPE", 8),
    ("KILL", 9), ("USR1", 10), ("SEGV", 11), ("USR2", 12), ("PIPE", 13), ("ALRM", 14), ("TERM", 15),
    ("CHLD", 17), ("CONT", 18), ("STOP", 19), ("TSTP", 20), ("TTIN", 21), ("TTOU", 22), ("URG", 23),
    ("XCPU", 24), ("XFSZ", 25), ("VTALRM", 26), ("PROF", 27), ("WINCH", 28), ("IO", 29), ("PWR", 30),
    ("SYS", 31)]

/-- The signal that a name or a number means. -/
def signal? (r : Raw) : Option Nat :=
  let r := if "SIG".toList.isPrefixOf r then r.drop 3 else r
  match signalNumbers.lookup (String.ofList r) with
  | some n => some n
  | none => (Raw.int? r).map Int.toNat

/-- Whether a signal ends the process that gets it. -/
def endsProcess (signal : Nat) : Bool := !([0, 17, 18, 19, 20, 21, 22, 23, 28].contains signal)

namespace Builtin

/-- Complains with a command's name in front. -/
def fault (s : State) (command text : String) (subject : Raw) (status : Nat) : State :=
  (s.complain (Raw.ofString (command ++ ": " ++ text) ++ subject)).withStatus status

/-- Complains and ends the shell. -/
def fatal (s : State) (command text : String) (subject : Raw) : State :=
  (fault s command text subject 2).exit 2

/-- Sends a signal to processes, of which only the shell itself is known. -/
def send (s : State) (signal : Nat) (targets : List Raw) : State :=
  targets.foldl (fun s target =>
    if target == Raw.ofInt s.process then
      if endsProcess signal then { s with pace := .killed signal } else s
    else (s.complain (Raw.ofString "kill: No such process")).withStatus 1) (s.withStatus 0)

/-- Sends a signal; the termination signal unless another is named. -/
def kill (s : State) (arguments : List Raw) : State :=
  match arguments with
  | ['-', 's'] :: name :: targets =>
    match signal? name with
    | some n => send s n targets
    | none => fault s "kill" "invalid signal number or name: " name 2
  | ('-' :: c :: cs) :: targets =>
    match signal? (c :: cs) with
    | some n => send s n targets
    | none => fault s "kill" "Illegal option -" [c] 2
  | targets => send s 15 targets

/-- The count that a command is given, one without it; the shell ends if it is less than the
least one. -/
def withCount (s : State) (command : String) (least otherwise : Nat) (arguments : List Raw)
    (act : Nat → State) : State :=
  match arguments with
  | [] => act otherwise
  | a :: _ =>
    match Raw.int? a with
    | some n => if least ≤ n then act n.toNat else fatal s command "Illegal number: " a
    | none => fatal s command "Illegal number: " a

/-- Ends the shell, with the last exit code unless another is given. -/
def exit (s : State) (arguments : List Raw) : State :=
  withCount s "exit" 0 s.status arguments s.exit

/-- Drops arguments from the front. -/
def shift (s : State) (arguments : List Raw) : State :=
  withCount s "shift" 0 1 arguments fun n =>
  if s.arguments.length < n then fatal s "shift" "can't shift that many" []
  else { s with arguments := s.arguments.drop n, status := 0 }

/-- Enters a directory. -/
def cd (s : State) (arguments : List Raw) : State :=
  let target := match arguments with
    | [] => (s.get? "HOME".toList).getD []
    | ['-'] :: _ => (s.get? "OLDPWD".toList).getD []
    | a :: _ => a
  let full := if target.head? == some '/' then target else s.directory ++ '/' :: target
  let name := '/' :: (((Text.fields '/' full).foldl step []).reverse.intersperse ['/']).flatten
  match s.tree.directoryAt (Raw.path name) with
  | .ok k =>
    let after := { s with tree := { s.tree with here := k }, status := 0 }
    let after := (after.publish "OLDPWD".toList s.directory).publish "PWD".toList name
    if arguments.head? == some ['-'] then after.write 1 (name ++ ['\n']) else after
  | .error _ => fault s "cd" "can't cd to " target 2
where
  /-- Goes one step along a name; the steps taken are in reverse. -/
  step (taken : List Raw) (r : Raw) : List Raw :=
    if r.isEmpty || r == ['.'] then taken
    else if r == ['.', '.'] then taken.drop 1
    else r :: taken

/-- Turns the options with these letters on or off. -/
def choose (s : State) (on : Bool) (letters : Raw) : State :=
  { s with
    exitOnError := if letters.contains 'e' then on else s.exitOnError
    exitOnUnset := if letters.contains 'u' then on else s.exitOnUnset }

/-- Sets options and arguments. -/
def setOptions (s : State) (arguments : List Raw) : State :=
  match arguments with
  | [] => s.withStatus 0
  | ['-', '-'] :: rest => { s with arguments := rest, status := 0 }
  | ('-' :: letters) :: rest =>
    let s := choose s true letters
    if rest.isEmpty || letters == ['o'] then s.withStatus 0 else setOptions s rest
  | ('+' :: letters) :: rest =>
    let s := choose s false letters
    if rest.isEmpty || letters == ['o'] then s.withStatus 0 else setOptions s rest
  | rest => { s with arguments := rest, status := 0 }

/-- A word that sets a variable, cut at its sign. -/
def assignment? (r : Raw) : Option (Raw × Raw) :=
  match r.dropWhile (· != '=') with
  | _ :: value => some (r.takeWhile (· != '='), value)
  | [] => none

/-- Sets variables, and passes them on if asked to. -/
def declare (onward : Bool) (s : State) (arguments : List Raw) : State :=
  (arguments.filter fun a => a.head? != some '-').foldl (fun s a =>
    let (name, s) := match assignment? a with
      | some (name, value) => (name, s.set name value)
      | none => (a, s)
    if onward then s.passOn name else s) (s.withStatus 0)

/-- Reads a line into variables; the last one gets all that is left of it. -/
def read (s : State) (arguments : List Raw) : State :=
  let names := arguments.filter fun a => a.head? != some '-'
  let line := s.input.takeWhile (· != '\n')
  let ended := s.input.length == line.length
  let s := { s with input := s.input.drop (line.length + 1), status := if ended then 1 else 0 }
  let separators := s.separators
  let isSeparator := fun c => separators.contains c
  let rec spread (s : State) (text : Raw) : List Raw → State
    | [] => s
    | [name] =>
      s.set name ((text.dropWhile isSeparator).reverse.dropWhile isSeparator).reverse
    | name :: names =>
      let text := text.dropWhile isSeparator
      spread (s.set name (text.takeWhile fun c => !isSeparator c))
        (text.dropWhile fun c => !isSeparator c) names
  spread s line names

/-- Decides a condition. -/
def condition (s : State) (command : String) (words : List Raw) : State :=
  let misplaced (a : Raw) : State := fault s command "" (a ++ Raw.ofString ": unexpected operator") 2
  match Condition.holds? s.tree words with
  | some true => s.withStatus 0
  | some false => s.withStatus 1
  | none =>
    match words with
    | [a, operator, b] =>
      if Condition.isBinary operator then
        fault s command "Illegal number: " (if (Raw.int? a).isNone then a else b) 2
      else misplaced a
    | a :: _ => misplaced a
    | [] => s.withStatus 1

/-- Prints a format. -/
def printf (s : State) (arguments : List Raw) : State :=
  match arguments with
  | [] => fault s "printf" "usage: printf format [arg ...]" [] 2
  | pattern :: rest =>
    let rest := if pattern == ['-', '-'] then rest.drop 1 else rest
    let pattern := if pattern == ['-', '-'] then arguments.getD 1 [] else pattern
    let (out, faults) := Format.format pattern rest
    let s := s.write 1 out
    let s := faults.foldl (fun s f =>
      s.complain (Raw.ofString "printf: " ++ f ++ Raw.ofString ": expected numeric value")) s
    s.withStatus (if faults.isEmpty then 0 else 1)

/-- Leaves loops or goes on with one, if there is any. -/
def leave (s : State) (pace : Pace) : State :=
  if s.loops = 0 then s.withStatus 0 else { s with status := 0, pace := pace }

/-- The command with this name, if the shell runs it itself. -/
def find? (name : String) : Option (State → List Raw → State) :=
  match name with
  | ":" => some fun s _ => s.withStatus 0
  | "true" => some fun s _ => s.withStatus 0
  | "false" => some fun s _ => s.withStatus 1
  | "echo" => some fun s args => (s.write 1 (Format.echo args)).withStatus 0
  | "printf" => some printf
  | "pwd" => some fun s _ =>
    (s.write 1 (s.directory ++ ['\n'])).withStatus 0
  | "cd" => some cd
  | "exit" => some exit
  | "return" => some fun s args =>
    withCount s "return" 0 s.status args fun n => { s with status := n, pace := .returning }
  | "break" => some fun s args =>
    withCount s "break" 1 1 args fun n => leave s (.breaking (min n s.loops))
  | "continue" => some fun s args =>
    withCount s "continue" 1 1 args fun n => leave s (.continuing (min n s.loops))
  | "shift" => some shift
  | "set" => some setOptions
  | "export" => some (declare true)
  | "readonly" => some (declare false)
  | "local" => some (declare false)
  | "unset" => some fun s args => (args.foldl State.unset s).withStatus 0
  | "read" => some read
  | "kill" => some kill
  | "test" => some fun s args => condition s "test" args
  | "[" => some fun s args =>
    if args.getLast? == some [']'] then condition s "[" args.dropLast
    else fault s "[" "missing ]" [] 2
  | "umask" => some fun s _ => s.withStatus 0
  | "wait" => some fun s _ => s.withStatus 0
  | "trap" => some fun s _ => s.withStatus 0
  | "times" => some fun s _ => s.withStatus 0
  | "hash" => some fun s _ => s.withStatus 0
  | _ => none

end Builtin
end LintHub.Shell
