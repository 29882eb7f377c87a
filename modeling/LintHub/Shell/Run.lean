import LintHub.Shell.Arithmetic
import LintHub.Shell.Builtin
import LintHub.Shell.Program
import LintHub.Shell.Reader

/-!
# Running shell scripts

Commands change the state of the shell. Words are expanded first, then redirections are
made, then the command runs: a function, a command of the shell itself, or a program.
The first number of each function bounds the depth of nesting.
-/

namespace LintHub.Shell

/-- How many rounds a loop may take. -/
def roundLimit : Nat := 10000000

/-- Repeats a round until it says that it was the last. -/
def rounds (round : State → Bool × State) : Nat → State → State
  | 0, s => s
  | n + 1, s =>
    match round s with
    | (true, s) => rounds round n s
    | (false, s) => s

/-- What a loop does after a round: whether it goes on. -/
def afterRound (s : State) : Bool × State :=
  match s.pace with
  | .running => (true, s)
  | .continuing n =>
    if n ≤ 1 then (true, { s with pace := .running })
    else (false, { s with pace := .continuing (n - 1) })
  | .breaking n => (false, { s with pace := if n ≤ 1 then .running else .breaking (n - 1) })
  | _ => (false, s)

/-- Does something for each word, as a loop does. -/
def overWords (act : Raw → State → State) : List Raw → State → State
  | [], s => s
  | w :: ws, s =>
    match afterRound (act w s) with
    | (true, s) => overWords act ws s
    | (false, s) => s

/-- The value of a parameter that is no list. -/
def parameter? (s : State) (name : Raw) : Option Raw :=
  match name with
  | ['?'] => some (Raw.ofInt s.status)
  | ['#'] => some (Raw.ofInt s.arguments.length)
  | ['$'] => some (Raw.ofInt s.process)
  | ['-'] => some ((if s.exitOnError then ['e'] else []) ++ (if s.exitOnUnset then ['u'] else []))
  | ['!'] => some []
  | name =>
    if name.all Char.isDigit then
      match Raw.int? name with
      | some n => if 0 < n then s.arguments[n.toNat - 1]? else some s.name
      | none => none
    else s.get? name

/-- The text between arguments that are joined. -/
def joiner (s : State) : Raw :=
  match s.get? "IFS".toList with
  | some (c :: _) => [c]
  | some [] => []
  | none => [' ']

/-- Whether a name stands for all arguments. -/
def isList (name : Raw) : Bool := name == ['@'] || name == ['*']

/-- The value of a parameter; all arguments are words of their own, or joined. -/
def valueGlyphs (s : State) (name : Raw) (quoted : Bool) : List Glyph :=
  if name == ['*'] && quoted then Glyph.ofValue ((s.arguments.intersperse (joiner s)).flatten) true
  else if isList name then
    ((s.arguments.map fun a => Glyph.ofValue a quoted).intersperse [.divide]).flatten
  else Glyph.ofValue ((parameter? s name).getD []) quoted

/-- Whether a parameter has a value, which may have to be more than nothing. -/
def hasValue (s : State) (name : Raw) (orEmpty : Bool) : Bool :=
  if isList name then !s.arguments.isEmpty
  else match parameter? s name with
    | none => false
    | some r => !(orEmpty && r.isEmpty)

/-- Whether a parameter is used that has no value, where that is no good. -/
def missesValue (s : State) (name : Raw) : Bool :=
  s.exitOnUnset && !isList name && !hasValue s name false

/-- Ends the shell for want of a value. -/
def missed (s : State) (name : Raw) : State :=
  (s.complain (name ++ Raw.ofString ": parameter not set")).exit 2

/-- Opens a file for writing, or says why it cannot be opened. -/
def openForWriting (s : State) (append : Bool) (target : Raw) : Except FileError (Sink × State) :=
  let p := Raw.path target
  match s.tree.find? true p with
  | .ok (["dev", "null"], _) => .ok (.nowhere, s)
  | _ =>
    let old := if append then (s.tree.readBytes p).toOption.getD [] else []
    match s.tree.writeWithMode p old FileTree.plainMode with
    | (.ok k, t) => .ok (.file k, { s with tree := t })
    | (.error e, _) => .error e

/-- What is said when a file cannot be opened. -/
def openComplaint (reading : Bool) (target : Raw) (e : FileError) : Raw :=
  let missing := e == .notFound || e == .notDirectory
  let (verb, reason) := if reading then ("cannot open ", "No such file")
    else ("cannot create ", "Directory nonexistent")
  Raw.ofString verb ++ target ++ Raw.ofString (": " ++ if missing then reason else e.reason)

/-- Makes one redirection, with its target expanded. -/
def redirectTo (s : State) (descriptor : Nat) (flow : Flow) (target : Raw) : Bool × State :=
  match flow with
  | .here => (true, { s with input := target })
  | .duplicate =>
    if target == ['-'] then (true, s.redirect descriptor .nowhere)
    else if target.length != 1 || !target.all Char.isDigit then
      (false, (s.complain (Raw.ofString "Syntax error: Bad fd number")).exit 2)
    else match (Raw.int? target).bind fun n => s.descriptors.lookup n.toNat with
      | some sink => (true, s.redirect descriptor sink)
      | none =>
        (false, (s.complain (target ++ Raw.ofString ": Bad file descriptor")).withStatus 2)
  | .read =>
    match s.tree.readBytes (Raw.path target) with
    | .ok bytes => (true, { s with input := Raw.ofBytes bytes })
    | .error .isDirectory => (true, { s with input := [] })
    | .error e => (false, (s.complain (openComplaint true target e)).withStatus 2)
  | flow =>
    if target == "/dev/stderr".toList then
      (true, s.redirect descriptor ((s.descriptors.lookup 2).getD .nowhere))
    else if target == "/dev/stdout".toList then
      (true, s.redirect descriptor ((s.descriptors.lookup 1).getD .nowhere))
    else
      match openForWriting s (flow == .append) target with
      | .ok (sink, s) => (true, s.redirect descriptor sink)
      | .error e => (false, (s.complain (openComplaint false target e)).withStatus 2)

/-- Whether a redirection changes what is read. -/
def Redirection.isInput : Redirection → Bool
  | .mk _ flow _ => flow == .read || flow == .here

/-- Puts descriptors back where they led before redirections. -/
def restore (before : State) (redirections : List Redirection) (s : State) : State :=
  { s with
    descriptors := before.descriptors
    input := if redirections.any Redirection.isInput then before.input else s.input }

/-- The paths under which a program may be found, in order. -/
def searchPaths (s : State) (name : Raw) : List Path :=
  if name.contains '/' then [Raw.path name]
  else (Text.fields ':' ((s.get? "PATH".toList).getD [])).map fun dir =>
    Raw.path (if dir.isEmpty then name else dir ++ '/' :: name)

/-- The program with this name: the first file found that can be executed, or else the
failure to report. -/
def findProgram (s : State) (name : Raw) : Except FileError Path :=
  let paths := searchPaths s name
  let runnable (p : Path) : Bool := s.tree.isFile p && Condition.isRunnable s.tree p
  match paths.find? runnable with
  | some p => .ok p
  | none =>
    let blocked (p : Path) : Bool := s.tree.isFile p || (name.contains '/' && s.tree.exists? p)
    if paths.any blocked then .error .permissionDenied else .error .notFound

/-- Says that a program cannot be run. -/
def notRun (s : State) (name : Raw) (e : FileError) : State :=
  if name.isEmpty then (s.complain (Raw.ofString ": Permission denied")).withStatus 127
  else match e with
  | .permissionDenied => (s.complain (name ++ Raw.ofString ": Permission denied")).withStatus 126
  | .notFound => (s.complain (name ++ Raw.ofString ": not found")).withStatus 127
  | .notDirectory => (s.complain (name ++ Raw.ofString ": not found")).withStatus 127
  | e => (s.complain (name ++ Raw.ofString (": " ++ e.reason))).withStatus 126

/-- Whether a tool reads what its caller could read. -/
def Tool.readsInput (t : Tool) (arguments : List Raw) : Bool :=
  match t with
  | .cat => (Tool.options arguments).2.isEmpty
  | .sort => (Tool.options arguments).2.isEmpty
  | .uniq => (Tool.options arguments).2.isEmpty
  | .wc => (Tool.options arguments).2.isEmpty
  | .head => true
  | .tail => true
  | .tee => true
  | _ => false

/-- Runs a tool that starts no other program. -/
def runPlainTool (tool : Tool) (arguments : List Raw) (s : State) : State :=
  let o := tool.run s.tree s.environment s.input arguments
  let s := { s with
    tree := { o.tree with here := s.tree.here }
    input := if tool.readsInput arguments then [] else s.input }
  ((s.write 1 o.out).write 2 o.err).withStatus o.status

/-- The state in which a program starts: it gets the variables that are passed on. The
program has a process of its own unless it runs in place of its caller. -/
def programState (inPlace : Bool) (s : State) : State :=
  { s with
    bindings := s.environment
    functions := []
    arguments := []
    pace := .running
    loops := 0
    process := if inPlace then s.process else s.process + 1
    line := 1
    exitOnError := false
    exitOnUnset := false
    tested := false }

/-- Ends the shell if a command fails where that counts. -/
def checkFailure (s : State) : State :=
  if s.exitOnError && !s.tested && s.isRunning && s.status != 0 then s.exit s.status else s

/-- A home directory in front of a word. -/
def expandTilde (s : State) (gs : List Glyph) : List Glyph :=
  let home := Glyph.ofValue ((s.get? "HOME".toList).getD []) true
  match gs with
  | [.char '~' false false] => home
  | .char '~' false false :: .char '/' q p :: gs => home ++ .char '/' q p :: gs
  | gs => gs

mutual

/-- Expands one part of a word. -/
def expandPart : Nat → Part → State → List Glyph × State
  | 0, _, s => ([], s)
  | _ + 1, .literal text quoted, s => (Glyph.ofLiteral text quoted, s)
  | n + 1, .parameter name use quoted, s =>
    match use with
    | .value => if missesValue s name then ([], missed s name) else (valueGlyphs s name quoted, s)
    | .length =>
      if missesValue s name then ([], missed s name) else
      let length := if isList name then s.arguments.length else ((parameter? s name).getD []).length
      (Glyph.ofValue (Raw.ofInt length) quoted, s)
    | .fallback orEmpty word =>
      if hasValue s name orEmpty then (valueGlyphs s name quoted, s) else expandParts n word s
    | .assign orEmpty word =>
      if hasValue s name orEmpty then (valueGlyphs s name quoted, s)
      else
        let (r, s) := expandRaw n word s
        (Glyph.ofValue r quoted, s.set name r)
    | .require orEmpty word =>
      if hasValue s name orEmpty then (valueGlyphs s name quoted, s)
      else
        let (r, s) := expandRaw n word s
        let r := if r.isEmpty then Raw.ofString "parameter not set or null" else r
        ([], (s.complain (name ++ Raw.ofString ": " ++ r)).exit 2)
    | .alternative orEmpty word => if hasValue s name orEmpty then expandParts n word s else ([], s)
    | .strip atEnd longest pattern =>
      if missesValue s name then ([], missed s name) else
      let (gs, s) := expandParts n pattern s
      let r := Pattern.strip atEnd longest (Glyph.marked gs) ((parameter? s name).getD [])
      (Glyph.ofValue r quoted, s)
    | .malformed => ([], (s.complain (Raw.ofString "Bad substitution")).exit 2)
  | n + 1, .arithmetic expression quoted, s =>
    let (r, s) := expandRaw n expression s
    let look (vs : Arithmetic.Values) (name : Raw) : Raw :=
      (vs.lookup name).getD ((s.get? name).getD [])
    match (Arithmetic.parse r).bind fun t => Arithmetic.eval look t [] with
    | .ok (value, vs) =>
      (Glyph.ofValue (Raw.ofInt value) quoted, vs.reverse.foldl (fun s v => s.set v.1 v.2) s)
    | .error (.bad reason) =>
      let text := Raw.ofString ("arithmetic expression: " ++ reason ++ ": \"") ++ r ++ ['"']
      ([], (s.complain text).exit 2)
    | .error (.number value) => ([], (s.complain (Raw.ofString "Illegal number: " ++ value)).exit 2)
  | n + 1, .output body quoted, s =>
    let (child, id) := s.capture
    let child := run n body { child with tested := false }
    let out := (child.written id).filter fun c => c.toNat != 0
    let out := (out.reverse.dropWhile (· == '\n')).reverse
    (Glyph.ofValue out quoted, s.rejoin child)

/-- Expands the parts of a word. -/
def expandParts : Nat → List Part → State → List Glyph × State
  | 0, _, s => ([], s)
  | n + 1, parts, s =>
    parts.foldl (fun (gs, s) part =>
      let (more, s) := expandPart n part s
      (gs ++ more, s)) ([], s)

/-- Expands a word that is not divided. -/
def expandRaw : Nat → List Part → State → Raw × State
  | 0, _, s => ([], s)
  | n + 1, parts, s =>
    let (gs, s) := expandParts n parts s
    (Pattern.plain (Glyph.marked (expandTilde s gs)), s)

/-- Expands a word to the words that it stands for. -/
def expandWord : Nat → List Part → State → List Raw × State
  | 0, _, s => ([], s)
  | n + 1, parts, s =>
    let (gs, s) := expandParts n parts s
    ((Glyph.words s.separators none (expandTilde s gs)).flatMap (Pattern.expand s.tree), s)

/-- Expands words in order. -/
def expandWords : Nat → List (List Part) → State → List Raw × State
  | 0, _, s => ([], s)
  | n + 1, words, s =>
    words.foldl (fun (out, s) word =>
      let (more, s) := expandWord n word s
      (out ++ more, s)) ([], s)

/-- Makes redirections in order, up to the first that fails. -/
def redirectAll : Nat → List Redirection → State → Bool × State
  | 0, _, s => (false, s)
  | n + 1, redirections, s =>
    redirections.foldl (fun (good, s) r =>
      if good then
        match r with
        | .mk descriptor flow target =>
          let (text, s) := expandRaw n target s
          redirectTo s descriptor flow text
      else (good, s)) (true, s)

/-- Sets variables in order. -/
def assignAll : Nat → List (Raw × List Part) → State → State
  | 0, _, s => s
  | n + 1, assignments, s =>
    assignments.foldl (fun s a =>
      let (value, s) := expandRaw n a.2 s
      s.set a.1 value) s

/-- Runs a tool, the shell included, in place of its caller or as a process of its own;
its name comes first in its arguments. -/
def runTool : Nat → Bool → Tool → List Raw → State → State
  | 0, _, _, _, s => s.withStatus 126
  | n + 1, inPlace, tool, arguments, s =>
    match tool with
    | .sh => s.rejoin (runShell n arguments (programState inPlace s))
    | .env =>
      let fault (text : Raw) (status : Nat) : State :=
        (s.write 2 (Raw.ofString "env: " ++ text ++ ['\n'])).withStatus status
      match Tool.envRequest s.environment (arguments.drop 1) with
      | .error text => fault (text ++ Raw.ofString "\nTry 'env --help' for more information.") 125
      | .ok ⟨found, []⟩ => (s.write 1 (Tool.shown found)).withStatus 0
      | .ok ⟨found, name :: rest⟩ =>
        let inside := { s with bindings := found, exported := found.map (·.1), isShell := false }
        match findProgram inside name with
        | .error e =>
          let text := '\'' :: name ++ Raw.ofString ("': " ++ e.reason)
          fault text (if e == .notFound then 127 else 126)
        | .ok p =>
          let after := runProgram n inPlace p (name :: rest) inside
          { after with bindings := s.bindings, exported := s.exported, isShell := s.isShell }
    | tool => runPlainTool tool (arguments.drop 1) s

/-- Runs the program that a path leads to. -/
def runProgram : Nat → Bool → Path → List Raw → State → State
  | 0, _, _, _, s => s.withStatus 126
  | n + 1, inPlace, p, arguments, s =>
    match Image.resolve s.tree Image.interpreterLimit p arguments with
    | .ok (tool, arguments) => runTool n inPlace tool arguments s
    | .error .notProgram =>
      let arguments := ['s', 'h'] :: Raw.ofString p.text :: arguments.drop 1
      runTool n inPlace .sh arguments s
    | .error e => notRun s (arguments.headD []) e

/-- Runs the commands of a text, up to a line that breaks the grammar; where the text
comes from is told in front of the complaint. -/
def runText : Nat → Raw → Raw → State → State
  | 0, _, _, s => s.withStatus 126
  | n + 1, source, text, s =>
    let script := Reader.script text
    let s := run n (.sequence script.commands) s
    match script.fault with
    | some f =>
      if s.isRunning then
        let s := { s with line := f.line }
        (s.complain (source ++ Raw.ofString ("Syntax error: " ++ f.text))).exit 2
      else s
    | none => s

/-- Runs a shell with these arguments, its name first, in a state of its own. -/
def runShell : Nat → List Raw → State → State
  | 0, _, s => s.exit 126
  | n + 1, arguments, s =>
    let name := arguments.headD ['s', 'h']
    let start (s : State) (text : Raw) : State :=
      let s := runText n [] text s
      match s.pace with
      | .killed _ => s
      | _ => s.exit s.status
    let flags := (arguments.drop 1).takeWhile fun a =>
      a.length ≥ 2 && (a.head? == some '-' || a.head? == some '+')
    let rest := (arguments.drop 1).drop flags.length
    let letters := flags.flatten
    let s := { s with
      bindings := s.bindings.filter fun v => Reader.isName v.1
      exported := s.exported.filter Reader.isName
      name := name
      exitOnError := letters.contains 'e'
      exitOnUnset := letters.contains 'u' }
    let s := s.takeOver.locate
    if letters.contains 'c' then
      match rest with
      | [] => (({ s with line := 0 }).complain (Raw.ofString "-c requires an argument")).exit 2
      | text :: [] => start s text
      | text :: name :: args => start { s with name := name, arguments := args } text
    else
      match rest with
      | [] => start { s with input := [] } s.input
      | file :: args =>
        match s.tree.readBytes (Raw.path file) with
        | .ok bytes => start { s with name := file, arguments := args } (Raw.ofBytes bytes)
        | .error e =>
          (({ s with line := 0 }).complain (openComplaint true file e)).exit 2

/-- Runs a command by its name and arguments. -/
def runNamed : Nat → Bool → Raw → List Raw → State → State
  | 0, _, _, _, s => s.withStatus 126
  | n + 1, functionsToo, name, arguments, s =>
    match if functionsToo then s.functions.lookup name else none with
    | some body =>
      let inside := run n body { s with arguments := arguments, loops := 0 }
      { inside with
        arguments := s.arguments
        loops := s.loops
        pace := if inside.pace == .returning then .running else inside.pace }
    | none =>
      let text := String.ofList name
      match Builtin.find? text with
      | some act => act s arguments
      | none =>
        match text with
        | "eval" =>
          runText n (Raw.ofString "eval: ") ((arguments.intersperse [' ']).flatten) (s.withStatus 0)
        | "." =>
          let file := arguments.headD []
          match s.tree.readBytes (Raw.path file) with
          | .ok bytes =>
            let s := runText n (file ++ [':', ' ']) (Raw.ofBytes bytes) (s.withStatus 0)
            { s with pace := if s.pace == .returning then .running else s.pace }
          | .error e => (s.complain (Raw.ofString ".: " ++ openComplaint true file e)).exit 2
        | "exec" =>
          match arguments with
          | [] => s.withStatus 0
          | program :: _ =>
            match findProgram s program with
            | .ok p =>
              let s := runProgram n true p arguments s
              match s.pace with
              | .killed _ => s
              | _ => s.exit s.status
            | .error e =>
              let s := notRun s program e
              s.exit s.status
        | "command" =>
          match arguments with
          | ['-', 'v'] :: wanted :: _ =>
            let isFunction := (s.functions.lookup wanted).isSome
            if (Builtin.find? (String.ofList wanted)).isSome || isFunction then
              (s.write 1 (wanted ++ ['\n'])).withStatus 0
            else match findProgram s wanted with
              | .ok p => (s.write 1 (Raw.ofString (p.text ++ "\n"))).withStatus 0
              | .error _ => s.withStatus 127
          | wanted :: rest => runNamed n false wanted rest s
          | [] => s.withStatus 0
        | _ =>
          match findProgram s name with
          | .ok p => runProgram n false p (name :: arguments) s
          | .error e => notRun s name e

/-- Runs a command. -/
def run : Nat → Command → State → State
  | 0, _, s => s.withStatus 126
  | n + 1, command, s =>
    let test (c : Command) (s : State) : State :=
      let after := run n c { s with tested := true }
      { after with tested := s.tested }
    match command with
    | .simple line assignments words redirections =>
      let s := { s with line := line }
      let (fields, s) := expandWords n words (if words.isEmpty then s.withStatus 0 else s)
      if !s.isRunning then s
      else
        match fields with
        | [] =>
          let (good, inside) := redirectAll n redirections s
          let s := restore s redirections inside
          checkFailure (if good then assignAll n assignments s else s)
        | name :: arguments =>
          let (good, inside) := redirectAll n redirections s
          let special := isSpecial (String.ofList name)
          if !good then
            let s := restore s redirections inside
            if special then s.exit 2 else checkFailure s
          else
            let prepared := assignAll n assignments inside
            let prepared := if special then prepared
              else assignments.foldl (fun s a => s.passOn a.1) prepared
            let after := runNamed n true name arguments prepared
            let after := if special then after
              else
                let put := assignments.foldl (fun after a =>
                  match s.get? a.1 with
                  | some value => after.set a.1 value
                  | none => after.unset a.1) after
                if assignments.isEmpty then after else { put with exported := s.exported }
            let lasting := name == "exec".toList && arguments.isEmpty
            checkFailure (if lasting then after else restore s redirections after)
    | .pipe negated parts =>
      let s := match parts with
        | [only] => test only s
        | parts =>
          let last := parts.length - 1
          let (_, _, s) := parts.foldl (fun (i, input, s) part =>
            if !s.isRunning then (i, input, s)
            else
              let started := if i == 0 then s else { s with input := input }
              if i == last then
                let child := run n part started
                let after := s.rejoin child
                (i + 1, ([] : Raw), { after with input := if i == 0 then after.input else s.input })
              else
                let (child, id) := started.capture
                let child := run n part child
                let after := s.rejoin child
                (i + 1, child.written id,
                  { after with input := if i == 0 then after.input else s.input }))
            ((0 : Nat), ([] : Raw), s)
          s
      if !s.isRunning then s
      else if negated then s.withStatus (if s.status == 0 then 1 else 0)
      else checkFailure s
    | .both first second =>
      let s := test first s
      if s.isRunning && s.status == 0 then run n second s else s
    | .either first second =>
      let s := test first s
      if s.isRunning && s.status != 0 then run n second s else s
    | .sequence commands => commands.foldl (fun s c => if s.isRunning then run n c s else s) s
    | .separate body => checkFailure (s.rejoin (run n body s))
    | .redirected body redirections =>
      let (good, inside) := redirectAll n redirections s
      if good then restore s redirections (run n body inside)
      else checkFailure (restore s redirections inside)
    | .branch condition yes no =>
      let s := test condition s
      if !s.isRunning then s
      else if s.status == 0 then run n yes s
      else run n no (s.withStatus 0)
    | .loop untilTrue condition body =>
      let round (s : State) : Bool × State :=
        let tested := test condition s
        if !tested.isRunning then afterRound tested
        else if (tested.status == 0) != untilTrue then afterRound (run n body tested)
        else (false, tested.withStatus s.status)
      { rounds round roundLimit { s with status := 0, loops := s.loops + 1 } with loops := s.loops }
    | .each name words body =>
      let (fields, s) := match words with
        | some words => expandWords n words s
        | none => (s.arguments, s)
      let inside := { s with status := 0, loops := s.loops + 1 }
      { overWords (fun w s => run n body (s.set name w)) fields inside with loops := s.loops }
    | .choose word arms =>
      let (subject, s) := expandRaw n word s
      let (found, s) := arms.foldl (fun (found, s) arm =>
        if found.isSome then (found, s)
        else
          let (fits, s) := arm.1.foldl (fun (fits, s) pattern =>
            if fits then (fits, s)
            else
              let (gs, s) := expandParts n pattern s
              (Pattern.accepts (Glyph.marked gs) subject, s)) (false, s)
          (if fits then some arm.2 else none, s)) ((none : Option Command), s)
      match found with
      | some body => run n body (s.withStatus 0)
      | none => s.withStatus 0
    | .define name body =>
      { s with functions := (name, body) :: s.functions.filter (fun f => f.1 != name), status := 0 }

end

/-- How deep commands may nest. -/
def depthLimit : Nat := 3000

end LintHub.Shell
