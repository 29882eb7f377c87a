import LintHub.FileTree.Listing
import LintHub.Shell.Condition
import LintHub.Shell.Format

/-!
# Tools

The programs that come with the system, the shell aside: each reads its arguments and
its input and leaves a changed tree, output, complaints and an exit code.
-/

namespace LintHub.Shell

/-- A program that comes with the system. -/
inductive Tool where
  | sh | cat | listFiles | sort | cp | mv | rm | mkdir | rmdir | chmod | touch | ln | succeed | fail
  | pwd
  | echo | printf | head | tail | wc | env | sleep | test | bracket | basename | dirname | tee | seq
  | uniq
  deriving DecidableEq, Repr

/-- What a tool leaves. -/
structure Outcome where
  tree : FileTree
  out : Raw
  err : Raw
  status : Nat

namespace Tool

/-- The name of a tool. -/
def name : Tool → String
  | .sh => "sh" | .cat => "cat" | .listFiles => "ls" | .sort => "sort" | .cp => "cp" | .mv => "mv"
  | .rm => "rm" | .mkdir => "mkdir" | .rmdir => "rmdir" | .chmod => "chmod" | .touch => "touch"
  | .ln => "ln" | .succeed => "true" | .fail => "false" | .pwd => "pwd" | .echo => "echo"
  | .printf => "printf" | .head => "head" | .tail => "tail" | .wc => "wc" | .env => "env"
  | .sleep => "sleep" | .test => "test" | .bracket => "[" | .basename => "basename"
  | .dirname => "dirname" | .tee => "tee" | .seq => "seq" | .uniq => "uniq"

/-- All tools. -/
def all : List Tool :=
  [.sh, .cat, .listFiles, .sort, .cp, .mv, .rm, .mkdir, .rmdir, .chmod, .touch, .ln, .succeed, .fail,
    .pwd,
    .echo, .printf, .head, .tail, .wc, .env, .sleep, .test, .bracket, .basename, .dirname, .tee, .seq,
    .uniq]

/-- The bytes with which a tool's program file begins. -/
def magic : Bytes := [0x7F, 0x45, 0x4C, 0x46]

/-- The contents of a tool's program file. -/
def image (t : Tool) : Bytes := magic ++ Text.encode t.name.toList

/-- The tool whose program file has these contents. -/
def ofImage? (content : Bytes) : Option Tool := all.find? fun t => t.image == content

/-- The tools in place, below `/usr/bin`, with the other usual directories. -/
def install (t : FileTree) : FileTree :=
  let t := t.placeAll ⟨"/"⟩
    [("usr/local/bin", .directory), ("bin", .link "usr/bin"), ("tmp", .directory),
      ("dev/null", .file [] 0o666)]
  t.placeAll ⟨"/usr/bin"⟩ (all.map fun tool => (tool.name, .file tool.image FileTree.programMode))

/-- The parts of an input that line feeds end, and a last one without. -/
def lines (r : Raw) : List Raw :=
  match Text.fields '\n' r with
  | [] => []
  | fs => if fs.getLast? == some [] then fs.dropLast else fs

/-- Lines, each ended by a line feed. -/
def unlines (ls : List Raw) : Raw := ls.flatMap (· ++ ['\n'])

/-- A complaint of a tool about a file. -/
def complaint (tool before : String) (subject : Raw) (after : String) : Raw :=
  Raw.ofString (tool ++ ": " ++ before) ++ subject ++ Raw.ofString (after ++ "\n")

/-- A complaint of a tool about a file, which stands in quotes. -/
def quotedComplaint (tool before : String) (subject : Raw) (e : FileError) : Raw :=
  complaint tool (before ++ " '") subject ("': " ++ e.reason)

/-- Splits arguments into options and operands: letters of the options in front, and
what follows them. -/
def options : List Raw → Raw × List Raw
  | ['-', '-'] :: rest => ([], rest)
  | ('-' :: c :: cs) :: rest =>
    let (letters, operands) := options rest
    (c :: cs ++ letters, operands)
  | operand :: rest =>
    let (letters, operands) := options rest
    (letters, operand :: operands)
  | [] => ([], [])

/-- The contents of the files named by operands, or of the input if there is none. -/
def contents (tool : String) (t : FileTree) (input : Raw) (operands : List Raw) : Raw × Raw × Nat :=
  if operands.isEmpty then (input, [], 0)
  else operands.foldl (fun (out, err, status) operand =>
    if operand == ['-'] then (out ++ input, err, status)
    else match t.readBytes (Raw.path operand) with
      | .ok bytes => (out ++ Raw.ofBytes bytes, err, status)
      | .error e => (out, err ++ complaint tool "" operand (": " ++ e.reason), 1)) ([], [], 0)

/-- The names in a directory as `ls` shows them. -/
def shownNames (letters : Raw) (t : FileTree) (k : Place) : List Raw :=
  let names := (t.children k).map fun c => Raw.ofString c.1
  let names := names.filter fun n =>
    letters.contains 'a' || letters.contains 'A' || n.head? != some '.'
  let names := if letters.contains 'a' then ['.'] :: ['.', '.'] :: names else names
  let names := names.mergeSort fun a b => !decide (b < a)
  if letters.contains 'r' then names.reverse else names

/-- Lists files and directories. -/
def runLs (t : FileTree) (arguments : List Raw) : Outcome :=
  let (letters, operands) := options arguments
  let operands := if operands.isEmpty then [['.']] else operands
  let sorted := operands.mergeSort fun a b => !decide (b < a)
  let bad := sorted.filterMap fun o =>
    match t.find? false (Raw.path o) with
    | .ok _ => none
    | .error e => some (quotedComplaint "ls" "cannot access" o e)
  let isListed (o : Raw) : Bool := t.isDirectory (Raw.path o) && !letters.contains 'd'
  let plain := sorted.filter fun o => (t.find? false (Raw.path o)).isOk && !isListed o
  let dirs := sorted.filter isListed
  let listing (o : Raw) : Raw :=
    match t.directoryAt (Raw.path o) with
    | .ok k => unlines (shownNames letters t k)
    | .error _ => []
  let titled := dirs.map fun o =>
    if operands.length ≤ 1 then listing o else o ++ [':', '\n'] ++ listing o
  let sections := (if plain.isEmpty then [] else [unlines plain]) ++ titled
  ⟨t, (sections.intersperse ['\n']).flatten, bad.flatten, if bad.isEmpty then 0 else 2⟩

/-- The number in front of a line, zero if there is none. -/
def leadingNumber (r : Raw) : Int :=
  let r := r.dropWhile fun c => c == ' ' || c == '\t'
  let (negative, r) := match r with
    | '-' :: r => (true, r)
    | r => (false, r)
  let n := (Raw.int? (r.takeWhile Char.isDigit)).getD 0
  if negative then -n else n

/-- Drops lines that repeat the line before them. -/
def withoutRepeats : List Raw → List Raw
  | a :: b :: ls => if a == b then withoutRepeats (b :: ls) else a :: withoutRepeats (b :: ls)
  | ls => ls

/-- Sorts lines by their bytes, or by the numbers in front of them. -/
def runSort (t : FileTree) (input : Raw) (arguments : List Raw) : Outcome :=
  let (letters, operands) := options arguments
  let (text, err, status) := contents "sort" t input operands
  let bytewise (a b : Raw) : Bool := !decide (b < a)
  let le (a b : Raw) : Bool :=
    if letters.contains 'n' && leadingNumber a != leadingNumber b then
      leadingNumber a ≤ leadingNumber b
    else bytewise a b
  let ls := (lines text).mergeSort le
  let ls := if letters.contains 'r' then ls.reverse else ls
  let ls := if letters.contains 'u' then withoutRepeats ls else ls
  ⟨t, unlines ls, err, if status == 0 then 0 else 2⟩

/-- The path of a file put into a directory, or the path itself if it is no directory. -/
def into (t : FileTree) (target source : Raw) : Path :=
  let p := Raw.path target
  if t.isDirectory p then p.joinText ((Raw.path source).fileName?.getD "") else p

/-- A change of several steps: the tree, and the complaints so far. -/
abbrev Progress := FileTree × Raw

/-- Takes one step of a change. -/
def attempt (progress : Progress) (complain : FileError → Raw)
    (act : FileTree → FileTree.Change α) :
    Progress :=
  match act progress.1 with
  | (.ok _, t) => (t, progress.2)
  | (.error e, t) => (t, progress.2 ++ complain e)

/-- What a change leaves. -/
def ofProgress (progress : Progress) : Outcome :=
  ⟨progress.1, [], progress.2, if progress.2.isEmpty then 0 else 1⟩

/-- Copies a file, or a directory with everything below it. -/
def copyTree (t : FileTree) (recursive : Bool) (source target : Path) : FileTree.Change Unit :=
  match t.find? true source with
  | .ok (k, .directory) =>
    if recursive then
      let inside := t.below k
      let t := (t.makeDirectories target).2
      (.ok (), inside.foldl (fun t e => t.place (target.joinText ("/".intercalate e.1)) e.2) t)
    else (.error .isDirectory, t)
  | .ok (_, .file content mode) =>
    let (r, t) := t.writeWithMode target content (mode &&& 0o755)
    (r.map fun _ => (), t)
  | .ok _ => (.error .notFound, t)
  | .error e => (.error e, t)

/-- Copies files. -/
def runCp (t : FileTree) (arguments : List Raw) : Outcome :=
  let (letters, operands) := options arguments
  let recursive := letters.any fun c => c == 'r' || c == 'R' || c == 'a'
  match operands.getLast?, operands.dropLast with
  | some target, source :: sources =>
    ofProgress <| (source :: sources).foldl (fun progress s =>
      let complain (e : FileError) : Raw :=
        match e with
        | .notFound =>
          if (progress.1.find? true (Raw.path s)).isOk then
            quotedComplaint "cp" "cannot create regular file" target e
          else quotedComplaint "cp" "cannot stat" s e
        | .isDirectory => complaint "cp" "-r not specified; omitting directory '" s "'"
        | e => quotedComplaint "cp" "cannot create regular file" target e
      attempt progress complain fun t => copyTree t recursive (Raw.path s) (into t target s)) (t, [])
  | some only, [] => ⟨t, [], complaint "cp" "missing destination file operand after '" only "'", 1⟩
  | none, _ => ⟨t, [], Raw.ofString "cp: missing file operand\n", 1⟩

/-- Moves a file or directory; what is in a directory follows it from the top down. -/
def move (t : FileTree) (source target : Path) : FileTree.Change Unit :=
  match t.find? false source, t.locate false target with
  | .error e, _ => (.error e, t)
  | .ok _, .error e => (.error e, t)
  | .ok (from_, e), .ok spot =>
    let goal := match spot with
      | .taken k _ => k
      | .vacant dir name _ => dir ++ [name]
    let inside := (t.below from_).mergeSort fun a b => decide (a.1.length ≤ b.1.length)
    let t := (t.erase from_).put goal e
    (.ok (), inside.foldl (fun t x => t.put (goal ++ x.1) x.2) t)

/-- Moves files. -/
def runMv (t : FileTree) (arguments : List Raw) : Outcome :=
  let (_, operands) := options arguments
  match operands.getLast?, operands.dropLast with
  | some target, source :: sources =>
    ofProgress <| (source :: sources).foldl (fun progress s =>
      attempt progress (quotedComplaint "mv" "cannot stat" s) fun t =>
        move t (Raw.path s) (into t target s)) (t, [])
  | _, _ => ⟨t, [], Raw.ofString "mv: missing file operand\n", 1⟩

/-- Removes files, and directories if asked to. -/
def runRm (t : FileTree) (arguments : List Raw) : Outcome :=
  let (letters, operands) := options arguments
  let recursive := letters.any fun c => c == 'r' || c == 'R'
  let force := letters.contains 'f'
  ofProgress <| operands.foldl (fun progress o =>
    let complain (e : FileError) : Raw :=
      if force && e == .notFound then [] else quotedComplaint "rm" "cannot remove" o e
    attempt progress complain fun t =>
      if recursive && t.isDirectory (Raw.path o) && !Condition.isLink t (Raw.path o) then
        t.removeAll (Raw.path o)
      else t.unlink (Raw.path o)) (t, [])

/-- Makes directories, with those above them if asked to. -/
def runMkdir (t : FileTree) (arguments : List Raw) : Outcome :=
  let (letters, operands) := options arguments
  ofProgress <| operands.foldl (fun progress o =>
    attempt progress (quotedComplaint "mkdir" "cannot create directory" o) fun t =>
      if letters.contains 'p' then t.makeDirectories (Raw.path o) else t.makeDirectory (Raw.path o))
    (t, [])

/-- Removes empty directories. -/
def runRmdir (t : FileTree) (arguments : List Raw) : Outcome :=
  ofProgress <| (options arguments).2.foldl (fun progress o =>
    attempt progress (quotedComplaint "rmdir" "failed to remove" o) fun t =>
      match t.find? false (Raw.path o) with
      | .ok (k, .directory) =>
        if (t.children k).isEmpty then (.ok (), t.erase k) else (.error .notEmpty, t)
      | .ok _ => (.error .notDirectory, t)
      | .error e => (.error e, t)) (t, [])

/-- The bits that one clause of a symbolic mode names. -/
def clauseBits (who what : Raw) : Nat :=
  let all := who.isEmpty || who.contains 'a'
  let classes := (if all || who.contains 'u' then 0o700 else 0) |||
    (if all || who.contains 'g' then 0o070 else 0) ||| (if all || who.contains 'o' then 0o007 else 0)
  let bits := (if what.contains 'r' then 0o444 else 0) ||| (if what.contains 'w' then 0o222 else 0) |||
    (if what.contains 'x' then 0o111 else 0)
  classes &&& bits

/-- The permission bits after a change of mode. -/
def newMode? (mode : Raw) (old : Nat) : Option Nat :=
  if !mode.isEmpty && mode.all Format.isOctal then
    some (mode.foldl (fun n c => 8 * n + (c.toNat - 48)) 0)
  else
    (Text.fields ',' mode).foldlM (fun old clause =>
      let isWho := fun c => c == 'u' || c == 'g' || c == 'o' || c == 'a'
      let who := clause.takeWhile isWho
      match clause.dropWhile isWho with
      | '+' :: what => some (old ||| clauseBits who what)
      | '-' :: what => some (old &&& (0o7777 ^^^ clauseBits who what))
      | '=' :: what =>
        some ((old &&& (0o7777 ^^^ clauseBits who ['r', 'w', 'x'])) ||| clauseBits who what)
      | _ => none) old

/-- Changes permission bits. -/
def runChmod (t : FileTree) (arguments : List Raw) : Outcome :=
  let arguments := if arguments.head? == some ['-', 'R'] then arguments.drop 1 else arguments
  match arguments with
  | mode :: operands =>
    if (newMode? mode 0).isNone then ⟨t, [], complaint "chmod" "invalid mode: '" mode "'", 1⟩
    else ofProgress <| operands.foldl (fun progress o =>
      attempt progress (quotedComplaint "chmod" "cannot access" o) fun t =>
        match t.find? true (Raw.path o) with
        | .ok (_, .file _ old) => t.setMode (Raw.path o) ((newMode? mode old).getD old)
        | .ok _ => (.ok (), t)
        | .error e => (.error e, t)) (t, [])
  | [] => ⟨t, [], Raw.ofString "chmod: missing operand\n", 1⟩

/-- Makes files that are missing. -/
def runTouch (t : FileTree) (arguments : List Raw) : Outcome :=
  ofProgress <| (options arguments).2.foldl (fun progress o =>
    attempt progress (quotedComplaint "touch" "cannot touch" o) fun t =>
      if t.exists? (Raw.path o) then (.ok (), t) else t.write (Raw.path o) []) (t, [])

/-- Makes links. A link that is not symbolic is a file with the same contents. -/
def runLn (t : FileTree) (arguments : List Raw) : Outcome :=
  let (letters, operands) := options arguments
  match operands with
  | [source, target] =>
    let p := into t target source
    let t := if letters.contains 'f' then (t.unlink p).2 else t
    let subject := Raw.ofString p.text
    ofProgress <| if letters.contains 's' then
      attempt (t, []) (quotedComplaint "ln" "failed to create symbolic link" subject) fun t =>
        t.makeLink p (Raw.text source)
    else
      attempt (t, []) (quotedComplaint "ln" "failed to create hard link" subject) fun t =>
        t.copy (Raw.path source) p
  | _ => ⟨t, [], Raw.ofString "ln: missing file operand\n", 1⟩

/-- The count behind `-n` or `-`, ten without one, and the operands. -/
def countOption : List Raw → Int × List Raw
  | ['-', 'n'] :: n :: rest => ((Raw.int? n).getD 10, rest)
  | ('-' :: 'n' :: n) :: rest => ((Raw.int? n).getD 10, rest)
  | ('-' :: d :: n) :: rest => if d.isDigit then ((Raw.int? (d :: n)).getD 10, rest) else (10, rest)
  | rest => (10, rest)

/-- The first or the last lines of an input. -/
def runEnd (fromEnd : Bool) (t : FileTree) (input : Raw) (arguments : List Raw) : Outcome :=
  let (n, operands) := countOption arguments
  let name := if fromEnd then "tail" else "head"
  let (text, err, status) := contents name t input operands
  let ended := text.getLast? == some '\n' || text.isEmpty
  let ls := lines text
  let count := n.natAbs
  let kept := if fromEnd then ls.drop (ls.length - count) else ls.take count
  let reachesEnd := fromEnd || ls.length ≤ count
  let out := unlines kept
  ⟨t, if reachesEnd && !ended then out.dropLast else out, err, status⟩

/-- Counts lines, words or bytes. -/
def runWc (t : FileTree) (input : Raw) (arguments : List Raw) : Outcome :=
  let (letters, operands) := options arguments
  let (text, err, status) := contents "wc" t input operands
  let words := (text.splitBy fun a b => dividesWords a == dividesWords b).filter fun w =>
    !(w.headD ' ' |> dividesWords)
  let counts := [('l', text.count '\n'), ('w', words.length), ('c', text.length)]
  let wanted := counts.filter fun c => letters.isEmpty || letters.contains c.1
  let numbers := wanted.map fun c => Raw.ofInt c.2
  let names := match operands with
    | [o] => [o]
    | _ => []
  let width := if wanted.length == 1 then 0 else 7
  let padded := numbers.map fun r => List.replicate (width - r.length) ' ' ++ r
  ⟨t, unlines [((padded ++ names).intersperse [' ']).flatten], err, status⟩
where
  /-- Whether a character divides words. -/
  dividesWords (c : Char) : Bool := c == ' ' || c == '\t' || c == '\n' || c == '\r'

/-- Prints words. -/
def runEcho (t : FileTree) (arguments : List Raw) : Outcome :=
  let (newline, words) := match arguments with
    | ['-', 'n'] :: words => (false, words)
    | words => (true, words)
  ⟨t, (words.intersperse [' ']).flatten ++ (if newline then ['\n'] else []), [], 0⟩

/-- Prints a format. -/
def runPrintf (t : FileTree) (arguments : List Raw) : Outcome :=
  match arguments with
  | [] => ⟨t, [], Raw.ofString "printf: missing operand\n", 1⟩
  | pattern :: rest =>
    let (out, faults) := Format.format pattern rest
    let err := faults.flatMap fun f => complaint "printf" "'" f "': expected a numeric value"
    ⟨t, out, err, if faults.isEmpty then 0 else 1⟩

/-- The exit code of a condition. -/
def conditionStatus : Option Bool → Nat
  | some true => 0
  | some false => 1
  | none => 2

/-- What `env` is asked for: the variables to pass on and the command to run with them;
without a command the variables are shown. -/
structure EnvRequest where
  bindings : List (Raw × Raw)
  command : List Raw

/-- Sets a variable, in the place that it has. -/
def setVariable (vs : List (Raw × Raw)) (name value : Raw) : List (Raw × Raw) :=
  if vs.any fun v => v.1 == name then vs.map fun v => if v.1 == name then (name, value) else v
  else vs ++ [(name, value)]

/-- The variables set in front of a command, and the command. -/
def envAssignments (vs : List (Raw × Raw)) : List Raw → EnvRequest
  | [] => ⟨vs, []⟩
  | a :: rest =>
    match a.dropWhile (· != '=') with
    | _ :: value => envAssignments (setVariable vs (a.takeWhile (· != '=')) value) rest
    | [] => ⟨vs, a :: rest⟩

/-- Reads the options of `env`, and then what follows them. -/
def envOptions (vs : List (Raw × Raw)) : List Raw → Except Raw EnvRequest
  | [] => .ok ⟨vs, []⟩
  | ['-'] :: rest => envOptions [] rest
  | ['-', 'i'] :: rest => envOptions [] rest
  | ['-', '-'] :: rest => .ok (envAssignments vs rest)
  | [['-', 'u']] => .error (Raw.ofString "option requires an argument -- 'u'")
  | ['-', 'u'] :: name :: rest => envOptions (vs.filter fun v => v.1 != name) rest
  | ('-' :: 'u' :: name) :: rest => envOptions (vs.filter fun v => v.1 != name) rest
  | ('-' :: c :: _) :: _ => .error (Raw.ofString "invalid option -- '" ++ [c, '\''])
  | rest => .ok (envAssignments vs rest)

/-- What `env` is asked for by its arguments. Words that stand in one argument behind
`-S` count as arguments of their own. -/
def envRequest (vs : List (Raw × Raw)) (arguments : List Raw) : Except Raw EnvRequest :=
  match arguments with
  | ('-' :: 'S' :: text) :: rest =>
    envOptions vs ((Text.fields ' ' text).filter (fun w => !w.isEmpty) ++ rest)
  | arguments => envOptions vs arguments

/-- Shows variables. -/
def shown (bindings : List (Raw × Raw)) : Raw := unlines (bindings.map fun v => v.1 ++ '=' :: v.2)

/-- Runs a tool other than the shell. -/
def run (tool : Tool) (t : FileTree) (environment : List (Raw × Raw)) (input : Raw)
    (arguments : List Raw) : Outcome :=
  match tool with
  | .sh => ⟨t, [], [], 127⟩
  | .cat =>
    let (out, err, status) := contents "cat" t input (options arguments).2
    ⟨t, out, err, status⟩
  | .listFiles => runLs t arguments
  | .sort => runSort t input arguments
  | .cp => runCp t arguments
  | .mv => runMv t arguments
  | .rm => runRm t arguments
  | .mkdir => runMkdir t arguments
  | .rmdir => runRmdir t arguments
  | .chmod => runChmod t arguments
  | .touch => runTouch t arguments
  | .ln => runLn t arguments
  | .succeed => ⟨t, [], [], 0⟩
  | .fail => ⟨t, [], [], 1⟩
  | .pwd => ⟨t, Raw.ofString ("/" ++ "/".intercalate t.here ++ "\n"), [], 0⟩
  | .echo => runEcho t arguments
  | .printf => runPrintf t arguments
  | .head => runEnd false t input arguments
  | .tail => runEnd true t input arguments
  | .wc => runWc t input arguments
  | .env => ⟨t, shown environment, [], 0⟩
  | .sleep => ⟨t, [], [], 0⟩
  | .test => ⟨t, [], [], conditionStatus (Condition.holds? t arguments)⟩
  | .bracket => ⟨t, [], [], conditionStatus (Condition.holds? t arguments.dropLast)⟩
  | .basename =>
    let name := (Raw.path (arguments.headD [])).fileName?.getD "/"
    let name := Raw.ofString name
    let ending := arguments.getD 1 []
    let name := if ending != [] && ending != name && ending.isSuffixOf name then
      name.take (name.length - ending.length) else name
    ⟨t, name ++ ['\n'], [], 0⟩
  | .dirname =>
    let dir := ((Raw.path (arguments.headD [])).parent?.map (·.text)).getD "/"
    ⟨t, Raw.ofString ((if dir.isEmpty then "." else dir) ++ "\n"), [], 0⟩
  | .tee =>
    let (letters, operands) := options arguments
    let (t, err) := operands.foldl (fun progress o =>
      attempt progress (fun e => complaint "tee" "" o (": " ++ e.reason)) fun t =>
        let old := if letters.contains 'a' then (t.readBytes (Raw.path o)).toOption.getD [] else []
        t.write (Raw.path o) (old ++ Raw.toBytes input)) (t, [])
    ⟨t, input, err, if err.isEmpty then 0 else 1⟩
  | .seq =>
    let numbers := arguments.map fun a => (Raw.int? a).getD 1
    let (low, step, high) : Int × Int × Int := match numbers with
      | [h] => (1, 1, h)
      | [l, h] => (l, 1, h)
      | [l, s, h] => (l, s, h)
      | _ => (1, 1, 0)
    let count := if step = 0 then 0 else ((high - low) / step + 1).toNat
    ⟨t, unlines ((List.range count).map fun (i : Nat) => Raw.ofInt (low + step * i)), [], 0⟩
  | .uniq =>
    let (text, err, status) := contents "uniq" t input (options arguments).2
    ⟨t, unlines (withoutRepeats (lines text)), err, status⟩

end Tool
end LintHub.Shell
