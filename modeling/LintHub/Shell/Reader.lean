import LintHub.Shell.Script

/-!
# Reading shell scripts

A reader by recursive descent over the text of a script. Each function returns what it
read and the rest of the text, or what is wrong with the text; the first number bounds
the depth of recursion, and the second is the number of lines of the script, by which the
rest of the text tells the line it begins on.
-/

namespace LintHub.Shell.Reader

/-- Whether a character is a blank inside a line. -/
def isBlank (c : Char) : Bool := c == ' ' || c == '\t'

/-- Whether a character ends a word unless it is quoted. -/
def isMark (c : Char) : Bool :=
  isBlank c || c == '\n' || c == ';' || c == '&' || c == '|' || c == '<' || c == '>' || c == '(' ||
    c == ')'

/-- Whether a character may stand in a name. -/
def isNameChar (c : Char) : Bool := c.isAlphanum || c == '_'

/-- Whether a text is a name. -/
def isName (r : Raw) : Bool :=
  match r with
  | c :: cs => (c.isAlpha || c == '_') && cs.all isNameChar
  | [] => false

/-- Drops blanks, continued lines and a comment. -/
def skipBlanks : List Char → List Char
  | ' ' :: cs => skipBlanks cs
  | '\t' :: cs => skipBlanks cs
  | '\\' :: '\n' :: cs => skipBlanks cs
  | '#' :: cs => cs.dropWhile (· != '\n')
  | cs => cs

/-- Drops blank lines and comments; the number bounds the lines. -/
def skipLinesWithin : Nat → List Char → List Char
  | 0, cs => cs
  | n + 1, cs =>
    match skipBlanks cs with
    | '\n' :: cs => skipLinesWithin n cs
    | cs => cs

/-- Drops blank lines and comments. -/
def skipLines (cs : List Char) : List Char := skipLinesWithin (cs.length + 1) cs

/-- What stands before the next single quote, and what follows it. -/
def untilQuote? : List Char → Option (Raw × List Char)
  | [] => none
  | '\'' :: cs => some ([], cs)
  | c :: cs => (untilQuote? cs).map fun r => (c :: r.1, r.2)

/-- What stands before the next backquote, escapes resolved, and what follows it. -/
def untilBackquote? : List Char → Option (Raw × List Char)
  | [] => none
  | '`' :: cs => some ([], cs)
  | '\\' :: c :: cs =>
    (untilBackquote? cs).map fun r =>
      (if c == '`' || c == '\\' || c == '$' then c :: r.1 else '\\' :: c :: r.1, r.2)
  | c :: cs => (untilBackquote? cs).map fun r => (c :: r.1, r.2)

/-- The text of an arithmetic expression up to its closing parentheses; the number
counts the parentheses that are open inside. -/
def untilParens? : Nat → List Char → Option (Raw × List Char)
  | _, [] => none
  | 0, ')' :: ')' :: cs => some ([], cs)
  | 0, ')' :: _ => none
  | n + 1, ')' :: cs => (untilParens? n cs).map fun r => (')' :: r.1, r.2)
  | n, '(' :: cs => (untilParens? (n + 1) cs).map fun r => ('(' :: r.1, r.2)
  | n, c :: cs => (untilParens? n cs).map fun r => (c :: r.1, r.2)

/-- The word at the front if it is a plain one, and what follows it. -/
def plainWord? (cs : List Char) : Option (Raw × List Char) :=
  let w := cs.takeWhile fun c => !isMark c
  if w.isEmpty || !w.all (fun c => c.isAlpha || c == '{' || c == '}' || c == '!') then none
  else some (w, cs.dropWhile fun c => !isMark c)

/-- The words that end or divide a compound command. -/
def closingWords : List String := ["then", "else", "elif", "fi", "do", "done", "esac", "\x7d"]

/-- The words that begin a compound command or stand inside one. -/
def openingWords : List String := ["!", "case", "for", "if", "in", "until", "while", "\x7b"]

/-- Whether a list of commands ends here. -/
def endsList (cs : List Char) : Bool :=
  match cs with
  | [] => true
  | ')' :: _ => true
  | ';' :: ';' :: _ => true
  | cs =>
    match plainWord? cs with
    | some (w, _) => closingWords.any fun k => k.toList == w
    | none => false

/-- What is wrong with a text, and the line on which that shows. -/
structure Fault where
  line : Nat
  text : String
  deriving DecidableEq, Repr

/-- What was read from the front of a text, and the rest of it. -/
abbrev Front (α : Type) := α × List Char

/-- The line on which a text ends, in a script of this many lines. -/
def lineOf (lines : Nat) (cs : List Char) : Nat := lines - cs.count '\n'

/-- A complaint at the front of a text. -/
def fault (lines : Nat) (rest : List Char) (text : String) : Except Fault α :=
  .error ⟨lineOf lines rest, text⟩

/-- The complaint about a text that nests too deep to be read. -/
def tooDeep : Except Fault α := .error ⟨0, "nesting too deep"⟩

/-- A word between the marks that stand around it in complaints. -/
def shown (word : String) : String := "\"" ++ word ++ "\""

/-- The next token, as it is called in complaints, and what follows it. Words with a meaning
of their own are told from others only where they have it. -/
def token (reserved : Bool) (cs : List Char) : String × List Char :=
  match cs with
  | [] => ("end of file", [])
  | '\n' :: r => ("newline", r)
  | ';' :: ';' :: r => (shown ";;", r)
  | ';' :: r => (shown ";", r)
  | '&' :: '&' :: r => (shown "&&", r)
  | '&' :: r => (shown "&", r)
  | '|' :: '|' :: r => (shown "||", r)
  | '|' :: r => (shown "|", r)
  | '(' :: r => (shown "(", r)
  | ')' :: r => (shown ")", r)
  | '<' :: r => ("redirection", r)
  | '>' :: r => ("redirection", r)
  | cs =>
    let w := cs.takeWhile fun c => !isMark c
    let rest := cs.dropWhile fun c => !isMark c
    match w.all Char.isDigit, rest with
    | true, '<' :: r => ("redirection", r)
    | true, '>' :: r => ("redirection", r)
    | _, rest =>
      let word := String.ofList w
      (if reserved && (closingWords ++ openingWords).contains word then shown word else "word", rest)

/-- The complaint about the next token, with what should stand in its place. -/
def unexpected (lines : Nat) (cs : List Char) (wanted : Option String) : Except Fault α :=
  let (name, rest) := token true (skipBlanks cs)
  let wish := match wanted with
    | some w => " (expecting " ++ w ++ ")"
    | none => ""
  fault lines rest (name ++ " unexpected" ++ wish)

/-- The complaint about the next token where a parenthesis should close. -/
def unclosed (lines : Nat) (cs : List Char) : Except Fault α :=
  let (name, rest) := token false (skipBlanks cs)
  fault lines rest (name ++ " unexpected (expecting " ++ shown ")" ++ ")")

/-- Drops a reserved word. -/
def expectWord (lines : Nat) (word : String) (cs : List Char) : Except Fault (List Char) :=
  let cs := skipLines cs
  match plainWord? cs with
  | some (w, rest) =>
    if w == word.toList then .ok rest else unexpected lines cs (some (shown word))
  | none => unexpected lines cs (some (shown word))

/-- Drops a closing parenthesis. -/
def expectClosing (lines : Nat) (cs : List Char) : Except Fault (List Char) :=
  match skipLines cs with
  | ')' :: rest => .ok rest
  | cs => unexpected lines cs (some (shown ")"))

/-- The lines of a text given in a script, up to the line that ends it, and what
follows that line. -/
def hereLines : Nat → Bool → Raw → List Char → Raw × List Char
  | 0, _, _, cs => ([], cs)
  | n + 1, stripTabs, word, cs =>
    let line := cs.takeWhile (· != '\n')
    let ended := cs.contains '\n'
    let rest := (cs.dropWhile (· != '\n')).drop 1
    let line := if stripTabs then line.dropWhile (· == '\t') else line
    if line == word || cs.isEmpty then ([], rest)
    else
      let (body, rest) := hereLines n stripTabs word rest
      (line ++ (if ended then ['\n'] else []) ++ body, rest)

/-- Joins literal parts of the same kind. -/
def consLiteral (c : Char) (quoted : Bool) : List Part → List Part
  | .literal text q :: ps =>
    if q == quoted then .literal (c :: text) q :: ps
    else .literal [c] quoted :: .literal text q :: ps
  | ps => .literal [c] quoted :: ps

/-- A part in front of what was read. -/
def consPart (part : Part) (r : List Part × List Char) : List Part × List Char := (part :: r.1, r.2)

/-- A character in front of what was read. -/
def consChar (c : Char) (quoted : Bool) (r : List Part × List Char) : List Part × List Char :=
  (consLiteral c quoted r.1, r.2)

/-- What is wrong with a text that ends inside quotes. -/
def unterminated : String := "Unterminated quoted string"

/-- What is wrong with a text that ends inside the braces of a parameter. -/
def missingBrace : String := "Missing '\x7d'"

/-- What stands before the next single quote, and what follows it. -/
def singleQuoted (lines : Nat) (cs : List Char) : Except Fault (Front Raw) :=
  match untilQuote? cs with
  | some r => .ok r
  | none => fault lines [] unterminated

/-- The text of a command between backquotes, and what follows them. -/
def backquoted (lines : Nat) (cs : List Char) : Except Fault (Front Raw) :=
  match untilBackquote? cs with
  | some r => .ok r
  | none => fault lines [] "EOF in backquote substitution"

/-- The number in front of a redirection, if one stands there. -/
def descriptor (digits : Raw) (otherwise : Nat) : Nat :=
  if digits.isEmpty then otherwise else digits.foldl (fun n c => 10 * n + (c.toNat - 48)) 0

mutual

/-- What follows a dollar sign. A dollar sign that begins nothing stands for itself. -/
def dollar : Nat → Nat → Bool → List Char → Except Fault (Front Part)
  | 0, _, _, _ => tooDeep
  | n + 1, lines, quoted, cs =>
    match cs with
    | '(' :: '(' :: r =>
      match untilParens? 0 r with
      | some (text, rest) => do
        let (parts, _) ← quotedParts n lines none text
        return (.arithmetic parts quoted, rest)
      | none => fault lines [] "Missing '))'"
    | '(' :: r => do
      let (body, rest) ← list n lines true r
      let rest ← expectClosing lines rest
      return (.output (.sequence body) quoted, rest)
    | '{' :: '#' :: r =>
      let name := r.takeWhile isNameChar
      match r.dropWhile isNameChar with
      | '}' :: rest =>
        if name.isEmpty then .ok (.parameter ['#'] .value quoted, rest)
        else .ok (.parameter name .length quoted, rest)
      | _ => braced n lines quoted ('#' :: r)
    | '{' :: r => braced n lines quoted r
    | c :: r =>
      if c.isAlpha || c == '_' then
        .ok (.parameter (cs.takeWhile isNameChar) .value quoted, cs.dropWhile isNameChar)
      else if c.isDigit || c == '@' || c == '*' || c == '#' || c == '?' || c == '$' || c == '!' ||
          c == '-' then
        .ok (.parameter [c] .value quoted, r)
      else .ok (.literal ['$'] quoted, cs)
    | [] => .ok (.literal ['$'] quoted, [])

/-- A parameter in braces, behind the opening one. -/
def braced : Nat → Nat → Bool → List Char → Except Fault (Front Part)
  | 0, _, _, _ => tooDeep
  | n + 1, lines, quoted, cs =>
    let (name, rest) := match cs.takeWhile isNameChar with
      | [] => if cs.head? == some '}' then ([], cs) else (cs.take 1, cs.drop 1)
      | name => (name, cs.dropWhile isNameChar)
    let ending (use : List Part → Use) (r : List Char) : Except Fault (Front Part) :=
      match quotedParts n lines (some '}') r with
      | .ok (parts, rest) =>
        .ok (.parameter name (use (if quoted then parts else parts.map unquote)) quoted, rest)
      | .error f =>
        let insideQuotes := quoted && f.text == missingBrace
        .error (if insideQuotes then { f with text := unterminated } else f)
    match rest with
    | '}' :: r => .ok (.parameter name (if name.isEmpty then .malformed else .value) quoted, r)
    | ':' :: '-' :: r => ending (.fallback true) r
    | ':' :: '=' :: r => ending (.assign true) r
    | ':' :: '?' :: r => ending (.require true) r
    | ':' :: '+' :: r => ending (.alternative true) r
    | '-' :: r => ending (.fallback false) r
    | '=' :: r => ending (.assign false) r
    | '?' :: r => ending (.require false) r
    | '+' :: r => ending (.alternative false) r
    | '%' :: '%' :: r => ending (.strip true true) r
    | '%' :: r => ending (.strip true false) r
    | '#' :: '#' :: r => ending (.strip false true) r
    | '#' :: r => ending (.strip false false) r
    | r => ending (fun _ => .malformed) r
where
  /-- A literal part as it counts outside quotes. -/
  unquote : Part → Part
    | .literal text _ => .literal text false
    | p => p

/-- The parts up to a closing mark, or up to the end without one; everything counts as
quoted, as between double quotes. -/
def quotedParts : Nat → Nat → Option Char → List Char → Except Fault (Front (List Part))
  | 0, _, _, _ => tooDeep
  | n + 1, lines, stop, cs =>
    match cs with
    | [] =>
      match stop with
      | none => .ok ([], [])
      | some c => fault lines [] (if c == '}' then missingBrace else unterminated)
    | c :: r =>
      if some c == stop then .ok ([], r)
      else if c == '$' then do
        let (part, rest) ← dollar n lines true r
        return consPart part (← quotedParts n lines stop rest)
      else if c == '`' then do
        let (text, rest) ← backquoted lines r
        let (body, _) ← list n (text.count '\n' + 1) true text
        return consPart (.output (.sequence body) true) (← quotedParts n lines stop rest)
      else if c == '\\' then
        match r with
        | '\n' :: r => quotedParts n lines stop r
        | e :: r => do
          let inner ← quotedParts n lines stop r
          if e == '$' || e == '`' || e == '"' || e == '\\' || some e == stop then
            return consChar e true inner
          else return consChar '\\' true (consChar e true inner)
        | [] => return consChar '\\' true (← quotedParts n lines stop r)
      else if c == '"' && stop == some '}' then do
        let (inner, rest) ← quotedParts n lines (some '"') r
        let (outer, rest) ← quotedParts n lines stop rest
        return (inner ++ outer, rest)
      else if c == '\'' && stop == some '}' then do
        let (text, rest) ← singleQuoted lines r
        return consPart (.literal text true) (← quotedParts n lines stop rest)
      else return consChar c true (← quotedParts n lines stop r)

/-- A word up to the next mark. -/
def word : Nat → Nat → List Char → Except Fault (Front (List Part))
  | 0, _, _ => tooDeep
  | n + 1, lines, cs =>
    match cs with
    | [] => .ok ([], [])
    | '\\' :: '\n' :: r => word n lines r
    | '\\' :: e :: r => return consChar e true (← word n lines r)
    | '\'' :: r => do
      let (text, rest) ← singleQuoted lines r
      return consPart (.literal text true) (← word n lines rest)
    | '"' :: r => do
      let (inner, rest) ← quotedParts n lines (some '"') r
      let (outer, rest) ← word n lines rest
      return (.literal [] true :: inner ++ outer, rest)
    | '$' :: r => do
      let (part, rest) ← dollar n lines false r
      return consPart part (← word n lines rest)
    | '`' :: r => do
      let (text, rest) ← backquoted lines r
      let (body, _) ← list n (text.count '\n' + 1) true text
      return consPart (.output (.sequence body) false) (← word n lines rest)
    | c :: r =>
      if isMark c then .ok ([], cs)
      else return consChar c false (← word n lines r)

/-- A redirection, if one stands here. -/
def redirection : Nat → Nat → List Char → Except Fault (Front (Option Redirection))
  | 0, _, _ => tooDeep
  | n + 1, lines, cs =>
    let digits := cs.takeWhile Char.isDigit
    let target (otherwise : Nat) (flow : Flow) (r : List Char) :
        Except Fault (Front (Option Redirection)) := do
      match ← word n lines (skipBlanks r) with
      | ([], _) => unexpected lines r none
      | (parts, rest) => return (some (.mk (descriptor digits otherwise) flow parts), rest)
    match cs.dropWhile Char.isDigit with
    | '<' :: '<' :: r => do
      let (stripTabs, r) := match r with
        | '-' :: r => (true, r)
        | r => (false, r)
      let r := skipBlanks r
      let plain := r.takeWhile fun c => !isMark c
      let quotedWord := plain.any fun c => c == '\'' || c == '"' || c == '\\'
      let mark := plain.filter fun c => c != '\'' && c != '"' && c != '\\'
      let rest := r.dropWhile fun c => !isMark c
      let line := rest.takeWhile (· != '\n')
      let (body, after) :=
        hereLines (rest.length + 1) stripTabs mark ((rest.dropWhile (· != '\n')).drop 1)
      if plain.isEmpty then unexpected lines r none
      else
        let (parts, _) ← if quotedWord then pure ([.literal body true], [])
          else quotedParts n lines none body
        return (some (.mk (descriptor digits 0) .here parts),
          line ++ (if rest.contains '\n' then '\n' :: after else after))
    | '<' :: '&' :: r => target 0 .duplicate r
    | '<' :: r => target 0 .read r
    | '>' :: '>' :: r => target 1 .append r
    | '>' :: '&' :: r => target 1 .duplicate r
    | '>' :: '|' :: r => target 1 .write r
    | '>' :: r => target 1 .write r
    | _ => .ok (none, cs)

/-- The redirections behind a compound command. -/
def redirections : Nat → Nat → List Char → Except Fault (Front (List Redirection))
  | 0, _, _ => tooDeep
  | n + 1, lines, cs => do
    match ← redirection n lines (skipBlanks cs) with
    | (none, rest) => return ([], rest)
    | (some r, rest) =>
      let (rs, rest) ← redirections n lines rest
      return (r :: rs, rest)

/-- A simple command, behind the parts of it that were read already: its assignments,
words and redirections. It counts as standing on the line where the first part of it ends.
A name in front of parentheses defines a function. -/
def simple : Nat → Nat → Option Nat → List (Raw × List Part) → List (List Part) →
    List Redirection → List Char → Except Fault (Front Command)
  | 0, _, _, _, _, _, _ => tooDeep
  | n + 1, lines, start, assignments, words, rs, cs => do
    let cs := skipBlanks cs
    let place (rest : List Char) : Option Nat := some (start.getD (lineOf lines rest))
    match ← redirection n lines cs with
    | (some r, rest) =>
      simple n lines (some (start.getD (lineOf lines cs))) assignments words (rs ++ [r]) rest
    | (none, _) =>
      let name := cs.takeWhile isNameChar
      match words.isEmpty && isName name, cs.dropWhile isNameChar with
      | true, '=' :: r =>
        let (value, rest) ← word n lines r
        simple n lines (place rest) (assignments ++ [(name, value)]) words rs rest
      | _, _ =>
        match ← word n lines cs with
        | ([], rest) =>
          let isBare := assignments.isEmpty && rs.isEmpty
          let finished := (Command.simple (start.getD 0) assignments words rs, rest)
          match words, rest with
          | [], _ => if isBare then unexpected lines cs none else return finished
          | [first], '(' :: r => if isBare then function n lines first r else return finished
          | _, _ => return finished
        | (parts, rest) => simple n lines (place rest) assignments (words ++ [parts]) rs rest

/-- A function, behind its name and the opening parenthesis. -/
def function : Nat → Nat → List Part → List Char → Except Fault (Front Command)
  | 0, _, _, _ => tooDeep
  | n + 1, lines, first, cs =>
    match skipBlanks cs with
    | ')' :: r =>
      match first with
      | [.literal name false] =>
        if isName name && !isSpecial (String.ofList name) then do
          let (body, rest) ← command n lines (skipLines r)
          return (.define name body, rest)
        else fault lines r "Bad function name"
      | _ => fault lines r "Bad function name"
    | r => unclosed lines r

/-- The words of a loop, up to the end of their line. -/
def loopWords : Nat → Nat → List Char → Except Fault (Front (List (List Part)))
  | 0, _, _ => tooDeep
  | n + 1, lines, cs => do
    match ← word n lines (skipBlanks cs) with
    | ([], rest) => return ([], rest)
    | (parts, rest) =>
      let (more, rest) ← loopWords n lines rest
      return (parts :: more, rest)

/-- The patterns of an arm, divided by bars and closed by a parenthesis. -/
def patterns : Nat → Nat → List Char → Except Fault (Front (List (List Part)))
  | 0, _, _ => tooDeep
  | n + 1, lines, cs => do
    let (pattern, rest) ← word n lines (skipBlanks cs)
    match skipBlanks rest with
    | ')' :: rest => return ([pattern], rest)
    | '|' :: rest =>
      let (more, rest) ← patterns n lines rest
      return (pattern :: more, rest)
    | rest => unclosed lines rest

/-- The arms of a choice. -/
def arms : Nat → Nat → List Char → Except Fault (Front (List (List (List Part) × Command)))
  | 0, _, _ => tooDeep
  | n + 1, lines, cs =>
    match expectWord lines "esac" cs with
    | .ok rest => .ok ([], rest)
    | .error _ => do
      let cs := match skipLines cs with
        | '(' :: cs => cs
        | cs => cs
      let (alternatives, rest) ← patterns n lines cs
      let (body, rest) ← list n lines true rest
      match skipLines rest, expectWord lines "esac" rest with
      | ';' :: ';' :: rest, _ =>
        let (more, rest) ← arms n lines rest
        return ((alternatives, .sequence body) :: more, rest)
      | _, .ok rest => return ([(alternatives, .sequence body)], rest)
      | rest, _ => unexpected lines rest (some (shown ";;"))

/-- What follows the first word of a branch. -/
def branch : Nat → Nat → List Char → Except Fault (Front Command)
  | 0, _, _ => tooDeep
  | n + 1, lines, cs => do
    let (test, rest) ← list n lines false cs
    let rest ← expectWord lines "then" rest
    let (yes, rest) ← list n lines false rest
    match expectWord lines "else" rest, expectWord lines "elif" rest with
    | .ok rest, _ =>
      let (no, rest) ← list n lines false rest
      let rest ← expectWord lines "fi" rest
      return (.branch (.sequence test) (.sequence yes) (.sequence no), rest)
    | _, .ok rest =>
      let (no, rest) ← branch n lines rest
      return (.branch (.sequence test) (.sequence yes) no, rest)
    | _, _ =>
      let rest ← expectWord lines "fi" rest
      return (.branch (.sequence test) (.sequence yes) (.sequence []), rest)

/-- The body of a loop. -/
def body : Nat → Nat → List Char → Except Fault (Front Command)
  | 0, _, _ => tooDeep
  | n + 1, lines, cs => do
    let rest ← expectWord lines "do" cs
    let (commands, rest) ← list n lines false rest
    let rest ← expectWord lines "done" rest
    return (.sequence commands, rest)

/-- What follows the first word of a loop over words. -/
def each : Nat → Nat → List Char → Except Fault (Front Command)
  | 0, _, _ => tooDeep
  | n + 1, lines, cs =>
    let cs := skipBlanks cs
    let name := cs.takeWhile isNameChar
    let rest := cs.dropWhile isNameChar
    if !(isName name && (rest.head?.all isMark)) then fault lines cs "Bad for loop variable"
    else
      match expectWord lines "in" rest with
      | .ok rest => do
        let (words, rest) ← loopWords n lines rest
        match rest with
        | ';' :: ';' :: _ => unexpected lines rest none
        | ';' :: r =>
          let (commands, rest) ← body n lines r
          return (.each name (some words) commands, rest)
        | '\n' :: r =>
          let (commands, rest) ← body n lines r
          return (.each name (some words) commands, rest)
        | _ => unexpected lines rest none
      | .error _ => do
        let rest := match skipBlanks rest with
          | ';' :: rest => rest
          | rest => rest
        let (commands, rest) ← body n lines rest
        return (.each name none commands, rest)

/-- What follows the first word of a choice. -/
def choice : Nat → Nat → List Char → Except Fault (Front Command)
  | 0, _, _ => tooDeep
  | n + 1, lines, cs => do
    match ← word n lines (skipBlanks cs) with
    | ([], _) => unexpected lines cs (some "word")
    | (subject, rest) =>
      let rest ← expectWord lines "in" rest
      let (found, rest) ← arms n lines rest
      return (.choose subject found, rest)

/-- A compound command, if one stands here. -/
def compound? : Nat → Nat → List Char → Option (Except Fault (Front Command))
  | 0, _, _ => some tooDeep
  | n + 1, lines, cs =>
    match cs with
    | '(' :: r => some do
      let (commands, rest) ← list n lines false r
      let rest ← expectClosing lines rest
      return (.separate (.sequence commands), rest)
    | _ =>
      match plainWord? cs with
      | none => none
      | some (w, rest) =>
        match String.ofList w with
        | "\x7b" => some do
          let (commands, rest) ← list n lines false rest
          let rest ← expectWord lines "\x7d" rest
          return (.sequence commands, rest)
        | "if" => some (branch n lines rest)
        | "while" => some do
          let (test, rest) ← list n lines false rest
          let (commands, rest) ← body n lines rest
          return (.loop false (.sequence test) commands, rest)
        | "until" => some do
          let (test, rest) ← list n lines false rest
          let (commands, rest) ← body n lines rest
          return (.loop true (.sequence test) commands, rest)
        | "for" => some (each n lines rest)
        | "case" => some (choice n lines rest)
        | reserved =>
          if (closingWords ++ openingWords).contains reserved then some (unexpected lines cs none)
          else none

/-- A command with its redirections. -/
def command : Nat → Nat → List Char → Except Fault (Front Command)
  | 0, _, _ => tooDeep
  | n + 1, lines, cs =>
    let cs := skipBlanks cs
    match compound? n lines cs with
    | none => simple n lines none [] [] [] cs
    | some reading => do
      let (c, rest) ← reading
      match ← redirections n lines rest with
      | ([], rest) => return (c, rest)
      | (rs, rest) => return (.redirected c rs, rest)

/-- Commands joined by bars. -/
def pipe : Nat → Nat → List Char → Except Fault (Front (List Command))
  | 0, _, _ => tooDeep
  | n + 1, lines, cs => do
    let (c, rest) ← command n lines cs
    match skipBlanks rest with
    | '|' :: '|' :: r => return ([c], '|' :: '|' :: r)
    | '|' :: r =>
      let (more, rest) ← pipe n lines (skipLines r)
      return (c :: more, rest)
    | rest => return ([c], rest)

/-- A pipe, perhaps negated. -/
def pipeline : Nat → Nat → List Char → Except Fault (Front Command)
  | 0, _, _ => tooDeep
  | n + 1, lines, cs => do
    let cs := skipBlanks cs
    let (negated, cs) := match plainWord? cs with
      | some (['!'], rest) => (true, rest)
      | _ => (false, cs)
    match ← pipe n lines cs with
    | ([c], rest) => return (if negated then .pipe true [c] else c, rest)
    | (parts, rest) => return (.pipe negated parts, rest)

/-- Pipes joined by `&&` and `||`, behind a first one. -/
def joined : Nat → Nat → Command → List Char → Except Fault (Front Command)
  | 0, _, _, _ => tooDeep
  | n + 1, lines, first, cs =>
    match skipBlanks cs with
    | '&' :: '&' :: r => do
      let (second, rest) ← pipeline n lines (skipLines r)
      joined n lines (.both first second) rest
    | '|' :: '|' :: r => do
      let (second, rest) ← pipeline n lines (skipLines r)
      joined n lines (.either first second) rest
    | rest => .ok (first, rest)

/-- Commands one after the other, up to where a list ends. A list may not be empty, unless
that is said, but the text may end in front of one. -/
def list : Nat → Nat → Bool → List Char → Except Fault (Front (List Command))
  | 0, _, _, _ => tooDeep
  | n + 1, lines, mayEnd, cs =>
    let cs := skipLines cs
    if cs.isEmpty || (mayEnd && endsList cs) then .ok ([], cs)
    else do
      let (first, rest) ← pipeline n lines cs
      let (c, rest) ← joined n lines first rest
      let following (r : List Char) : Except Fault (Front (List Command)) := do
        let (more, rest) ← list n lines true r
        return (c :: more, rest)
      match skipBlanks rest with
      | ';' :: ';' :: r => return ([c], ';' :: ';' :: r)
      | ';' :: r => following r
      | '&' :: r => following r
      | '\n' :: r => following r
      | rest => return ([c], rest)

end

/-- The commands up to the end of a line, which are read before any of them runs. -/
def line : Nat → Nat → List Char → Except Fault (Front (List Command))
  | 0, _, _ => tooDeep
  | n + 1, lines, cs =>
    match skipBlanks cs with
    | [] => .ok ([], [])
    | '\n' :: r => .ok ([], r)
    | cs => do
      let (first, rest) ← pipeline n lines cs
      let (c, rest) ← joined n lines first rest
      let following (r : List Char) : Except Fault (Front (List Command)) := do
        let (more, rest) ← line n lines r
        return (c :: more, rest)
      match skipBlanks rest with
      | [] => return ([c], [])
      | '\n' :: r => return ([c], r)
      | ';' :: ';' :: r => unexpected lines (';' :: ';' :: r) none
      | ';' :: r => following r
      | '&' :: r => following r
      | rest => unexpected lines rest none

/-- A script: the commands in front of the first line that breaks the grammar, and what
is wrong with that line. -/
structure Script where
  commands : List Command
  fault : Option Fault

/-- Reads lines of commands; the last number bounds them. -/
def linesWithin (depth lines : Nat) : Nat → List Char → Script
  | 0, _ => ⟨[], none⟩
  | n + 1, cs =>
    if cs.isEmpty then ⟨[], none⟩
    else match line depth lines cs with
      | .error f => ⟨[], some f⟩
      | .ok (commands, rest) =>
        let script := linesWithin depth lines n rest
        { script with commands := commands ++ script.commands }

/-- Reads a whole script. -/
def script (text : Raw) : Script :=
  linesWithin (16 * text.length + 64) (text.count '\n' + 1) (text.length + 1) text

end LintHub.Shell.Reader
