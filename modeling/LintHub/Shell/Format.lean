import LintHub.Shell.Raw

/-!
# Printing in the shell

`escapes` resolves the backslash escapes that `echo` and `printf` know, and `format`
fills a format with arguments, as often as there are arguments left.
-/

namespace LintHub.Shell.Format

/-- Whether a character is an octal digit. -/
def isOctal (c : Char) : Bool := '0' ≤ c && c ≤ '7'

/-- The byte that octal digits write. -/
def octal (ds : Raw) : Char :=
  Char.ofNat ((ds.foldl (fun n c => 8 * n + (c.toNat - 48)) 0) % 256)

/-- At most three octal digits, and what follows them. -/
def octalDigits (cs : Raw) : Raw × Raw :=
  let ds := (cs.take 3).takeWhile isOctal
  (ds, cs.drop ds.length)

/-- The character of a one-letter escape. -/
def letter? : Char → Option Char
  | '\\' => some '\\'
  | 'a' => some (Char.ofNat 7)
  | 'b' => some (Char.ofNat 8)
  | 'f' => some (Char.ofNat 12)
  | 'n' => some '\n'
  | 'r' => some '\r'
  | 't' => some '\t'
  | 'v' => some (Char.ofNat 11)
  | _ => none

/-- A text with its escapes resolved, and whether `\c` ended it early; the number
bounds the steps. -/
def escapesWithin : Nat → Raw → Raw × Bool
  | 0, _ => ([], false)
  | _ + 1, [] => ([], false)
  | n + 1, '\\' :: c :: cs =>
    let put (c : Char) (rest : Raw) : Raw × Bool :=
      let (r, ended) := escapesWithin n rest
      (c :: r, ended)
    if c == 'c' then ([], true)
    else
      match letter? c with
      | some l => put l cs
      | none =>
        let ds := if c == '0' && (cs.head?.map isOctal).getD false then cs else c :: cs
        match octalDigits ds with
        | ([], _) => put '\\' (c :: cs)
        | (digits, rest) => put (octal digits) rest
  | n + 1, c :: cs =>
    let (r, ended) := escapesWithin n cs
    (c :: r, ended)

/-- A text with its escapes resolved, and whether `\c` ended it early. -/
def escapes (r : Raw) : Raw × Bool := escapesWithin (r.length + 1) r

/-- What `echo` prints. -/
def echo (arguments : List Raw) : Raw :=
  let (newline, words) := match arguments with
    | ['-', 'n'] :: words => (false, words)
    | words => (true, words)
  let (r, ended) := escapes (words.intersperse [' ']).flatten
  if newline && !ended then r ++ ['\n'] else r

/-- A directive of a format. -/
structure Directive where
  flags : Raw
  width : Nat
  precision : Option Nat
  conversion : Char

/-- Pads a text to a width. -/
def pad (d : Directive) (r : Raw) : Raw :=
  let fill := List.replicate (d.width - r.length) ' '
  if d.flags.contains '-' then r ++ fill else fill ++ r

/-- Digits in a base. -/
def digits (base n : Nat) : Raw := Nat.toDigits base n

/-- A number with sign, precision and zero padding. -/
def numeral (d : Directive) (sign : Raw) (ds : Raw) : Raw :=
  let ds := match d.precision with
    | some p => List.replicate (p - ds.length) '0' ++ ds
    | none =>
      if d.flags.contains '0' && !d.flags.contains '-' then
        List.replicate (d.width - sign.length - ds.length) '0' ++ ds
      else ds
  pad d (sign ++ ds)

/-- The number that an argument writes; zero, and a complaint, if it writes none. -/
def numberArgument (r : Raw) : Int × Bool :=
  match r with
  | [] => (0, true)
  | '"' :: c :: _ => (c.toNat, true)
  | '\'' :: c :: _ => (c.toNat, true)
  | r =>
    match Raw.int? r with
    | some n => (n, true)
    | none => (0, false)

/-- The result of filling a format. -/
structure Filled where
  text : Raw
  /-- The arguments that are left. -/
  rest : List Raw
  /-- Whether the format took an argument. -/
  took : Bool
  /-- Whether printing ends here for good. -/
  ended : Bool
  /-- The arguments that are no numbers where numbers are wanted. -/
  faults : List Raw

/-- The text of one directive. -/
def directive (d : Directive) (argument : Raw) : Raw × Bool × List Raw :=
  let (n, good) := numberArgument argument
  let faults := if good then [] else [argument]
  let sign : Raw :=
    if n < 0 then ['-'] else if d.flags.contains '+' then ['+']
    else if d.flags.contains ' ' then [' '] else []
  let word := if n < 0 then (18446744073709551616 + n).toNat else n.toNat
  let cut (r : Raw) : Raw := match d.precision with
    | some p => r.take p
    | none => r
  match d.conversion with
  | 's' => (pad d (cut argument), false, [])
  | 'b' =>
    let (r, ended) := escapes argument
    (pad d (cut r), ended, [])
  | 'c' => (pad d (argument.take 1), false, [])
  | 'u' => (numeral d [] (digits 10 word), false, faults)
  | 'o' => (numeral d (if d.flags.contains '#' then ['0'] else []) (digits 8 word), false, faults)
  | 'x' =>
    let mark := if d.flags.contains '#' && n != 0 then ['0', 'x'] else []
    (numeral d mark (digits 16 word), false, faults)
  | 'X' =>
    (numeral d (if d.flags.contains '#' && n != 0 then ['0', 'X'] else [])
      ((digits 16 word).map Char.toUpper), false, faults)
  | _ => (numeral d sign (digits 10 n.natAbs), false, faults)

/-- Fills a format once; the number bounds the steps. -/
def fill : Nat → Raw → List Raw → Filled
  | 0, _, args => ⟨[], args, false, false, []⟩
  | _ + 1, [], args => ⟨[], args, false, false, []⟩
  | n + 1, '%' :: '%' :: cs, args =>
    let f := fill n cs args
    { f with text := '%' :: f.text }
  | n + 1, '%' :: cs, args =>
    let isFlag := fun c => c == '-' || c == '+' || c == ' ' || c == '#' || c == '0'
    let flags := cs.takeWhile isFlag
    let cs := cs.dropWhile isFlag
    let (width, cs, args, flags) := match cs with
      | '*' :: cs =>
        let (w, _) := numberArgument (args.headD [])
        (w.natAbs, cs, args.drop 1, if w < 0 then '-' :: flags else flags)
      | cs =>
        (((Raw.int? (cs.takeWhile Char.isDigit)).getD 0).toNat, cs.dropWhile Char.isDigit, args, flags)
    let (precision, cs, args) := match cs with
      | '.' :: '*' :: cs => (some (numberArgument (args.headD [])).1.toNat, cs, args.drop 1)
      | '.' :: cs =>
        (some ((Raw.int? (cs.takeWhile Char.isDigit)).getD 0).toNat, cs.dropWhile Char.isDigit, args)
      | cs => (none, cs, args)
    match cs with
    | [] => ⟨[], args, false, true, []⟩
    | conversion :: cs =>
      let (text, ended, faults) := directive ⟨flags, width, precision, conversion⟩ (args.headD [])
      if ended then ⟨text, args.drop 1, true, true, faults⟩
      else
        let f := fill n cs (args.drop 1)
        { f with text := text ++ f.text, took := true, faults := faults ++ f.faults }
  | n + 1, c :: cs, args =>
    let f := fill n cs args
    { f with text := c :: f.text }

/-- Fills a format until no argument is left; the number bounds how often. -/
def repeated : Nat → Raw → List Raw → Raw × List Raw
  | 0, _, _ => ([], [])
  | n + 1, pattern, args =>
    let f := fill (pattern.length + 1) pattern args
    if f.ended || !f.took || f.rest.isEmpty then (f.text, f.faults)
    else
      let (text, faults) := repeated n pattern f.rest
      (f.text ++ text, f.faults ++ faults)

/-- What `printf` prints, and the arguments that are no numbers. -/
def format (pattern : Raw) (arguments : List Raw) : Raw × List Raw :=
  let (pattern, ended) := escapes pattern
  if ended then
    let f := fill (pattern.length + 1) pattern arguments
    (f.text, f.faults)
  else repeated (arguments.length + 1) pattern arguments

end LintHub.Shell.Format
