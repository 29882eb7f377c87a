import LintHub.Shell.Raw

/-!
# Arithmetic in the shell

Integer expressions as in `$((i + 1))`: the operators of C with their precedences,
variables by name, and assignments, which are handed back to the shell.
-/

namespace LintHub.Shell.Arithmetic

/-- A piece of an expression. -/
inductive Token where
  | number (n : Int)
  | name (r : Raw)
  | mark (s : Raw)
  deriving DecidableEq, Repr

/-- An expression. -/
inductive Term where
  | number (n : Int)
  | variable (name : Raw)
  | unary (operator : Raw) (a : Term)
  | binary (operator : Raw) (a b : Term)
  | assign (name : Raw) (operator : Raw) (a : Term)
  | choice (test yes no : Term)
  deriving Repr, Inhabited

/-- Why an expression has no value. -/
inductive Fault where
  /-- It is no expression, or divides by zero. -/
  | bad (reason : String)
  /-- A variable in it holds no number. -/
  | number (value : Raw)
  deriving DecidableEq, Repr

/-- What is wrong with an expression in which an operand is missing. -/
def noOperand : Fault := .bad "expecting primary"

/-- What is wrong with a text that goes on behind an expression. -/
def noEnd : Fault := .bad "expecting EOF"

/-- What is wrong with an expression that divides by zero. -/
def zeroDivisor : Fault := .bad "division by zero"

/-- The value of a digit in any base up to sixteen. -/
def digit (c : Char) : Nat :=
  if c.isDigit then c.toNat - 48 else c.toLower.toNat - 87

/-- The greatest integer in 64 bits. -/
def greatest : Int := 9223372036854775807

/-- The number at the front of a text, and what follows it: hexadecimal, octal or decimal. -/
def number (r : Raw) : Int × Raw :=
  let inBase (base : Nat) (r : Raw) : Int × Raw :=
    let fits := fun c : Char => c.isAlphanum && digit c < base
    let value : Nat := (r.takeWhile fits).foldl (fun n c => base * n + digit c) 0
    (min greatest value, r.dropWhile fits)
  let isHexadecimal (ds : Raw) : Bool := ds.head?.any fun c => c.isAlphanum && digit c < 16
  match r with
  | '0' :: 'x' :: ds => if isHexadecimal ds then inBase 16 ds else (0, 'x' :: ds)
  | '0' :: 'X' :: ds => if isHexadecimal ds then inBase 16 ds else (0, 'X' :: ds)
  | '0' :: ds => inBase 8 ds
  | ds => inBase 10 ds

/-- The number that a variable holds; one without a value counts as zero. -/
def held (r : Raw) : Except Fault Int :=
  let blank := fun c => c == ' ' || c == '\t' || c == '\n'
  let body := r.dropWhile blank
  let (negative, ds) := match body with
    | '-' :: ds => (true, ds)
    | '+' :: ds => (false, ds)
    | ds => (false, ds)
  let (n, rest) := number ds
  if body.isEmpty then .ok 0
  else if !(ds.head?.any Char.isDigit && rest.all blank) then .error (.number r)
  else .ok (if negative then -n else n)

/-- The operators of two or three characters. -/
def longMarks : List String :=
  ["<<=", ">>=", "<<", ">>", "<=", ">=", "==", "!=", "&&", "||", "+=", "-=", "*=", "/=", "%=", "&=",
    "|=", "^="]

/-- The tokens of an expression; the number bounds them. A character that means nothing is
a token of its own. -/
def tokens : Nat → Raw → List Token
  | 0, _ => []
  | n + 1, cs =>
    match cs with
    | [] => []
    | c :: r =>
      if c == ' ' || c == '\t' || c == '\n' then tokens n r
      else if c.isDigit then
        let (v, rest) := number cs
        .number v :: tokens n rest
      else if c.isAlpha || c == '_' then
        let inName := fun c : Char => c.isAlphanum || c == '_'
        .name (cs.takeWhile inName) :: tokens n (cs.dropWhile inName)
      else
        match longMarks.find? fun m => m.toList.isPrefixOf cs with
        | some m => .mark m.toList :: tokens n (cs.drop m.length)
        | none => .mark [c] :: tokens n r

/-- The binary operators, weakest first. -/
def levels : List (List String) :=
  [["||"], ["&&"], ["|"], ["^"], ["&"], ["==", "!="], ["<", ">", "<=", ">="], ["<<", ">>"],
    ["+", "-"], ["*", "/", "%"]]

/-- What was read from the front of the tokens, and the rest of them. -/
abbrev Front := Term × List Token

mutual

/-- An operand with the operators in front of it; the number bounds the depth. -/
def operand : Nat → List Token → Except Fault Front
  | 0, _ => .error noOperand
  | n + 1, ts =>
    match ts with
    | .number v :: rest => .ok (.number v, rest)
    | .name v :: rest => .ok (.variable v, rest)
    | .mark ['('] :: rest => do
      match ← whole n rest with
      | (t, .mark [')'] :: rest) => return (t, rest)
      | _ => .error (.bad "expecting ')'")
    | .mark [c] :: rest =>
      if c == '-' || c == '+' || c == '!' || c == '~' then do
        let (t, rest) ← operand n rest
        return (.unary [c] t, rest)
      else .error noOperand
    | _ => .error noOperand

/-- Operands joined by operators of these levels. -/
def joined : Nat → List (List String) → List Token → Except Fault Front
  | 0, _, _ => .error noOperand
  | n + 1, [], ts => operand n ts
  | n + 1, level :: tighter, ts => do
    let (a, rest) ← joined n tighter ts
    more n level tighter a rest

/-- Further operands on one level. -/
def more : Nat → List String → List (List String) → Term → List Token → Except Fault Front
  | 0, _, _, _, _ => .error noOperand
  | n + 1, level, tighter, a, ts =>
    match ts with
    | .mark m :: rest =>
      if level.any fun l => l.toList == m then do
        let (b, rest) ← joined n tighter rest
        more n level tighter (.binary m a b) rest
      else .ok (a, ts)
    | ts => .ok (a, ts)

/-- A whole expression: an assignment, or a choice. -/
def whole : Nat → List Token → Except Fault Front
  | 0, _ => .error noOperand
  | n + 1, ts =>
    match ts with
    | .name v :: .mark m :: rest =>
      if m == ['='] || (m.length ≥ 2 && m.getLast? == some '=' &&
          !(["==", "!=", "<=", ">="].any fun s => s.toList == m)) then do
        let (t, rest) ← whole n rest
        return (.assign v m.dropLast t, rest)
      else choice n ts
    | ts => choice n ts

/-- A choice, or what a choice is made of. -/
def choice : Nat → List Token → Except Fault Front
  | 0, _ => .error noOperand
  | n + 1, ts => do
    match ← joined n levels ts with
    | (test, .mark ['?'] :: rest) =>
      match ← whole n rest with
      | (yes, .mark [':'] :: rest) =>
        let (no, rest) ← whole n rest
        return (.choice test yes no, rest)
      | _ => .error (.bad "expecting ':'")
    | other => return other

end

/-- The expression that a text writes. -/
def parse (r : Raw) : Except Fault Term := do
  let ts := tokens (r.length + 1) r
  match ← whole (16 * ts.length + 32) ts with
  | (t, []) => return t
  | _ => .error noEnd

/-- One for true, zero for false. -/
def truth (b : Bool) : Int := if b then 1 else 0

/-- An integer in 64 bits. -/
def wrapped (n : Int) : Int := (Int64.ofInt n).toInt

/-- A binary operator applied to integers of 64 bits. Only the
lower six bits of a shift count. -/
def operation (operator : Raw) (a b : Int) : Except Fault Int :=
  match String.ofList operator with
  | "+" => return (wrapped (a + b))
  | "-" => return (wrapped (a - b))
  | "*" => return (wrapped (a * b))
  | "/" => if b = 0 then .error zeroDivisor else return (wrapped (a.tdiv b))
  | "%" => if b = 0 then .error zeroDivisor else return (a.tmod b)
  | "<" => return (truth (a < b))
  | ">" => return (truth (a > b))
  | "<=" => return (truth (a ≤ b))
  | ">=" => return (truth (a ≥ b))
  | "==" => return (truth (a == b))
  | "!=" => return (truth (a != b))
  | "&&" => return (truth (a != 0 && b != 0))
  | "||" => return (truth (a != 0 || b != 0))
  | "<<" => return (wrapped (a * Int.ofNat (Nat.pow 2 (b % 64).toNat)))
  | ">>" => return (a / Int.ofNat (Nat.pow 2 (b % 64).toNat))
  | "&" => return (Int64.ofInt a &&& Int64.ofInt b).toInt
  | "|" => return (Int64.ofInt a ||| Int64.ofInt b).toInt
  | "^" => return (Int64.ofInt a ^^^ Int64.ofInt b).toInt
  | _ => .error noOperand

/-- Variables with their values. -/
abbrev Values := List (Raw × Raw)

/-- The value of an expression and the variables afterwards. -/
def eval (look : Values → Raw → Raw) : Term → Values → Except Fault (Int × Values)
  | .number n, vs => .ok (n, vs)
  | .variable name, vs => return (← held (look vs name), vs)
  | .unary operator a, vs => do
    let (n, vs) ← eval look a vs
    return (match operator with
      | ['-'] => wrapped (-n)
      | ['!'] => truth (n == 0)
      | ['~'] => -n - 1
      | _ => n, vs)
  | .binary operator a b, vs => do
    let (x, vs) ← eval look a vs
    if operator == "&&".toList && x == 0 then return (0, vs)
    if operator == "||".toList && x != 0 then return (1, vs)
    let (y, vs) ← eval look b vs
    return (← operation operator x y, vs)
  | .assign name operator a, vs => do
    let (y, vs) ← eval look a vs
    let n ← if operator.isEmpty then pure y else operation operator (← held (look vs name)) y
    return (n, (name, Raw.ofInt n) :: vs)
  | .choice test yes no, vs => do
    let (n, vs) ← eval look test vs
    if n != 0 then eval look yes vs else eval look no vs

end LintHub.Shell.Arithmetic
