import LintHub.Json.Value
import LintHub.Text.Scan

/-!
# JSON tokens

A JSON text is first cut into tokens; `tokens?` fails when a piece of it begins no
token. Reading a string literal has two stages: `pieces?` finds its end and
resolves escapes to numbers, `assemble` joins the halves of surrogate pairs.
-/

namespace LintHub.Json

/-- The smallest units of a JSON text. -/
inductive Token where
  | openBrace | closeBrace | openBracket | closeBracket | comma | colon
  | null
  | bool (b : Bool)
  | number (lexeme : String)
  | string (s : Literal)
  deriving DecidableEq, Repr

/-- The four characters JSON allows between tokens. -/
def isSpace (c : Char) : Bool := c == ' ' || c == '\n' || c == '\t' || c == '\r'

/-- A piece of a string literal: a character, or a number escaped with `\u`. -/
inductive Piece where
  | char (c : Char)
  | unit (n : Nat)
  deriving DecidableEq, Repr

/-- The value of a hexadecimal digit. -/
def hexDigit? (c : Char) : Option Nat :=
  if c.isDigit then some (c.toNat - 48)
  else if 'a' ≤ c ∧ c ≤ 'f' then some (c.toNat - 87)
  else if 'A' ≤ c ∧ c ≤ 'F' then some (c.toNat - 55)
  else none

/-- The number four hexadecimal digits write. -/
def hex4? (a b c d : Char) : Option Nat := do
  let a ← hexDigit? a
  let b ← hexDigit? b
  let c ← hexDigit? c
  let d ← hexDigit? d
  return ((a * 16 + b) * 16 + c) * 16 + d

/-- The character a one-letter escape stands for. -/
def simpleEscape? : Char → Option Char
  | '"' => some '"'
  | '\\' => some '\\'
  | '/' => some '/'
  | 'b' => some (Char.ofNat 8)
  | 'f' => some (Char.ofNat 12)
  | 'n' => some '\n'
  | 'r' => some '\r'
  | 't' => some '\t'
  | _ => none

/-- The pieces of a string literal up to its closing quote, and what follows. A
control character, an unknown escape and a missing quote are refused. -/
def pieces? : List Char → Option (List Piece × List Char)
  | [] => none
  | '"' :: cs => some ([], cs)
  | '\\' :: 'u' :: a :: b :: c :: d :: cs => do
    let n ← hex4? a b c d
    let (ps, rest) ← pieces? cs
    return (.unit n :: ps, rest)
  | '\\' :: e :: cs => do
    let c ← simpleEscape? e
    let (ps, rest) ← pieces? cs
    return (.char c :: ps, rest)
  | c :: cs =>
    if c.toNat < 0x20 ∨ c = '\\' then none
    else do
      let (ps, rest) ← pieces? cs
      return (.char c :: ps, rest)

/-- Whether a number is the first half of a surrogate pair. -/
def isHighHalf (n : Nat) : Bool := 0xD800 ≤ n && n < 0xDC00

/-- Whether a number is the second half of a surrogate pair. -/
def isLowHalf (n : Nat) : Bool := 0xDC00 ≤ n && n < 0xE000

/-- The text of a literal; half a surrogate pair without the other half denotes none. -/
def assemble : List Piece → Option (List Char)
  | [] => some []
  | .char c :: ps => (assemble ps).map (c :: ·)
  | .unit h :: .unit l :: ps =>
    if isHighHalf h then
      if isLowHalf l then
        (assemble ps).map (Char.ofNat (0x10000 + (h - 0xD800) * 0x400 + (l - 0xDC00)) :: ·)
      else none
    else if isLowHalf h then none
    else (assemble (.unit l :: ps)).map (Char.ofNat h :: ·)
  | .unit h :: ps =>
    if isHighHalf h || isLowHalf h then none else (assemble ps).map (Char.ofNat h :: ·)

/-- The characters that can occur in a number. -/
def isNumberChar (c : Char) : Bool :=
  c.isDigit || c == '-' || c == '+' || c == '.' || c == 'e' || c == 'E'

/-- Digits, at least one, and what follows. -/
def someDigits? (cs : List Char) : Option (List Char) :=
  match Text.digits cs with
  | ([], _) => none
  | (_, rest) => some rest

/-- Drops the whole part of a number: a zero, or digits that do not begin with one. -/
def dropWhole? : List Char → Option (List Char)
  | '0' :: cs => some cs
  | cs => someDigits? cs

/-- Drops a fraction, if there is one. -/
def dropFraction? : List Char → Option (List Char)
  | '.' :: cs => someDigits? cs
  | cs => some cs

/-- Drops an exponent, if there is one. -/
def dropExponent? : List Char → Option (List Char)
  | e :: cs =>
    if e = 'e' ∨ e = 'E' then
      match cs with
      | s :: ds => if s = '+' ∨ s = '-' then someDigits? ds else someDigits? cs
      | [] => none
    else some (e :: cs)
  | [] => some []

/-- Whether this is a number in JSON's grammar. -/
def isNumber (cs : List Char) : Bool :=
  let body := match cs with
    | '-' :: r => r
    | _ => cs
  ((dropWhole? body).bind dropFraction?).bind dropExponent? == some []

/-- The token a bare word stands for. -/
def wordToken? : List Char → Option Token
  | ['n', 'u', 'l', 'l'] => some .null
  | ['t', 'r', 'u', 'e'] => some (.bool true)
  | ['f', 'a', 'l', 's', 'e'] => some (.bool false)
  | _ => none

/-- The token that a punctuation mark is. -/
def markToken? : Char → Option Token
  | '{' => some .openBrace
  | '}' => some .closeBrace
  | '[' => some .openBracket
  | ']' => some .closeBracket
  | ',' => some .comma
  | ':' => some .colon
  | _ => none

/-- The first token and what follows it; blanks in front are skipped, and a text of
blanks has no token. -/
def nextToken? (cs : List Char) : Option (Token × List Char) :=
  match cs with
  | [] => none
  | c :: r =>
    match markToken? c with
    | some t => some (t, r)
    | none =>
      if c = '"' then
        (pieces? r).map fun p => (.string ((assemble p.1).map String.ofList), p.2)
      else if isNumberChar c then
        let lexeme := cs.takeWhile isNumberChar
        if isNumber lexeme then some (.number (String.ofList lexeme), cs.dropWhile isNumberChar)
        else none
      else
        (wordToken? (cs.takeWhile Char.isAlpha)).map fun t => (t, cs.dropWhile Char.isAlpha)

/-- The tokens of a text. The number bounds the steps; each consumes a character. -/
def tokensWithin : Nat → List Char → Option (List Token)
  | n, cs =>
    match cs.dropWhile isSpace with
    | [] => some []
    | c :: r =>
      match n with
      | 0 => none
      | n + 1 =>
        match nextToken? (c :: r) with
        | none => none
        | some (t, rest) => (tokensWithin n rest).map (t :: ·)

/-- The tokens of a text. -/
def tokens? (cs : List Char) : Option (List Token) := tokensWithin cs.length cs

end LintHub.Json
