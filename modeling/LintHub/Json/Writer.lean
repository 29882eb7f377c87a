import LintHub.Json.Value

/-!
# Writing JSON

`compact` writes a value on one line without blanks, `pretty` with one member or
item per line, two blanks per level of nesting, and empty arrays and objects
closed at once. A quote, a backslash and control characters are escaped, nothing
else is.
-/

namespace LintHub.Json

/-- A hexadecimal digit in lower case. -/
def hexChar (n : Nat) : Char :=
  if n < 10 then Char.ofNat (48 + n) else Char.ofNat (87 + n)

/-- A character inside a string literal. -/
def escapeChar (c : Char) : List Char :=
  if c = '"' then ['\\', '"']
  else if c = '\\' then ['\\', '\\']
  else if c = '\n' then ['\\', 'n']
  else if c = '\r' then ['\\', 'r']
  else if c = '\t' then ['\\', 't']
  else if c.toNat = 8 then ['\\', 'b']
  else if c.toNat = 12 then ['\\', 'f']
  else if c.toNat < 0x20 then ['\\', 'u', '0', '0', hexChar (c.toNat / 16), hexChar (c.toNat % 16)]
  else [c]

/-- A string literal. -/
def quote (s : String) : String := String.ofList ('"' :: s.toList.flatMap escapeChar ++ ['"'])

/-- A literal that denotes no text is written as the empty one. -/
def quoteLiteral (s : Literal) : String := quote (s.getD "")

mutual

/-- A value on one line. -/
def compact : Value → String
  | .null => "null"
  | .bool true => "true"
  | .bool false => "false"
  | .number n => n
  | .string s => quoteLiteral s
  | .array items => "[" ++ compactItems items ++ "]"
  | .object members => "\x7b" ++ compactMembers members ++ "\x7d"

/-- Items with commas between them. -/
def compactItems : List Value → String
  | [] => ""
  | [v] => compact v
  | v :: w :: vs => compact v ++ "," ++ compactItems (w :: vs)

/-- Members with commas between them. -/
def compactMembers : List (Literal × Value) → String
  | [] => ""
  | [(k, v)] => quoteLiteral k ++ ":" ++ compact v
  | (k, v) :: m :: ms => quoteLiteral k ++ ":" ++ compact v ++ "," ++ compactMembers (m :: ms)

end

/-- A new line at a level of nesting. -/
def indentation (level : Nat) : String := "\n" ++ String.ofList (List.replicate (2 * level) ' ')

mutual

/-- A value over several lines, nested at `level`. -/
def prettyAt (level : Nat) : Value → String
  | .null => "null"
  | .bool true => "true"
  | .bool false => "false"
  | .number n => n
  | .string s => quoteLiteral s
  | .array [] => "[]"
  | .array (v :: vs) => "[" ++ prettyItems (level + 1) (v :: vs) ++ indentation level ++ "]"
  | .object [] => "\x7b\x7d"
  | .object (m :: ms) =>
    "\x7b" ++ prettyMembers (level + 1) (m :: ms) ++ indentation level ++ "\x7d"

/-- Items, each on its own line. -/
def prettyItems (level : Nat) : List Value → String
  | [] => ""
  | [v] => indentation level ++ prettyAt level v
  | v :: w :: vs => indentation level ++ prettyAt level v ++ "," ++ prettyItems level (w :: vs)

/-- Members, each on its own line. -/
def prettyMembers (level : Nat) : List (Literal × Value) → String
  | [] => ""
  | [(k, v)] => indentation level ++ quoteLiteral k ++ ": " ++ prettyAt level v
  | (k, v) :: m :: ms =>
    indentation level ++ quoteLiteral k ++ ": " ++ prettyAt level v ++ "," ++
      prettyMembers level (m :: ms)

end

/-- A value over several lines. -/
def pretty (v : Value) : String := prettyAt 0 v

end LintHub.Json
