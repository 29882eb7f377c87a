import LintHub.Text.Lines
import LintHub.Text.Scan
import LintHub.Toml.Value

/-!
# TOML numbers

Integers of 64 bits, decimal or with one of the prefixes `0x`, `0o` and `0b`, and
floating-point numbers. Single underscores may stand between digits, and only a
number's exponent and fraction may begin with a superfluous zero. A float too large
for the double format is refused, unless it is negative.
-/

namespace LintHub.Toml

/-- The digits of a text in which single underscores may stand between them. -/
def digitsOf? (isDigit : Char → Bool) (cs : List Char) : Option (List Char) :=
  let runs := Text.fields '_' cs
  if runs.all fun r => r != [] && r.all isDigit then some runs.flatten else none

/-- The value of a digit in any base up to sixteen. -/
def digitValue (c : Char) : Nat :=
  if c.isDigit then c.toNat - 48 else if 'a' ≤ c then c.toNat - 87 else c.toNat - 55

/-- Whether a character is a digit in a base. -/
def isDigitIn (base : Nat) (c : Char) : Bool :=
  (c.isDigit || ('a' ≤ c && c ≤ 'f') || ('A' ≤ c && c ≤ 'F')) && digitValue c < base

/-- The number that digits write in a base. -/
def numberIn (base : Nat) (ds : List Char) : Nat :=
  ds.foldl (fun n c => base * n + digitValue c) 0

/-- A sign in front of a number, true if it is a minus, and what follows. -/
def splitSign : List Char → Bool × List Char
  | '-' :: cs => (true, cs)
  | '+' :: cs => (false, cs)
  | cs => (false, cs)

/-- The digits of a decimal number without superfluous zero in front. -/
def wholeDigits? (cs : List Char) : Option (List Char) := do
  let ds ← digitsOf? Char.isDigit cs
  if ds.head? = some '0' ∧ 1 < ds.length then none else some ds

/-- The least number above the integers of 64 bits. -/
def wordBound : Int := 9223372036854775808

/-- An integer that fits in 64 bits. -/
def fitting? (n : Int) : Option Int := if -wordBound ≤ n ∧ n < wordBound then some n else none

/-- An integer. -/
def integer? : List Char → Option Int
  | '0' :: 'x' :: cs => based? 16 cs
  | '0' :: 'o' :: cs => based? 8 cs
  | '0' :: 'b' :: cs => based? 2 cs
  | cs => do
    let (negative, body) := splitSign cs
    let ds ← wholeDigits? body
    let n := (numberIn 10 ds : Int)
    fitting? (if negative then -n else n)
where
  /-- Digits in a base, without a sign. -/
  based? (base : Nat) (cs : List Char) : Option Int := do
    let ds ← digitsOf? (isDigitIn base) cs
    fitting? (numberIn base ds)

/-- The least number that rounds to infinity in the double format: half a unit
above the greatest finite double. -/
def overflowBound : Nat := Nat.pow 2 1024 - Nat.pow 2 970

/-- Whether `m · 10^e` is beyond the double format. Numbers far from the border are
judged by their number of digits alone. -/
def overflows (digits : List Char) (exponent : Int) : Bool :=
  let m := numberIn 10 digits
  let size := ((toString m).length : Int) + exponent
  if m = 0 then false
  else if 310 < size then true
  else if size < 309 then false
  else if 0 ≤ exponent then overflowBound ≤ m * Nat.pow 10 exponent.toNat
  else overflowBound * Nat.pow 10 (-exponent).toNat ≤ m

/-- The part in front of an `e`, and the exponent behind it if there is one. -/
def splitExponent? (cs : List Char) : Option (List Char × Option Int) :=
  let isMark := fun c => c == 'e' || c == 'E'
  match cs.dropWhile fun c => !isMark c with
  | [] => some (cs, none)
  | _ :: behind => do
    let (negative, body) := splitSign behind
    let ds ← digitsOf? Char.isDigit body
    let n := (numberIn 10 ds : Int)
    return (cs.takeWhile fun c => !isMark c, some (if negative then -n else n))

/-- The whole part of a number and its fraction, if it has one. -/
def splitFraction? (cs : List Char) : Option (List Char × Option (List Char)) :=
  match cs.dropWhile (· != '.') with
  | [] => do
    let whole ← wholeDigits? cs
    return (whole, none)
  | _ :: behind => do
    let whole ← wholeDigits? (cs.takeWhile (· != '.'))
    let fraction ← digitsOf? Char.isDigit behind
    return (whole, some fraction)

/-- Whether a text is a floating-point number. -/
def isFloat (cs : List Char) : Bool :=
  let (negative, body) := splitSign cs
  if body == "inf".toList || body == "nan".toList then true
  else match splitExponent? body with
    | none => false
    | some (mantissa, exponent) =>
      match splitFraction? mantissa with
      | none => false
      | some (whole, fraction) =>
        let ds := whole ++ fraction.getD []
        let scale := exponent.getD 0 - ((fraction.getD []).length : Int)
        (exponent.isSome || fraction.isSome) && (negative || !overflows ds scale)

end LintHub.Toml
