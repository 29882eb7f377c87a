import LintHub.Path
import LintHub.Text.Utf8

/-!
# Texts of bytes

A shell works on bytes. Here a text of bytes is a list of characters below 256, each of
which stands for one byte, so that character tests and patterns apply to it directly.
-/

namespace LintHub.Shell

/-- A text in which each character stands for one byte. -/
abbrev Raw := List Char

namespace Raw

/-- The text of bytes. -/
def ofBytes (bs : Bytes) : Raw := bs.map fun b => Char.ofNat b.toNat

/-- The bytes of a text. -/
def toBytes (r : Raw) : Bytes := r.map fun c => UInt8.ofNat c.toNat

/-- The bytes that write a text. -/
def ofString (s : String) : Raw := ofBytes (Text.encode s.toList)

/-- The text that the bytes write. -/
def text (r : Raw) : String := String.ofList (Text.decodeLossy (toBytes r))

/-- The path that the bytes write. -/
def path (r : Raw) : Path := ⟨text r⟩

/-- A decimal number. -/
def ofInt (n : Int) : Raw := (toString n).toList

/-- The number that a text of digits writes, perhaps with a sign and blanks around. -/
def int? (r : Raw) : Option Int :=
  let blank := fun c => c == ' ' || c == '\t' || c == '\n'
  let r := (r.dropWhile blank).reverse.dropWhile blank |>.reverse
  let (negative, ds) := match r with
    | '-' :: ds => (true, ds)
    | '+' :: ds => (false, ds)
    | ds => (false, ds)
  if ds.isEmpty || !ds.all Char.isDigit then none
  else
    let n : Nat := ds.foldl (fun n c => 10 * n + (c.toNat - 48)) 0
    some (if negative then -(n : Int) else n)

end Raw
end LintHub.Shell
