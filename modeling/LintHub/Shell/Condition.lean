import LintHub.FileTree.Lookup
import LintHub.Shell.Raw

/-!
# Conditions

What `test` and `[` decide: properties of texts, numbers and files, joined by `!`,
`-a`, `-o` and parentheses. A condition that breaks the grammar has no answer.
-/

namespace LintHub.Shell.Condition

/-- Whether a path leads to a file that is not empty. -/
def hasContent (t : FileTree) (p : Path) : Bool :=
  match t.find? true p with
  | .ok (_, .file content _) => !content.isEmpty
  | .ok (_, .directory) => true
  | _ => false

/-- Whether a path leads to a link. -/
def isLink (t : FileTree) (p : Path) : Bool :=
  match t.find? false p with
  | .ok (_, .link _) => true
  | _ => false

/-- Whether a path leads to something that can be executed or entered. -/
def isRunnable (t : FileTree) (p : Path) : Bool :=
  match t.find? true p with
  | .ok (_, .file _ mode) => FileTree.isExecutable mode
  | .ok (_, .directory) => true
  | _ => false

/-- A condition on one operand. -/
def unary? (t : FileTree) (operator operand : Raw) : Option Bool :=
  let p := Raw.path operand
  match String.ofList operator with
  | "-n" => some !operand.isEmpty
  | "-z" => some operand.isEmpty
  | "-e" => some (t.exists? p)
  | "-r" => some (t.exists? p)
  | "-w" => some (t.exists? p)
  | "-f" => some (t.isFile p)
  | "-d" => some (t.isDirectory p)
  | "-s" => some (hasContent t p)
  | "-x" => some (isRunnable t p)
  | "-h" => some (isLink t p)
  | "-L" => some (isLink t p)
  | "-t" => some false
  | _ => none

/-- A condition on two operands. -/
def binary? (a operator b : Raw) : Option Bool :=
  let compare (f : Int → Int → Bool) : Option Bool := do
    let x ← Raw.int? a
    let y ← Raw.int? b
    return f x y
  match String.ofList operator with
  | "=" => some (a == b)
  | "==" => some (a == b)
  | "!=" => some (a != b)
  | "-eq" => compare fun x y => x == y
  | "-ne" => compare fun x y => x != y
  | "-lt" => compare fun x y => x < y
  | "-le" => compare fun x y => x ≤ y
  | "-gt" => compare fun x y => x > y
  | "-ge" => compare fun x y => x ≥ y
  | _ => none

/-- Whether a word is an operator between two operands. -/
def isBinary (r : Raw) : Bool :=
  ["=", "==", "!=", "-eq", "-ne", "-lt", "-le", "-gt", "-ge"].any fun s => s.toList == r

/-- Decides a condition; the number bounds the depth. -/
def decide? (t : FileTree) : Nat → List Raw → Option Bool
  | 0, _ => none
  | n + 1, words =>
    match words with
    | [] => some false
    | [a] => some !a.isEmpty
    | [['!'], a] => some a.isEmpty
    | [operator, a] => unary? t operator a
    | ['!'] :: rest =>
      if rest.length == 2 && isBinary (rest.headD []) then
        binary? ['!'] (rest.headD []) (rest.getD 1 [])
      else (decide? t n rest).map (!·)
    | words =>
      match splitAt? "-o" words with
      | some (a, b) => do
        let x ← decide? t n a
        let y ← decide? t n b
        return x || y
      | none =>
        match splitAt? "-a" words with
        | some (a, b) => do
          let x ← decide? t n a
          let y ← decide? t n b
          return x && y
        | none =>
          match words with
          | [a, operator, b] =>
            if a == ['('] && b == [')'] then some !operator.isEmpty else binary? a operator b
          | ['('] :: rest =>
            if rest.getLast? == some [')'] then decide? t n rest.dropLast else none
          | _ => none
where
  /-- What stands in front of and behind an operator that joins conditions. -/
  splitAt? (operator : String) (words : List Raw) : Option (List Raw × List Raw) :=
    if words.length == 3 && isBinary (words.getD 1 []) then none
    else
      let front := words.takeWhile fun w => w != operator.toList
      match words.drop front.length with
      | _ :: behind => if front.isEmpty || behind.isEmpty then none else some (front, behind)
      | [] => none

/-- Decides a condition. -/
def holds? (t : FileTree) (words : List Raw) : Option Bool := decide? t (words.length + 1) words

end LintHub.Shell.Condition
