import LintHub.FileTree.Lookup
import LintHub.Shell.Raw

/-!
# Shell patterns

A pattern is a text of which some characters are quoted and stand for themselves. In
the others, `*` stands for any text, `?` for one character and `[…]` for one of a class.
A word with such characters is replaced by the files whose names match it.
-/

namespace LintHub.Shell

/-- A text whose characters are quoted or not. -/
abbrev Marked := List (Char × Bool)

namespace Pattern

/-- The text without its marks. -/
def plain (m : Marked) : Raw := m.map (·.1)

/-- A text that is quoted throughout. -/
def quoted (r : Raw) : Marked := r.map fun c => (c, true)

/-- Whether a text holds characters that make it a pattern. -/
def isMagic (m : Marked) : Bool := m.any fun c => !c.2 && (c.1 == '*' || c.1 == '?' || c.1 == '[')

/-- The class behind a bracket, and what follows it. -/
def class? : Marked → Option (Marked × Marked)
  | [] => none
  | c :: cs =>
    let rec close : Marked → Option (Marked × Marked)
      | [] => none
      | (']', false) :: cs => some ([], cs)
      | c :: cs => (close cs).map fun r => (c :: r.1, r.2)
    (close cs).map fun r => (c :: r.1, r.2)

/-- Whether a class holds a character. -/
def covers : Marked → Char → Bool
  | (a, _) :: ('-', false) :: (b, _) :: cs, c => (a ≤ c && c ≤ b) || covers cs c
  | (a, _) :: cs, c => a == c || covers cs c
  | [], _ => false

/-- Whether a class, perhaps negated, accepts a character. -/
def classAccepts (m : Marked) (c : Char) : Bool :=
  match m with
  | ('!', false) :: m => !covers m c
  | ('^', false) :: m => !covers m c
  | m => covers m c

/-- Whether a pattern matches a whole text; the number bounds the steps. -/
def matchesWithin : Nat → Marked → Raw → Bool
  | 0, _, _ => false
  | _ + 1, [], r => r.isEmpty
  | n + 1, ('*', false) :: ps, r =>
    matchesWithin n ps r ||
      match r with
      | [] => false
      | _ :: r => matchesWithin n (('*', false) :: ps) r
  | n + 1, ('?', false) :: ps, r =>
    match r with
    | [] => false
    | _ :: r => matchesWithin n ps r
  | n + 1, (p, q) :: ps, r =>
    match r with
    | [] => false
    | c :: r =>
      if p == '[' && !q then
        match class? ps with
        | some (m, ps) => classAccepts m c && matchesWithin n ps r
        | none => c == '[' && matchesWithin n ps r
      else p == c && matchesWithin n ps r

/-- Whether a pattern matches a whole text. -/
def accepts (m : Marked) (r : Raw) : Bool := matchesWithin (m.length + r.length + 1) m r

/-- A text without the part at one end that matches a pattern. -/
def strip (atEnd longest : Bool) (m : Marked) (r : Raw) : Raw :=
  let cuts := List.range (r.length + 1)
  let fits (k : Nat) : Bool := if atEnd then accepts m (r.drop k) else accepts m (r.take k)
  let order := if atEnd == longest then cuts else cuts.reverse
  match order.find? fits with
  | none => r
  | some k => if atEnd then r.take k else r.drop k

/-- The parts of a pattern between separators. -/
def components (m : Marked) : List Marked :=
  match m with
  | [] => [[]]
  | c :: cs =>
    match components cs with
    | [] => [[c]]
    | p :: ps => if c.1 == '/' then [] :: p :: ps else (c :: p) :: ps

/-- The names in a directory that match a pattern, in order. A name that begins with a
dot is matched only by a pattern that does. -/
def namesIn (t : FileTree) (dir : Raw) (m : Marked) : List Raw :=
  match t.directoryAt (if dir.isEmpty then ⟨"."⟩ else Raw.path dir) with
  | .error _ => []
  | .ok k =>
    let names := (t.children k).map fun c => Raw.ofString c.1
    let fits := names.filter fun name =>
      accepts m name && (name.head? != some '.' || (m.head?.map (·.1)) == some '.')
    fits.mergeSort fun a b => !decide (b < a)

/-- The paths that continue `front` and match the rest of a pattern. -/
def pathsFrom (t : FileTree) (front : Raw) : List Marked → List Raw
  | [] => []
  | [last] =>
    if isMagic last then (namesIn t front last).map (front ++ ·)
    else
      let p := front ++ plain last
      if t.exists? (Raw.path p) then [p] else []
  | m :: ms =>
    if isMagic m then
      (namesIn t front m).flatMap fun name => pathsFrom t (front ++ name ++ ['/']) ms
    else pathsFrom t (front ++ plain m ++ ['/']) ms

/-- The words that a word stands for: the matching paths, or the word itself. -/
def expand (t : FileTree) (m : Marked) : List Raw :=
  if isMagic m then
    match pathsFrom t [] (components m) with
    | [] => [plain m]
    | ps => ps
  else [plain m]

end Pattern
end LintHub.Shell
