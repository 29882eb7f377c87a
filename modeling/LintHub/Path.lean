import LintHub.Text.Lines

/-!
# Paths

A path is the text it was given as, and that text is what messages show. What a
path *names* is its list of components: repeated separators, `.` in the middle and
a separator at the end do not count, while a leading `.` and every `..` do. Two
paths are the same when their components are (`Path.Same`).

* `Path.parent?` drops the last component and the inert text around it.
* `Path.fileName?`, `Path.stem?` and `Path.extension?` read the last component only.
-/

namespace LintHub

/-- A path as it was written. -/
structure Path where
  /-- The text as given. -/
  text : String
  deriving DecidableEq, Repr, Inhabited

namespace Path

/-- What a path is made of. -/
inductive Component where
  /-- The separator at the front of an absolute path. -/
  | root
  /-- A `.` at the front of a relative path. -/
  | here
  /-- A `..`. -/
  | up
  /-- A name. -/
  | name (text : String)
  deriving DecidableEq, Repr

/-- The characters of a path. -/
def chars (p : Path) : List Char := p.text.toList

/-- The path written by these characters. -/
def ofChars (cs : List Char) : Path := ⟨String.ofList cs⟩

/-- A path is absolute when it begins with a separator. -/
def isAbsolute (p : Path) : Bool := p.chars.head? == some '/'

/-- The component that a piece between separators stands for, if any. -/
def Component.ofPiece : List Char → Option Component
  | [] => none
  | ['.'] => none
  | ['.', '.'] => some .up
  | cs => some (.name (String.ofList cs))

/-- The components of a path, from the front. -/
def components (p : Path) : List Component :=
  let pieces := Text.fields '/' p.chars
  if p.isAbsolute then .root :: pieces.filterMap Component.ofPiece
  else match pieces with
    | ['.'] :: rest => .here :: rest.filterMap Component.ofPiece
    | _ => pieces.filterMap Component.ofPiece

/-- Two paths are the same when they have the same components. -/
def Same (p q : Path) : Prop := p.components = q.components

instance : DecidableRel Same := fun p q => inferInstanceAs (Decidable (p.components = q.components))

/-- Pieces at the end that stand for no component. -/
def dropInert (pieces : List (List Char)) : List (List Char) :=
  (pieces.reverse.dropWhile fun s => s == [] || s == ['.']).reverse

/-- The part of a path that stays whatever is dropped behind it (a leading `/` or
`.`), and the pieces after it. -/
def headAndPieces (p : Path) : List Char × List (List Char) :=
  match p.chars with
  | '/' :: cs => (['/'], Text.fields '/' cs)
  | ['.'] => (['.'], [])
  | '.' :: '/' :: cs => (['.'], [] :: Text.fields '/' cs)
  | cs => ([], Text.fields '/' cs)

/-- The path without its last component; the root and the empty path have none. -/
def parent? (p : Path) : Option Path :=
  let (head, pieces) := p.headAndPieces
  match dropInert pieces with
  | [] => if head = ['.'] then some ⟨""⟩ else none
  | kept => some (ofChars (head ++ Text.joinFields '/' (dropInert kept.dropLast)))

/-- The last component, if it is a name. -/
def fileName? (p : Path) : Option String :=
  match p.components.getLast? with
  | some (.name s) => some s
  | _ => none

/-- A name cut at its last dot. A name without a dot, or whose only dot comes
first, has no extension. -/
def splitExtension (name : List Char) : List Char × Option (List Char) :=
  let back := name.reverse
  match back.dropWhile (· != '.') with
  | [] => (name, none)
  | [_] => (name, none)
  | _ :: before => (before.reverse, some (back.takeWhile (· != '.')).reverse)

/-- The file name without its extension. -/
def stem? (p : Path) : Option String :=
  p.fileName?.map fun s => String.ofList (splitExtension s.toList).1

/-- The extension of the file name, without the dot. -/
def extension? (p : Path) : Option String :=
  p.fileName?.bind fun s => (splitExtension s.toList).2.map String.ofList

/-- The second path seen from the first: an absolute one replaces it, any other is
put behind it after one separator. -/
def join (p q : Path) : Path :=
  if q.isAbsolute then q
  else match p.chars.getLast? with
    | none => q
    | some '/' => ofChars (p.chars ++ q.chars)
    | some _ => ofChars (p.chars ++ '/' :: q.chars)

/-- `join` with a text. -/
def joinText (p : Path) (s : String) : Path := p.join ⟨s⟩

end Path
end LintHub
