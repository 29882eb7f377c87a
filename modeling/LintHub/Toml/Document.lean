import LintHub.Toml.Line

/-!
# TOML documents

A document is cut into sections, each a header with the assignments below it, and
the sections are added to the root table one after the other.
-/

namespace LintHub.Toml

/-- What a header opens. -/
inductive Opening where
  | table
  | element
  deriving DecidableEq, Repr

/-- A header and the assignments below it. -/
structure Section where
  opening : Opening
  key : DottedKey
  assignments : List Assignment
  deriving Repr

/-- The assignments above the first header, and the sections. -/
def sections : List Line → List Assignment × List Section
  | [] => ([], [])
  | .assignment a :: ls => let (as, ss) := sections ls; (a :: as, ss)
  | .table key :: ls => let (as, ss) := sections ls; ([], ⟨.table, key, as⟩ :: ss)
  | .element key :: ls => let (as, ss) := sections ls; ([], ⟨.element, key, as⟩ :: ss)

/-- What a key leads to once a section was added to what it led to before. A table may
get its header once, and not if a dotted key opened it. -/
def openSection (s : Section) : Option Node → Option Node
  | none =>
    (assignAll .declared [] s.assignments).map fun es =>
      match s.opening with
      | .table => .table .declared es
      | .element => .tables [es]
  | some (.table origin inner) =>
    if s.opening = .table ∧ origin.implicit ∧ !origin.dotted then
      (assignAll .declared inner s.assignments).map (.table .declared)
    else none
  | some (.tables elements) =>
    if s.opening = .element then
      (assignAll .declared [] s.assignments).map fun es => .tables (elements ++ [es])
    else none
  | some (.value _) => none

/-- Adds a section to the root table. -/
def addSection (root : Entries) (s : Section) : Option Entries :=
  descend false
    (fun _ es => (openSection s (Entries.get? es s.key.key)).map fun node => es.put s.key.key node)
    s.key.path .declared root

/-- The root table that lines make. -/
def ofLines? (ls : List Line) : Option Table := do
  let (top, rest) := sections ls
  let root ← assignAll .declared [] top
  let root ← rest.foldlM addSection root
  return entriesToTable root

/-- The root table of a document. -/
def parse? (document : String) : Option Table := (lines? document.toList).bind ofLines?

end LintHub.Toml
