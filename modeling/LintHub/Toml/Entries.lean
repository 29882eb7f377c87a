import LintHub.Toml.Value

/-!
# Building tables

Tables come about in four ways, and what may be added to one later depends on how:
a table with a header of its own is closed to further headers and to dotted keys, a
table that a longer header only passed through may still get its own header, and one
that a dotted key opened may only get more dotted keys or sub-tables. An array of
tables is extended by further headers, and paths through it lead into its last table.
A value, inline tables included, is closed to everything.
-/

namespace LintHub.Toml

/-- How a table came about. -/
structure Origin where
  /-- The table was only passed through so far. -/
  implicit : Bool
  /-- A dotted key opened the table. -/
  dotted : Bool
  deriving DecidableEq, Repr

/-- The origin of a table with a header of its own. -/
def Origin.declared : Origin := ⟨false, false⟩

/-- What a key leads to while a document is read. -/
inductive Node where
  | value (v : Value)
  | table (origin : Origin) (entries : List (String × Node))
  /-- An array of tables, each with a header. -/
  | tables (elements : List (List (String × Node)))
  deriving Inhabited

/-- The keys of a table under construction. -/
abbrev Entries := List (String × Node)

namespace Entries

/-- What a key leads to. -/
def get? (es : Entries) (key : String) : Option Node := (es.find? fun e => e.1 == key).map (·.2)

/-- Sets what a key leads to, in its place or behind the others. -/
def put (key : String) (node : Node) : Entries → Entries
  | [] => [(key, node)]
  | e :: es => if e.1 = key then (key, node) :: es else e :: put key node es

end Entries

mutual

/-- The value a node stands for. -/
def Node.toValue : Node → Value
  | .value v => v
  | .table _ entries => .table (entriesToTable entries)
  | .tables elements => .array (elementsToValues elements)

/-- The table that entries stand for. -/
def entriesToTable : List (String × Node) → Table
  | [] => []
  | (k, n) :: es => (k, n.toValue) :: entriesToTable es

/-- The tables of an array. -/
def elementsToValues : List (List (String × Node)) → List Value
  | [] => []
  | es :: rest => .table (entriesToTable es) :: elementsToValues rest

end

/-- Changes the table that a path leads to, opening tables on the way. `dotted` says
that the path is a dotted key, which may not enter a declared table. -/
def descend (dotted : Bool) (act : Origin → Entries → Option Entries) :
    List String → Origin → Entries → Option Entries
  | [], origin, es => act origin es
  | k :: ks, _, es =>
    match Entries.get? es k with
    | none =>
      (descend dotted act ks ⟨true, dotted⟩ []).map fun inner =>
        es.put k (.table ⟨true, dotted⟩ inner)
    | some (.value _) => none
    | some (.tables elements) =>
      match elements.getLast? with
      | none => none
      | some last =>
        (descend dotted act ks .declared last).map fun inner =>
          es.put k (.tables (elements.dropLast ++ [inner]))
    | some (.table origin inner) =>
      if dotted ∧ !origin.implicit then none
      else (descend dotted act ks origin inner).map fun inner => es.put k (.table origin inner)

/-- A dotted key: the tables it passes through and the key in the last of them. -/
structure DottedKey where
  path : List String
  key : String
  deriving Repr, DecidableEq

/-- A value under a dotted key. -/
abbrev Assignment := DottedKey × Value

/-- Adds a value to a table. A dotted key ends in a table that a dotted key opened,
and a plain key in one that none did. -/
def assign (origin : Origin) (es : Entries) (a : Assignment) : Option Entries :=
  descend (!a.1.path.isEmpty)
    (fun origin es =>
      if origin.dotted = a.1.path.isEmpty then none
      else match Entries.get? es a.1.key with
        | none => some (es.put a.1.key (.value a.2))
        | some _ => none)
    a.1.path origin es

/-- Adds values to a table, in order. -/
def assignAll (origin : Origin) (es : Entries) (as : List Assignment) : Option Entries :=
  as.foldlM (assign origin) es

/-- The table that assignments between braces make. -/
def inlineTable? (as : List Assignment) : Option Value :=
  (assignAll .declared [] as).map fun es => .table (entriesToTable es)

end LintHub.Toml
