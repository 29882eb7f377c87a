/-!
# TOML values

What a TOML document says, once keys are resolved. Floating-point numbers and times
stay as they were written: no setting holds one.
-/

namespace LintHub.Toml

/-- A TOML value. -/
inductive Value where
  | string (s : String)
  | integer (n : Int)
  | boolean (b : Bool)
  /-- A floating-point number as written. -/
  | float (lexeme : String)
  /-- A date, a time or both, as written. -/
  | moment (lexeme : String)
  | array (items : List Value)
  /-- A table, in which every key stands once. -/
  | table (entries : List (String × Value))
  deriving Repr, Inhabited

/-- A table: keys with their values. -/
abbrev Table := List (String × Value)

/-- The value of a key. -/
def Table.get? (t : Table) (key : String) : Option Value := (t.find? fun e => e.1 == key).map (·.2)

end LintHub.Toml
