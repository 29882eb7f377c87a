import LintHub.Text.Scan

/-!
# JSON values

A value keeps what a later reader may still have to judge: a number stays as it
was written, and a string literal whose escapes name half a surrogate pair is
well-formed JSON that denotes no text (`Literal` is then `none`). Objects keep
their members in order, with repetitions.
-/

namespace LintHub.Json

/-- The text a string literal denotes, if its escapes make sense. -/
abbrev Literal := Option String

/-- A JSON value. -/
inductive Value where
  | null
  | bool (b : Bool)
  /-- A number as written. -/
  | number (lexeme : String)
  | string (s : Literal)
  | array (items : List Value)
  | object (members : List (Literal × Value))
  deriving Repr, Inhabited

namespace Value

/-- A text. -/
def text (s : String) : Value := .string (some s)

/-- A natural number. -/
def nat (n : Nat) : Value := .number (toString n)

/-- An integer. -/
def int (n : Int) : Value := .number (toString n)

/-- An object with these members. -/
def record (members : List (String × Value)) : Value :=
  .object (members.map fun m => (some m.1, m.2))

/-- The value given, or `null`. -/
def optional (f : α → Value) : Option α → Value
  | none => .null
  | some a => f a

/-- The first member with this name. -/
def member? (v : Value) (name : String) : Option Value :=
  match v with
  | .object members => (members.find? fun m => m.1 == some name).map (·.2)
  | _ => none

/-- The text of a string value. -/
def asText? : Value → Option String
  | .string s => s
  | _ => none

/-- The members of an object whose values are texts. -/
def textMembers : Value → List (String × String)
  | .object members => members.filterMap fun
    | (some name, .string (some text)) => some (name, text)
    | _ => none
  | _ => []

/-- The items of an array. -/
def asList? : Value → Option (List Value)
  | .array items => some items
  | _ => none

/-- A number written with digits alone. -/
def asNat? : Value → Option Nat
  | .number lexeme =>
    let ds := lexeme.toList
    if ds ≠ [] ∧ ds.all Char.isDigit then some (Text.decimal ds) else none
  | _ => none

/-- The truth value. -/
def asBool? : Value → Option Bool
  | .bool b => some b
  | _ => none

end Value
end LintHub.Json
