import LintHub.Json.Value

/-!
# Records in JSON

A record may be written as an object, or as an array of its fields in order. In an
object, unknown members are passed over, a known one may occur once, and every key
must denote a text; in an array there may be fewer items than fields, not more.
-/

namespace LintHub.Json

/-- The first value under a name. -/
def lookupField (members : List (Literal × Value)) (name : String) : Option Value :=
  (members.find? fun m => m.1 == some name).map (·.2)

/-- The values of the named fields, `none` for a field left out. -/
def fields? (names : List String) : Value → Option (List (Option Value))
  | .object members =>
    if members.any (·.1.isNone) then none
    else if names.any fun n => 1 < members.countP fun m => m.1 == some n then none
    else some (names.map (lookupField members))
  | .array items =>
    if names.length < items.length then none
    else some (items.map some ++ List.replicate (names.length - items.length) none)
  | _ => none

/-- A natural number below `bound`, written with digits alone. -/
def natBelow? (bound : Nat) (v : Value) : Option Nat := do
  let n ← v.asNat?
  if n < bound then some n else none

/-- A value that may be left out or `null`. -/
def optionalField? (read : Value → Option α) : Option Value → Option (Option α)
  | none => some none
  | some .null => some none
  | some v => (read v).map some

/-- A value that takes `fallback` when it is left out. -/
def defaultField? (fallback : α) (read : Value → Option α) : Option Value → Option α
  | none => some fallback
  | some v => read v

/-- One word of a fixed set: written as a string, or as an object with this one
member and the value `null`. -/
def word? : Value → Option String
  | .string s => s
  | .object [(s, .null)] => s
  | _ => none

end LintHub.Json
