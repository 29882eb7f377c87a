import LintHub.Json.Token

/-!
# Reading JSON

A machine over tokens with a stack of unfinished arrays and objects, so that depth
of nesting is no matter. `parse?` accepts exactly one value with nothing behind it.
-/

namespace LintHub.Json

/-- An array or object whose end has not come yet; what it holds is in reverse. -/
inductive Frame where
  | array (items : List Value)
  /-- An object waiting for the value of `key`. -/
  | object (members : List (Literal × Value)) (key : Literal)
  deriving Repr

/-- What may come next. -/
inductive Await where
  /-- A value. -/
  | value
  /-- A first item or the end of an array. -/
  | itemOrClose
  /-- A first key or the end of an object. -/
  | keyOrClose
  /-- A key of an object that holds `members`. -/
  | key (members : List (Literal × Value))
  /-- The colon behind a key. -/
  | colon (members : List (Literal × Value)) (key : Literal)
  /-- What follows a finished value: a comma, a closing mark or the end. -/
  | after (v : Value)
  deriving Repr

/-- The state of the machine. -/
structure Machine where
  stack : List Frame
  await : Await
  deriving Repr

namespace Machine

/-- A whole value from one token. -/
def scalar? : Token → Option Value
  | .null => some .null
  | .bool b => some (.bool b)
  | .number n => some (.number n)
  | .string s => some (.string s)
  | _ => none

/-- A value begins with this token. -/
def beginValue (stack : List Frame) (t : Token) : Option Machine :=
  match t with
  | .openBracket => some ⟨stack, .itemOrClose⟩
  | .openBrace => some ⟨stack, .keyOrClose⟩
  | t => (scalar? t).map fun v => ⟨stack, .after v⟩

/-- What follows the finished value `v`. -/
def finishValue (stack : List Frame) (v : Value) (t : Token) : Option Machine :=
  match stack, t with
  | .array items :: rest, .comma => some ⟨.array (v :: items) :: rest, .value⟩
  | .array items :: rest, .closeBracket => some ⟨rest, .after (.array (v :: items).reverse)⟩
  | .object members key :: rest, .comma => some ⟨rest, .key ((key, v) :: members)⟩
  | .object members key :: rest, .closeBrace =>
    some ⟨rest, .after (.object ((key, v) :: members).reverse)⟩
  | _, _ => none

/-- One step. An item begins with its array on the stack. -/
def step (m : Machine) (t : Token) : Option Machine :=
  match m.await, t with
  | .value, t => beginValue m.stack t
  | .itemOrClose, .closeBracket => some ⟨m.stack, .after (.array [])⟩
  | .itemOrClose, t => beginValue (.array [] :: m.stack) t
  | .keyOrClose, .closeBrace => some ⟨m.stack, .after (.object [])⟩
  | .keyOrClose, .string k => some ⟨m.stack, .colon [] k⟩
  | .key members, .string k => some ⟨m.stack, .colon members k⟩
  | .colon members k, .colon => some ⟨.object members k :: m.stack, .value⟩
  | .after v, t => finishValue m.stack v t
  | _, _ => none

/-- The value read, if reading is at its end. -/
def result? (m : Machine) : Option Value :=
  match m.stack, m.await with
  | [], .after v => some v
  | _, _ => none

end Machine

/-- The value that a sequence of tokens writes. -/
def ofTokens? (ts : List Token) : Option Value :=
  (ts.foldlM Machine.step ⟨[], .value⟩).bind Machine.result?

/-- The value that a text writes. -/
def parse? (s : String) : Option Value := (tokens? s.toList).bind ofTokens?

end LintHub.Json
