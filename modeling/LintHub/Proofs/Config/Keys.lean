import LintHub.Config
import Mathlib.Data.List.Basic

/-!
# The settings and what is written for them

A setting has a key: the section and the name under which a document writes it, and the shape of
what it holds (`Key`). A section gives a value to a key by name, or by its place where names are
left out (`Key.Writes`), and a value of the right shape means what the setting is to hold
(`Shape.Means`).

* `Shape.ofValue?_eq_some_iff`: a value is read just if it means something, as what it means.
* `fields?_of_isSection`: what is found in a section.
-/

namespace LintHub.Setting

open Toml (Value Table)

/-- What a setting may hold. -/
inductive Shape where
  | flag | texts | path | number

namespace Shape

/-- The type of what a setting holds. -/
def Content : Shape → Type
  | .flag => Bool
  | .texts => List String
  | .path => Option Path
  | .number => Nat

/-- What a value of the right type means. -/
inductive Means : (shape : Shape) → Value → shape.Content → Prop
  | flag (b : Bool) : Means .flag (.boolean b) b
  | texts (xs : List String) : Means .texts (.array (xs.map .string)) xs
  | path (x : String) : Means .path (.string x) (some ⟨x⟩)
  | number (n : Nat) : Means .number (.integer n) n

/-- How a value is read. -/
def ofValue? : (shape : Shape) → Value → Option shape.Content
  | .flag => bool?
  | .texts => texts?
  | .path => path?
  | .number => nat?

variable {shape : Shape} {v : Value} {a : shape.Content}

theorem bool?_eq_some_iff {b : Bool} : bool? v = some b ↔ v = .boolean b := by
  cases v <;> simp [bool?]

theorem text?_eq_some_iff {x : String} : text? v = some x ↔ v = .string x := by
  cases v <;> simp [text?]

theorem path?_eq_some_iff {p : Option Path} :
    path? v = some p ↔ ∃ x, v = .string x ∧ p = some ⟨x⟩ := by
  unfold path?
  simp only [Option.map_eq_some_iff, text?_eq_some_iff]
  simp only [eq_comm]

theorem nat?_eq_some_iff {n : Nat} : nat? v = some n ↔ v = .integer n := by
  cases v with
  | integer z =>
    rw [nat?, Value.integer.injEq]
    split
    · rw [Option.some.injEq]
      omega
    · simp only [reduceCtorEq, false_iff]
      omega
  | _ => simp [nat?]

theorem mapM_text?_eq_some_iff {items : List Value} {xs : List String} :
    items.mapM text? = some xs ↔ items = xs.map .string := by
  induction items generalizing xs with
  | nil => cases xs <;> simp
  | cons v items ih =>
    cases xs with
    | nil => simp [List.mapM_cons, Option.bind_eq_some_iff]
    | cons x xs => simp [List.mapM_cons, Option.bind_eq_some_iff, text?_eq_some_iff, ih]

theorem texts?_eq_some_iff {xs : List String} :
    texts? v = some xs ↔ v = .array (xs.map .string) := by
  cases v with
  | array items => rw [texts?, mapM_text?_eq_some_iff, Value.array.injEq]
  | _ => simp [texts?]

/-- **A value is read** if it has the right type, as what it means. -/
theorem ofValue?_eq_some_iff : shape.ofValue? v = some a ↔ shape.Means v a := by
  constructor
  · intro h
    cases shape with
    | flag =>
      obtain rfl := bool?_eq_some_iff.1 h
      exact .flag a
    | texts =>
      obtain rfl := texts?_eq_some_iff.1 h
      exact .texts a
    | path =>
      obtain ⟨x, rfl, rfl⟩ := path?_eq_some_iff.1 h
      exact .path x
    | number =>
      obtain rfl := nat?_eq_some_iff.1 h
      exact .number a
  · intro h
    cases h with
    | flag b => exact bool?_eq_some_iff.2 rfl
    | texts xs => exact texts?_eq_some_iff.2 rfl
    | path x => exact path?_eq_some_iff.2 ⟨x, rfl, rfl⟩
    | number n => exact nat?_eq_some_iff.2 rfl

end Shape

/-- What a section writes under a name, or in a place. -/
def written? (s : Value) (i : Nat) (name : String) : Option Value :=
  match s with
  | .table entries => Table.get? entries name
  | .array items => items[i]?
  | _ => none

/-- The settings. -/
inductive Key where
  /-- Whether a linter runs. -/
  | runs (kind : Kind)
  | ignore
  | ignoreMinified
  | execDir
  | bundleDir
  | minModules
  | extraPath

namespace Key

/-- What a setting may hold. -/
def shape : Key → Shape
  | .runs _ | .ignoreMinified => .flag
  | .ignore => .texts
  | .execDir | .bundleDir | .extraPath => .path
  | .minModules => .number

/-- The section that writes a setting. -/
def part : Key → String
  | .runs _ => "linters"
  | .ignore | .ignoreMinified => "files"
  | .execDir | .bundleDir | .minModules | .extraPath => "environment"

/-- The name of a setting in its section. -/
def name : Key → String
  | .runs kind => kind.tool
  | .ignore => "ignore"
  | .ignoreMinified => "ignore_minified"
  | .execDir => "exec_dir"
  | .bundleDir => "bundle_dir"
  | .minModules => "min_modules"
  | .extraPath => "extra_path"

/-- The place of a setting in a section without names. -/
def position : Key → Nat
  | .runs kind => kind.rank
  | .ignore | .execDir => 0
  | .ignoreMinified | .bundleDir => 1
  | .minModules => 2
  | .extraPath => 3

/-- What a setting holds unless something is written. -/
def fallback : (k : Key) → k.shape.Content
  | .runs _ | .ignoreMinified => true
  | .ignore => ["/node_modules/", "/bower_components/", "/typings/", "/lib/"]
  | .execDir | .bundleDir | .extraPath => none
  | .minModules => (36 : Nat)

/-- What a setting holds in a configuration. -/
def held (c : Config) : (k : Key) → k.shape.Content
  | .runs kind => c.isEnabled kind
  | .ignore => c.files.ignore
  | .ignoreMinified => c.files.ignoreMinified
  | .execDir => c.environment.execDir
  | .bundleDir => c.environment.bundleDir
  | .minModules => c.environment.minModules
  | .extraPath => c.environment.extraPath

variable {k : Key} {v s : Value} {t : Table}

/-- A section writes a value for a setting: under its name, or where names are left out in its
place. -/
inductive Writes (k : Key) : Value → Value → Prop
  | named {entries : Table} {v : Value} (there : entries.get? k.name = some v) :
    Writes k (.table entries) v
  | placed {items : List Value} {v : Value} (there : items[k.position]? = some v) :
    Writes k (.array items) v

/-- The value that a section writes for a setting. -/
def field? (k : Key) (s : Value) : Option Value := written? s k.position k.name

theorem field?_eq_some_iff : k.field? s = some v ↔ k.Writes s v := by
  constructor
  · intro h
    unfold field? written? at h
    split at h
    · exact .named h
    · exact .placed h
    · cases h
  · rintro (there | there)
    · exact there
    · exact there

end Key

/-- What may stand for a section: names with values, values alone, or a date or time, in which
nothing is written. -/
inductive IsSection : Value → Prop
  | table (entries : Table) : IsSection (.table entries)
  | array (items : List Value) : IsSection (.array items)
  | moment (lexeme : String) : IsSection (.moment lexeme)

theorem fields?_of_isSection {s : Value} (h : IsSection s) (names : List String) :
    fields? names s = some (names.mapIdx (written? s)) := by
  cases h with
  | table entries =>
    rw [fields?, Option.some.injEq]
    refine List.ext_getElem? fun i => ?_
    rw [List.getElem?_map, List.getElem?_mapIdx]
    rfl
  | array items =>
    rw [fields?, Option.some.injEq]
    refine List.ext_getElem? fun i => ?_
    rw [List.getElem?_mapIdx, List.getElem?_append, List.getElem?_take, List.getElem?_replicate]
    simp only [List.length_take, List.length_map, List.getElem?_map]
    by_cases hi : i < names.length
    · have hname : names[i]? = some names[i] := List.getElem?_eq_getElem hi
      by_cases hitem : i < items.length
      · rw [if_pos (by omega), if_pos hi, List.getElem?_eq_getElem hitem, hname]
        simp [written?, hitem]
      · rw [if_neg (by omega), if_pos (by omega), hname]
        simp [written?, List.getElem?_eq_none (Nat.not_lt.1 hitem)]
    · rw [if_neg (by omega), if_neg (by omega), List.getElem?_eq_none (Nat.not_lt.1 hi)]
      rfl
  | moment lexeme =>
    rw [fields?, Option.some.injEq]
    refine List.ext_getElem? fun i => ?_
    rw [List.getElem?_map, List.getElem?_mapIdx]
    rfl

theorem fields?_of_not_isSection {s : Value} (h : ¬ IsSection s) (names : List String) :
    fields? names s = none := by
  cases s with
  | table entries => exact absurd (.table entries) h
  | array items => exact absurd (.array items) h
  | moment lexeme => exact absurd (.moment lexeme) h
  | _ => rfl

end LintHub.Setting
