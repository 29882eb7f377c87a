/-!
# Lines and fields

`lines` cuts a text at line feeds and drops one carriage return before each; a
carriage return anywhere else stays. `fields` cuts at every occurrence of a
character and keeps empty pieces.
-/

namespace LintHub.Text

/-- The pieces between occurrences of `sep`; always at least one. -/
def fields (sep : Char) : List Char → List (List Char)
  | [] => [[]]
  | c :: cs =>
    if c = sep then [] :: fields sep cs
    else match fields sep cs with
      | [] => [[c]]
      | f :: fs => (c :: f) :: fs

/-- The pieces joined again with `sep` between them. -/
def joinFields (sep : Char) : List (List Char) → List Char
  | [] => []
  | [f] => f
  | f :: g :: fs => f ++ sep :: joinFields sep (g :: fs)

/-- Drops one carriage return at the end. -/
def dropReturn : List Char → List Char
  | [] => []
  | ['\r'] => []
  | c :: cs => c :: dropReturn cs

/-- The lines of a text: each ends at a line feed, or at the end of the text if
something is left there. Only a line that a line feed ends loses a carriage return. -/
def lines : List Char → List (List Char) := go []
where
  /-- Reads on with the current line in reverse. -/
  go (line : List Char) : List Char → List (List Char)
    | [] => if line.isEmpty then [] else [line.reverse]
    | '\n' :: cs => dropReturn line.reverse :: go [] cs
    | c :: cs => go (c :: line) cs

theorem fields_ne_nil (sep : Char) (cs : List Char) : fields sep cs ≠ [] := by
  cases cs with
  | nil => simp [fields]
  | cons c cs =>
    rw [fields]
    split
    · simp
    · split <;> simp

/-- Cutting loses nothing: joining the fields gives the text back. -/
theorem joinFields_fields (sep : Char) (cs : List Char) : joinFields sep (fields sep cs) = cs := by
  induction cs with
  | nil => rfl
  | cons c cs ih =>
    have hne := fields_ne_nil sep cs
    rw [fields]
    split
    · rename_i h
      subst h
      cases hf : fields c cs with
      | nil => exact absurd hf hne
      | cons f fs => rw [hf] at ih; simp [joinFields, ih]
    · cases hf : fields sep cs with
      | nil => exact absurd hf hne
      | cons f fs =>
        rw [hf] at ih
        cases fs with
        | nil => simp_all [joinFields]
        | cons g gs => simp_all [joinFields]

end LintHub.Text
