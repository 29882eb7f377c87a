import LintHub.Text.Utf8

/-!
# Settings of repositories

Of the settings that a user keeps for all repositories one counts here: `excludesFile`
names a file with further rules. A settings file is searched for the first line that
holds it, wherever in the file that line stands. The value is one word, which a quotation
mark on either side may enclose; blanks may stand everywhere between the parts, and they
may be line feeds.

* `value?_isSome_iff`: a word is a value exactly when one of its ends closes.
-/

namespace LintHub.Ignore.Settings

/-- The byte of an ASCII character. -/
def ascii (c : Char) : UInt8 := UInt8.ofNat c.toNat

/-- Blanks, the line feed among them. -/
def isBlank (b : UInt8) : Bool := (9 ≤ b && b ≤ 13) || b == 32

/-- What is left behind blanks. -/
def skip (bs : Bytes) : Bytes := bs.dropWhile isBlank

/-- Whether nothing but blanks stands before the end of some line or of the file. -/
def endsLine : Bytes → Bool
  | [] => true
  | b :: bs => b == ascii '\n' || (isBlank b && endsLine bs)

/-- Whether a value may end here: at the end of a line, or at a quotation mark there. -/
def closes (bs : Bytes) : Bool :=
  endsLine bs ||
    match skip bs with
    | b :: bs => b == ascii '"' && endsLine bs
    | [] => false

/-- The shortest word at the front behind which a value may end. -/
def value? : Bytes → Option Bytes
  | [] => none
  | b :: bs =>
    if isBlank b then none
    else if closes bs then some [b]
    else (value? bs).map (b :: ·)

/-- The value behind an opening quotation mark; the mark belongs to the value if there is
none without it. -/
def quotedValue? (bs : Bytes) : Option Bytes :=
  match bs with
  | b :: rest =>
    match if b == ascii '"' then value? (skip rest) else none with
    | some v => some v
    | none => value? bs
  | [] => none

/-- What is left behind a word, in which small and capital letters are the same. -/
def dropWord : List Char → Bytes → Option Bytes
  | [], bs => some bs
  | c :: cs, b :: bs =>
    if b == ascii c || b == ascii c.toUpper then dropWord cs bs else none
  | _ :: _, [] => none

/-- The value of the setting if it is the next thing in a file. -/
def here? (bs : Bytes) : Option Bytes :=
  match dropWord "excludesfile".toList (skip bs) with
  | none => none
  | some rest =>
    match skip rest with
    | b :: rest => if b == ascii '=' then quotedValue? (skip rest) else none
    | [] => none

/-- The first value that stands behind the start of a line, where this may be one. -/
def search? (isStart : Bool) : Bytes → Option Bytes
  | [] => none
  | b :: bs =>
    match if isStart then here? (b :: bs) else none with
    | some v => some v
    | none => search? (b == ascii '\n') bs

/-- The value of the setting in a file; one that is no text counts as none. -/
def excludesFile? (bs : Bytes) : Option (List Char) := (search? true bs).bind Text.decode?

theorem value?_isSome_iff (bs : Bytes) :
    (value? bs).isSome = true ↔
      ∃ word rest, bs = word ++ rest ∧ word ≠ [] ∧ (∀ b ∈ word, isBlank b = false) ∧
        closes rest = true := by
  induction bs with
  | nil => simp [value?]
  | cons b bs ih =>
    rw [value?]
    by_cases hb : isBlank b = true
    · simp only [hb, if_true, Option.isSome_none, Bool.false_eq_true, false_iff]
      rintro ⟨word, rest, h, hne, hall, -⟩
      cases word with
      | nil => exact hne rfl
      | cons x xs =>
        obtain ⟨rfl, -⟩ := List.cons.inj h
        simp [hall b (by simp)] at hb
    · by_cases hc : closes bs = true
      · simp only [hb, hc, if_true, Bool.false_eq_true, if_false, Option.isSome_some, true_iff]
        exact ⟨[b], bs, rfl, by simp, by simpa using hb, hc⟩
      · simp only [hb, hc, Bool.false_eq_true, if_false, Option.isSome_map, ih]
        constructor
        · rintro ⟨word, rest, rfl, hne, hall, h⟩
          exact ⟨b :: word, rest, rfl, by simp, by simpa using ⟨by simpa using hb, hall⟩, h⟩
        · rintro ⟨word, rest, h, hne, hall, hcl⟩
          cases word with
          | nil => exact absurd rfl hne
          | cons x xs =>
            obtain ⟨rfl, rfl⟩ := List.cons.inj h
            cases xs with
            | nil => exact absurd hcl hc
            | cons y ys =>
              exact ⟨y :: ys, rest, rfl, by simp, fun c hc => hall c (by simp [hc]), hcl⟩

end LintHub.Ignore.Settings
