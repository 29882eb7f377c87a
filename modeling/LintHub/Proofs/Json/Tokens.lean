import LintHub.Json.Token
import LintHub.Json.Writer
import Mathlib.Data.List.Basic

/-!
# The tokens of a written text

Reading tokens is bounded by a number of steps; as each token takes at least one character, the
length of the text is bound enough, and `tokens?` obeys equations without any bound. By these
each kind of token is read back from the text that is written for it, whatever follows.

* `tokens?_of_nextToken?`: one token, and the tokens of the rest.
* `tokens?_quote`: a literal denotes the text that it was written for.
* `tokens?_number`, `tokens?_word`, `tokens?_mark`: the other tokens.
-/

namespace LintHub.Json

theorem pieces?_length {cs rest : List Char} {ps : List Piece} (h : pieces? cs = some (ps, rest)) :
    rest.length < cs.length := by
  fun_induction pieces? cs generalizing ps rest with
  | case1 => cases h
  | case2 cs =>
    cases h
    simp
  | case3 a b c d cs ih =>
    simp only [Option.bind_eq_bind, Option.bind_eq_some_iff] at h
    obtain ⟨n, -, ⟨qs, after⟩, hqs, heq⟩ := h
    cases heq
    have := ih hqs
    simp only [List.length_cons]
    omega
  | case4 e cs _ ih =>
    simp only [Option.bind_eq_bind, Option.bind_eq_some_iff] at h
    obtain ⟨c, -, ⟨qs, after⟩, hqs, heq⟩ := h
    cases heq
    have := ih hqs
    simp only [List.length_cons]
    omega
  | case5 => cases h
  | case6 c cs _ _ _ _ ih =>
    simp only [Option.bind_eq_bind, Option.bind_eq_some_iff] at h
    obtain ⟨⟨qs, after⟩, hqs, heq⟩ := h
    cases heq
    have := ih hqs
    simp only [List.length_cons]
    omega

/-- A token takes at least one character. -/
theorem nextToken?_length {c : Char} {cs rest : List Char} {t : Token}
    (h : nextToken? (c :: cs) = some (t, rest)) : rest.length ≤ cs.length := by
  have hdrop (p : Char → Bool) (hc : p c = true) :
      ((c :: cs).dropWhile p).length ≤ cs.length := by
    rw [List.dropWhile_cons_of_pos hc]
    exact (List.dropWhile_sublist p).length_le
  unfold nextToken? at h
  simp only at h
  split at h
  · cases h
    exact Nat.le_refl _
  · split at h
    · obtain ⟨⟨ps, after⟩, hps, heq⟩ := Option.map_eq_some_iff.1 h
      cases heq
      exact Nat.le_of_lt (pieces?_length hps)
    · split at h
      · rename_i hnumber
        split at h
        · cases h
          exact hdrop isNumberChar hnumber
        · cases h
      · obtain ⟨word, hword, heq⟩ := Option.map_eq_some_iff.1 h
        cases heq
        -- a word is not empty, so its first character is a letter
        have halpha : c.isAlpha = true := by
          by_contra hno
          rw [List.takeWhile_cons_of_neg hno] at hword
          cases hword
        exact hdrop Char.isAlpha halpha

/-- Steps enough for a text are enough for any other count. -/
theorem tokensWithin_eq {n m : Nat} {cs : List Char} (hn : cs.length ≤ n) (hm : cs.length ≤ m) :
    tokensWithin n cs = tokensWithin m cs := by
  induction n generalizing m cs with
  | zero =>
    obtain rfl := List.eq_nil_of_length_eq_zero (Nat.le_zero.1 hn)
    cases m <;> rfl
  | succ n ih =>
    rw [tokensWithin, tokensWithin]
    have hle : (cs.dropWhile isSpace).length ≤ cs.length := (List.dropWhile_sublist _).length_le
    cases hcs : cs.dropWhile isSpace with
    | nil => rfl
    | cons c r =>
      rw [hcs, List.length_cons] at hle
      obtain ⟨m, rfl⟩ : ∃ k, m = k + 1 := ⟨m - 1, by omega⟩
      simp only
      cases hnext : nextToken? (c :: r) with
      | none => rfl
      | some next =>
        obtain ⟨t, rest⟩ := next
        have hrest := nextToken?_length hnext
        exact congrArg (Option.map (t :: ·)) (ih (by omega) (by omega))

theorem tokensWithin_eq_tokens? {n : Nat} {cs : List Char} (h : cs.length ≤ n) :
    tokensWithin n cs = tokens? cs :=
  tokensWithin_eq h (Nat.le_refl _)

@[simp] theorem tokens?_nil : tokens? [] = some [] := rfl

theorem tokens?_space {c : Char} (h : isSpace c = true) (cs : List Char) :
    tokens? (c :: cs) = tokens? cs := by
  rw [← tokensWithin_eq_tokens? (Nat.le_succ cs.length)]
  unfold tokens?
  rw [List.length_cons, tokensWithin, tokensWithin, List.dropWhile_cons_of_pos h]

/-- Blanks between tokens do not count. -/
theorem tokens?_spaces {blanks : List Char} (h : ∀ c ∈ blanks, isSpace c = true) (cs : List Char) :
    tokens? (blanks ++ cs) = tokens? cs := by
  induction blanks with
  | nil => rfl
  | cons c blanks ih =>
    rw [List.cons_append, tokens?_space (h c (List.mem_cons_self ..))]
    exact ih fun b hb => h b (List.mem_cons_of_mem _ hb)

/-- **One token**, and the tokens of the rest. -/
theorem tokens?_of_nextToken? {c : Char} {cs rest : List Char} {t : Token}
    (hspace : isSpace c = false) (h : nextToken? (c :: cs) = some (t, rest)) :
    tokens? (c :: cs) = (tokens? rest).map (t :: ·) := by
  have hlength := nextToken?_length h
  rw [tokens?, List.length_cons, tokensWithin,
    List.dropWhile_cons_of_neg (Bool.not_eq_true _ ▸ hspace)]
  simp only [h]
  rw [tokensWithin_eq_tokens? hlength]

/-! ### Marks -/

theorem isSpace_of_markToken? {c : Char} {t : Token} (h : markToken? c = some t) :
    isSpace c = false := by
  unfold markToken? at h
  split at h <;> first | rfl | cases h

theorem tokens?_mark {c : Char} {t : Token} (h : markToken? c = some t) (rest : List Char) :
    tokens? (c :: rest) = (tokens? rest).map (t :: ·) := by
  refine tokens?_of_nextToken? (isSpace_of_markToken? h) ?_
  unfold nextToken?
  simp only [h]

/-! ### Literals -/

/-- How a character of a text is written in a literal: a control character without a letter of
its own by its number, any other as a character. -/
def pieceOf (c : Char) : Piece :=
  if c.toNat < 0x20 ∧ c.toNat ∉ [8, 9, 10, 12, 13] then .unit c.toNat else .char c

theorem hex4?_control {n : Nat} (h : n < 0x20) :
    hex4? '0' '0' (hexChar (n / 16)) (hexChar (n % 16)) = some n := by
  have hall : ∀ n < 0x20, hex4? '0' '0' (hexChar (n / 16)) (hexChar (n % 16)) = some n := by decide
  exact hall n h

theorem pieces?_escapeChar (c : Char) (cs : List Char) :
    pieces? (escapeChar c ++ cs) = (pieces? cs).map fun p => (pieceOf c :: p.1, p.2) := by
  have hletter (e : Char) (hu : e ≠ 'u') (he : simpleEscape? e = some c)
      (hc : pieceOf c = .char c) :
      pieces? ('\\' :: e :: cs) = (pieces? cs).map fun p => (pieceOf c :: p.1, p.2) := by
    rw [pieces?.eq_4 e cs fun _ _ _ _ _ h => absurd h hu, he, hc]
    cases pieces? cs <;> rfl
  have hofNat {n : Nat} (h : c.toNat = n) : c = Char.ofNat n := by rw [← h, Char.ofNat_toNat]
  unfold escapeChar
  split
  · rename_i h
    subst h
    exact hletter '"' (by decide) rfl rfl
  split
  · rename_i h
    subst h
    exact hletter '\\' (by decide) rfl rfl
  split
  · rename_i h
    subst h
    exact hletter 'n' (by decide) rfl rfl
  split
  · rename_i h
    subst h
    exact hletter 'r' (by decide) rfl rfl
  split
  · rename_i h
    subst h
    exact hletter 't' (by decide) rfl rfl
  split
  · rename_i h
    obtain rfl := hofNat h
    exact hletter 'b' (by decide) rfl rfl
  split
  · rename_i h
    obtain rfl := hofNat h
    exact hletter 'f' (by decide) rfl rfl
  rename_i hquote hback hn hr ht hb hf
  split
  -- by number
  · rename_i hcontrol
    have hnone : c.toNat ∉ [8, 9, 10, 12, 13] := by
      intro hmem
      simp only [List.mem_cons, List.not_mem_nil, or_false] at hmem
      rcases hmem with h | h | h | h | h
      · exact hb h
      · exact ht (hofNat h)
      · exact hn (hofNat h)
      · exact hf h
      · exact hr (hofNat h)
    rw [pieceOf, if_pos ⟨hcontrol, hnone⟩]
    simp only [List.cons_append, List.nil_append]
    rw [pieces?.eq_3, hex4?_control hcontrol]
    cases pieces? cs <;> rfl
  · rename_i hplain
    rw [pieceOf, if_neg fun h => hplain h.1]
    simp only [List.cons_append, List.nil_append]
    rw [pieces?.eq_5 c cs hquote (fun _ _ _ _ _ h => absurd h hback) (fun _ _ h => absurd h hback),
      if_neg (by simp [hplain, hback])]
    cases pieces? cs <;> rfl

theorem pieces?_flatMap_escapeChar (cs rest : List Char) :
    pieces? (cs.flatMap escapeChar ++ '"' :: rest) = some (cs.map pieceOf, rest) := by
  induction cs with
  | nil => rfl
  | cons c cs ih =>
    rw [List.flatMap_cons, List.append_assoc, pieces?_escapeChar, ih]
    rfl

/-- A number that is no half of a surrogate pair stands for its character, whatever follows. -/
theorem assemble_unit {n : Nat} (hhigh : isHighHalf n = false) (hlow : isLowHalf n = false)
    (ps : List Piece) : assemble (.unit n :: ps) = (assemble ps).map (Char.ofNat n :: ·) := by
  cases ps with
  | nil => simp [assemble, hhigh, hlow]
  | cons p ps =>
    cases p with
    | char c => simp [assemble, hhigh, hlow]
    | unit l => simp [assemble, hhigh, hlow]

theorem assemble_map_pieceOf (cs : List Char) : assemble (cs.map pieceOf) = some cs := by
  induction cs with
  | nil => rfl
  | cons c cs ih =>
    rw [List.map_cons, pieceOf]
    split
    · rename_i h
      have hhigh : isHighHalf c.toNat = false := by
        unfold isHighHalf
        simp only [Bool.and_eq_false_iff, decide_eq_false_iff_not]
        omega
      have hlow : isLowHalf c.toNat = false := by
        unfold isLowHalf
        simp only [Bool.and_eq_false_iff, decide_eq_false_iff_not]
        omega
      rw [assemble_unit hhigh hlow, ih, Char.ofNat_toNat]
      rfl
    · rw [assemble, ih]
      rfl

/-- **A literal** denotes the text that it was written for. -/
theorem tokens?_quote (s : String) (rest : List Char) :
    tokens? ((quote s).toList ++ rest) = (tokens? rest).map (.string (some s) :: ·) := by
  have hquote : (quote s).toList ++ rest = '"' :: (s.toList.flatMap escapeChar ++ '"' :: rest) := by
    simp [quote]
  rw [hquote]
  refine tokens?_of_nextToken? rfl ?_
  rw [nextToken?]
  simp only [show markToken? '"' = none from rfl, if_true, pieces?_flatMap_escapeChar,
    assemble_map_pieceOf, Option.map_some, String.ofList_toList]

/-! ### Numbers and words -/

/-- What follows a number or a word and ends it. -/
def IsDelimited (rest : List Char) : Prop :=
  ∀ c ∈ rest.head?, isNumberChar c = false ∧ c.isAlpha = false

theorem isDelimited_cons {c : Char} (hnumber : isNumberChar c = false) (halpha : c.isAlpha = false)
    (rest : List Char) : IsDelimited (c :: rest) := by
  intro d hd
  obtain rfl : c = d := by simpa using hd
  exact ⟨hnumber, halpha⟩

/-- The longest front part of one class is cut where something else follows. -/
theorem takeWhile_dropWhile_append {p : Char → Bool} {cs rest : List Char}
    (h : ∀ c ∈ cs, p c = true) (hrest : ∀ c ∈ rest.head?, p c = false) :
    (cs ++ rest).takeWhile p = cs ∧ (cs ++ rest).dropWhile p = rest := by
  rw [List.takeWhile_append_of_pos h, List.dropWhile_append_of_pos h]
  cases rest with
  | nil => simp
  | cons c rest =>
    have hc : p c = false := hrest c rfl
    simp [hc]

/-- A number as JSON writes it. -/
structure IsNumeral (lexeme : List Char) : Prop where
  chars : ∀ c ∈ lexeme, isNumberChar c = true
  number : isNumber lexeme = true

theorem IsNumeral.ne_nil {lexeme : List Char} (h : IsNumeral lexeme) : lexeme ≠ [] := by
  rintro rfl
  exact absurd h.number (by decide)

/-- A character of a number is no blank, no mark and no quote. -/
theorem of_isNumberChar {c : Char} (h : isNumberChar c = true) :
    isSpace c = false ∧ markToken? c = none ∧ c ≠ '"' := by
  have hne (d : Char) (hd : isNumberChar d = false) : c ≠ d := by
    rintro rfl
    rw [hd] at h
    cases h
  refine ⟨?_, ?_, hne _ (by decide)⟩
  · simp [isSpace, hne ' ' (by decide), hne '\n' (by decide), hne '\t' (by decide),
      hne '\r' (by decide)]
  · unfold markToken?
    split
    · exact absurd rfl (hne '{' (by decide))
    · exact absurd rfl (hne '}' (by decide))
    · exact absurd rfl (hne '[' (by decide))
    · exact absurd rfl (hne ']' (by decide))
    · exact absurd rfl (hne ',' (by decide))
    · exact absurd rfl (hne ':' (by decide))
    · rfl

/-- **A number** ends where something else follows. -/
theorem tokens?_number {lexeme rest : List Char} (h : IsNumeral lexeme) (hrest : IsDelimited rest) :
    tokens? (lexeme ++ rest) = (tokens? rest).map (.number (String.ofList lexeme) :: ·) := by
  obtain ⟨c, cs, rfl⟩ := List.exists_cons_of_ne_nil h.ne_nil
  have hc := h.chars c (List.mem_cons_self ..)
  obtain ⟨hspace, hmark, hquote⟩ := of_isNumberChar hc
  obtain ⟨htake, hdrop⟩ := takeWhile_dropWhile_append h.chars fun d hd => (hrest d hd).1
  rw [List.cons_append] at htake hdrop ⊢
  refine tokens?_of_nextToken? hspace ?_
  rw [nextToken?]
  simp only [hmark, if_neg hquote, if_pos hc, htake, hdrop, if_pos h.number]

/-- **A bare word** ends where something else follows. -/
theorem tokens?_word {c : Char} {cs rest : List Char} {t : Token} (hspace : isSpace c = false)
    (hmark : markToken? c = none) (hquote : c ≠ '"') (hnumber : isNumberChar c = false)
    (halpha : (c :: cs).all Char.isAlpha = true) (h : wordToken? (c :: cs) = some t)
    (hrest : IsDelimited rest) : tokens? (c :: cs ++ rest) = (tokens? rest).map (t :: ·) := by
  obtain ⟨htake, hdrop⟩ := takeWhile_dropWhile_append (List.all_eq_true.1 halpha)
    fun d hd => (hrest d hd).2
  rw [List.cons_append] at htake hdrop ⊢
  refine tokens?_of_nextToken? hspace ?_
  rw [nextToken?]
  simp only [hmark, if_neg hquote, hnumber, htake, hdrop, h]
  rfl

end LintHub.Json
