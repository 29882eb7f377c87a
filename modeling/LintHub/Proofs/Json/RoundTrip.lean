import LintHub.Json.Reader
import LintHub.Proofs.Json.Tokens

/-!
# Reading what was written

A value that JSON can say is read back from its text over several lines. The text is cut into
the tokens of the value, whatever blanks stand between them, and the machine that reads tokens
comes to the value, whatever stands on its stack.

* `Value.IsText.writesBefore`: the text of a value writes its tokens.
* `Value.IsText.takes`: the tokens of a value are read as the value.
* `parse?_pretty`: so the text is.
-/

namespace LintHub.Json

/-- A value that JSON can say: numbers are written as JSON writes them, and literals denote
texts. -/
inductive Value.IsText : Value → Prop where
  | null : IsText .null
  | bool (b : Bool) : IsText (.bool b)
  | number {lexeme : String} (h : IsNumeral lexeme.toList) : IsText (.number lexeme)
  | string (s : String) : IsText (.string (some s))
  | array {items : List Value} (h : ∀ v ∈ items, IsText v) : IsText (.array items)
  | object {members : List (Literal × Value)} (names : ∀ m ∈ members, ∃ name, m.1 = some name)
      (values : ∀ m ∈ members, IsText m.2) : IsText (.object members)

mutual

/-- The tokens of a value. -/
def tokensOf : Value → List Token
  | .null => [.null]
  | .bool b => [.bool b]
  | .number n => [.number n]
  | .string s => [.string s]
  | .array items => .openBracket :: (tokensOfItems items ++ [.closeBracket])
  | .object members => .openBrace :: (tokensOfMembers members ++ [.closeBrace])

/-- The tokens of items, with commas between them. -/
def tokensOfItems : List Value → List Token
  | [] => []
  | [v] => tokensOf v
  | v :: w :: vs => tokensOf v ++ .comma :: tokensOfItems (w :: vs)

/-- The tokens of members, with commas between them. -/
def tokensOfMembers : List (Literal × Value) → List Token
  | [] => []
  | [(k, v)] => .string k :: .colon :: tokensOf v
  | (k, v) :: m :: ms => .string k :: .colon :: (tokensOf v ++ .comma :: tokensOfMembers (m :: ms))

end

/-! ### From text to tokens -/

/-- A text writes these tokens, whatever follows it. -/
def Writes (cs : List Char) (ts : List Token) : Prop :=
  ∀ rest, tokens? (cs ++ rest) = (tokens? rest).map (ts ++ ·)

/-- A text writes these tokens in front of something that ends it. -/
def WritesBefore (cs : List Char) (ts : List Token) : Prop :=
  ∀ rest, IsDelimited rest → tokens? (cs ++ rest) = (tokens? rest).map (ts ++ ·)

theorem Writes.before {cs : List Char} {ts : List Token} (h : Writes cs ts) : WritesBefore cs ts :=
  fun rest _ => h rest

section Append

variable {as bs : List Char} {ts us : List Token}

theorem Writes.append (ha : Writes as ts) (hb : Writes bs us) : Writes (as ++ bs) (ts ++ us) := by
  intro rest
  rw [List.append_assoc, ha, hb, Option.map_map]
  simp only [Function.comp_def, List.append_assoc]

theorem Writes.append_before (ha : Writes as ts) (hb : WritesBefore bs us) :
    WritesBefore (as ++ bs) (ts ++ us) := by
  intro rest hrest
  rw [List.append_assoc, ha, hb rest hrest, Option.map_map]
  simp only [Function.comp_def, List.append_assoc]

/-- What comes behind a text and begins with `c` ends it. -/
theorem WritesBefore.append {c : Char} (ha : WritesBefore as ts) (hb : Writes (c :: bs) us)
    (hc : IsDelimited [c]) : Writes (as ++ c :: bs) (ts ++ us) := by
  intro rest
  have hrest : IsDelimited (c :: bs ++ rest) := hc
  rw [List.append_assoc, ha _ hrest, hb, Option.map_map]
  simp only [Function.comp_def, List.append_assoc]

end Append

theorem writes_mark {c : Char} {t : Token} (h : markToken? c = some t) : Writes [c] [t] :=
  tokens?_mark h

theorem writes_quote (s : String) : Writes (quote s).toList [.string (some s)] := tokens?_quote s

theorem toList_indentation (level : Nat) :
    (indentation level).toList = '\n' :: List.replicate (2 * level) ' ' := by
  simp [indentation]

theorem writes_indentation (level : Nat) : Writes (indentation level).toList [] := by
  intro rest
  rw [toList_indentation]
  have hblanks : ∀ c ∈ '\n' :: List.replicate (2 * level) ' ', isSpace c = true := by
    intro c hc
    rcases List.mem_cons.1 hc with rfl | hc
    · rfl
    · obtain rfl := List.eq_of_mem_replicate hc
      rfl
  rw [tokens?_spaces hblanks]
  simp

/-- Items or members between their marks, the closing one on a line of its own. -/
theorem writes_block (opening closing : Char) {t u : Token} {body : List Char} {ts : List Token}
    (hopening : markToken? opening = some t) (hclosing : markToken? closing = some u)
    (h : WritesBefore body ts) (level : Nat) :
    Writes (opening :: (body ++ ((indentation level).toList ++ [closing]))) (t :: (ts ++ [u])) := by
  have hend := (writes_indentation level).append (writes_mark hclosing)
  rw [toList_indentation] at hend ⊢
  exact (writes_mark hopening).append (h.append hend (isDelimited_cons rfl rfl []))

theorem isDelimited_comma : IsDelimited [','] := isDelimited_cons rfl rfl []

theorem writesBefore_prettyItems {items : List Value} (hne : items ≠ [])
    (h : ∀ v ∈ items, ∀ level, WritesBefore (prettyAt level v).toList (tokensOf v)) (level : Nat) :
    WritesBefore (prettyItems level items).toList (tokensOfItems items) := by
  induction items with
  | nil => exact absurd rfl hne
  | cons v vs ih =>
    have hv := (writes_indentation level).append_before (h v (List.mem_cons_self ..) level)
    cases vs with
    | nil =>
      rw [prettyItems, tokensOfItems, String.toList_append]
      exact hv
    | cons w vs =>
      have hrest := ih (by simp) fun u hu => h u (List.mem_cons_of_mem _ hu)
      rw [prettyItems, tokensOfItems]
      simp only [String.toList_append]
      rw [List.append_cons (tokensOf v)]
      exact (hv.append (writes_mark (c := ',') rfl) isDelimited_comma).append_before hrest

theorem writesBefore_prettyMembers {members : List (Literal × Value)} (hne : members ≠ [])
    (names : ∀ m ∈ members, ∃ name, m.1 = some name)
    (h : ∀ m ∈ members, ∀ level, WritesBefore (prettyAt level m.2).toList (tokensOf m.2))
    (level : Nat) :
    WritesBefore (prettyMembers level members).toList (tokensOfMembers members) := by
  induction members with
  | nil => exact absurd rfl hne
  | cons m ms ih =>
    obtain ⟨k, v⟩ := m
    obtain ⟨name, rfl⟩ := names (k, v) (List.mem_cons_self ..)
    have hblank : Writes [' '] [] := fun rest => by
      rw [List.singleton_append, tokens?_space rfl]
      simp
    have hname := ((writes_indentation level).append (writes_quote name)).append
      ((writes_mark (c := ':') rfl).append hblank)
    have hv := hname.append_before (h _ (List.mem_cons_self ..) level)
    cases ms with
    | nil =>
      rw [prettyMembers, tokensOfMembers]
      simpa [quoteLiteral, String.toList_append] using hv
    | cons m ms =>
      have hrest := ih (by simp) (fun n hn => names n (List.mem_cons_of_mem _ hn))
        fun n hn => h n (List.mem_cons_of_mem _ hn)
      have hall := (hv.append (writes_mark (c := ',') rfl) isDelimited_comma).append_before hrest
      rw [prettyMembers, tokensOfMembers]
      simpa [quoteLiteral, String.toList_append] using hall

/-- **The text of a value** writes its tokens. -/
theorem Value.IsText.writesBefore {v : Value} (h : v.IsText) (level : Nat) :
    WritesBefore (prettyAt level v).toList (tokensOf v) := by
  induction h generalizing level with
  | null =>
    intro rest hrest
    rw [prettyAt, tokensOf]
    exact tokens?_word rfl rfl (by decide) rfl rfl rfl hrest
  | bool b =>
    intro rest hrest
    cases b with
    | true =>
      rw [prettyAt, tokensOf]
      exact tokens?_word rfl rfl (by decide) rfl rfl rfl hrest
    | false =>
      rw [prettyAt, tokensOf]
      exact tokens?_word rfl rfl (by decide) rfl rfl rfl hrest
  | number hlexeme =>
    intro rest hrest
    rw [prettyAt, tokensOf, tokens?_number hlexeme hrest, String.ofList_toList]
    rfl
  | string s =>
    rw [prettyAt, tokensOf]
    exact (writes_quote s).before
  | @array items _ ih =>
    cases items with
    | nil =>
      rw [prettyAt, tokensOf, tokensOfItems]
      exact ((writes_mark (c := '[') rfl).append (writes_mark (c := ']') rfl)).before
    | cons v vs =>
      rw [prettyAt, tokensOf]
      have hblock := writes_block '[' ']' rfl rfl
        (writesBefore_prettyItems (by simp) ih (level + 1)) level
      simpa [String.toList_append] using hblock.before
  | @object members names _ ih =>
    cases members with
    | nil =>
      rw [prettyAt, tokensOf, tokensOfMembers]
      exact ((writes_mark (c := '{') rfl).append (writes_mark (c := '}') rfl)).before
    | cons m ms =>
      rw [prettyAt, tokensOf]
      have hblock := writes_block '{' '}' rfl rfl
        (writesBefore_prettyMembers (by simp) names ih (level + 1)) level
      simpa [String.toList_append] using hblock.before

/-! ### From tokens to the value -/

/-- Tokens lead the machine from one state to another. -/
def Takes (m : Machine) (ts : List Token) (m' : Machine) : Prop :=
  ts.foldlM Machine.step m = some m'

namespace Takes

variable {m m' m'' : Machine} {t : Token} {ts us : List Token}

theorem nil (m : Machine) : Takes m [] m := rfl

theorem one (h : m.step t = some m') : Takes m [t] m' := by
  unfold Takes
  rw [List.foldlM_cons, h]
  rfl

theorem append (h : Takes m ts m') (h' : Takes m' us m'') : Takes m (ts ++ us) m'' := by
  unfold Takes at h h' ⊢
  rw [List.foldlM_append, h]
  exact h'

theorem cons (h : m.step t = some m') (h' : Takes m' ts m'') : Takes m (t :: ts) m'' :=
  (one h).append h'

end Takes

/-- No value begins with a closing bracket. -/
theorem exists_tokensOf (v : Value) : ∃ t ts, tokensOf v = t :: ts ∧ t ≠ .closeBracket := by
  cases v with
  | null => exact ⟨_, _, rfl, nofun⟩
  | bool b => exact ⟨_, _, rfl, nofun⟩
  | number n => exact ⟨_, _, rfl, nofun⟩
  | string s => exact ⟨_, _, rfl, nofun⟩
  | array items =>
    exact ⟨.openBracket, tokensOfItems items ++ [.closeBracket], by rw [tokensOf], nofun⟩
  | object members =>
    exact ⟨.openBrace, tokensOfMembers members ++ [.closeBrace], by rw [tokensOf], nofun⟩

/-- The first item of an array is read like any other. -/
theorem step_itemOrClose {t : Token} (h : t ≠ .closeBracket) (stack : List Frame) :
    Machine.step ⟨stack, .itemOrClose⟩ t = Machine.step ⟨.array [] :: stack, .value⟩ t := by
  cases t <;> first | rfl | exact absurd rfl h

theorem takes_tokensOfItems {items : List Value} (hne : items ≠ [])
    (h : ∀ v ∈ items, ∀ stack, Takes ⟨stack, .value⟩ (tokensOf v) ⟨stack, .after v⟩)
    (done : List Value) (stack : List Frame) :
    Takes ⟨.array done :: stack, .value⟩ (tokensOfItems items ++ [.closeBracket])
      ⟨stack, .after (.array (done.reverse ++ items))⟩ := by
  induction items generalizing done with
  | nil => exact absurd rfl hne
  | cons v vs ih =>
    have hv := h v (List.mem_cons_self ..) (.array done :: stack)
    cases vs with
    | nil =>
      rw [tokensOfItems]
      refine hv.append (.one ?_)
      rw [← List.reverse_cons]
      rfl
    | cons w vs =>
      have hrest := ih (by simp) (fun u hu => h u (List.mem_cons_of_mem _ hu)) (v :: done)
      rw [List.reverse_cons, List.append_assoc, List.singleton_append] at hrest
      rw [tokensOfItems, List.append_assoc, List.cons_append]
      exact hv.append (.cons rfl hrest)

theorem takes_tokensOfMembers {members : List (Literal × Value)} (hne : members ≠ [])
    (h : ∀ m ∈ members, ∀ stack, Takes ⟨stack, .value⟩ (tokensOf m.2) ⟨stack, .after m.2⟩)
    (done : List (Literal × Value)) (stack : List Frame) :
    Takes ⟨stack, .key done⟩ (tokensOfMembers members ++ [.closeBrace])
      ⟨stack, .after (.object (done.reverse ++ members))⟩ := by
  induction members generalizing done with
  | nil => exact absurd rfl hne
  | cons m ms ih =>
    obtain ⟨k, v⟩ := m
    have hv := h (k, v) (List.mem_cons_self ..) (.object done k :: stack)
    cases ms with
    | nil =>
      rw [tokensOfMembers]
      refine .cons rfl (.cons rfl (hv.append (.one ?_)))
      rw [← List.reverse_cons]
      rfl
    | cons m ms =>
      have hrest := ih (by simp) (fun n hn => h n (List.mem_cons_of_mem _ hn)) ((k, v) :: done)
      rw [List.reverse_cons, List.append_assoc, List.singleton_append] at hrest
      rw [tokensOfMembers]
      simp only [List.cons_append, List.append_assoc]
      exact .cons rfl (.cons rfl (hv.append (.cons rfl hrest)))

/-- **The tokens of a value** are read as the value. -/
theorem Value.IsText.takes {v : Value} (h : v.IsText) (stack : List Frame) :
    Takes ⟨stack, .value⟩ (tokensOf v) ⟨stack, .after v⟩ := by
  induction h generalizing stack with
  | null => exact .one rfl
  | bool b => exact .one rfl
  | number _ => exact .one rfl
  | string s => exact .one rfl
  | @array items _ ih =>
    rw [tokensOf]
    refine .cons rfl ?_
    cases items with
    | nil =>
      rw [tokensOfItems]
      exact .one rfl
    | cons v vs =>
      have hitems := takes_tokensOfItems (by simp) ih [] stack
      obtain ⟨t, ts, hts, ht⟩ : ∃ t ts, tokensOfItems (v :: vs) = t :: ts ∧ t ≠ .closeBracket := by
        obtain ⟨t, ts, hts, ht⟩ := exists_tokensOf v
        cases vs with
        | nil => exact ⟨t, ts, by rw [tokensOfItems, hts], ht⟩
        | cons w vs => exact ⟨t, _, by rw [tokensOfItems, hts]; rfl, ht⟩
      unfold Takes at hitems ⊢
      rw [hts, List.cons_append, List.foldlM_cons] at hitems ⊢
      rw [step_itemOrClose ht]
      exact hitems
  | @object members _ _ ih =>
    rw [tokensOf]
    refine .cons rfl ?_
    cases members with
    | nil =>
      rw [tokensOfMembers]
      exact .one rfl
    | cons m ms =>
      -- a first key is read like any other
      have hmembers := takes_tokensOfMembers (by simp) ih [] stack
      obtain ⟨k, v⟩ := m
      cases ms <;> exact hmembers

/-- **A value is read back** from its text, with any blanks behind it. -/
theorem parse?_pretty {v : Value} (h : v.IsText) (blanks : String)
    (hblanks : ∀ c ∈ blanks.toList, isSpace c = true) (hend : IsDelimited blanks.toList) :
    parse? (pretty v ++ blanks) = some v := by
  have hnone : tokens? blanks.toList = some [] := by
    have hspaces := tokens?_spaces hblanks []
    rwa [List.append_nil] at hspaces
  have htokens : tokens? (pretty v ++ blanks).toList = some (tokensOf v) := by
    rw [String.toList_append, pretty, h.writesBefore 0 _ hend, hnone]
    simp
  rw [parse?, htokens, Option.bind_some, ofTokens?, show _ = _ from h.takes []]
  rfl

end LintHub.Json
