import LintHub.Text.Scan

/-!
# What the scanners find

A scanner is given a text that was put together from the pieces it looks for. Words are found
up to ASCII case, and a run of digits ends where another character follows. The place of the
first hit is known if nothing in front of it looks like one (`shortest_append`), not even
across the border. Most marks cannot be cut by the border, since they begin with a character
that they have nowhere else (`scan_eq_none_of_mark`).

* `dropWord_eq_some_iff`: a word with what follows it.
* `cut_cases`, `cut_unique`: where a text with separators in it can be cut.
* `digits_append`, `decimal_numeral`: a number as it is printed.
* `shortest_eq_some_iff_first`: the first hit, said by its distance from the front.
* `twoNumbers?_eq_some_iff`: a position, which is two numbers with words around them, is read
  where it stands, and nothing else is.
* `replaceAll_eq_iff`: a text with every place of a part replaced.
-/

namespace LintHub.Text

variable {α : Type} {w cs ds rest : List Char}

/-- No other character differs from this one in case alone. -/
def Caseless (c : Char) : Prop := ∀ x : Char, x.toLower = c → x = c

/-- Lower case letters are the only characters that others become. -/
theorem caseless_of_lt {c : Char} (h : c.toNat < 97 ∨ 122 < c.toNat) : Caseless c := by
  intro x hx
  unfold Char.toLower at hx
  split at hx
  · rename_i hupper
    -- an upper case letter becomes a lower case one
    have hlower : c.val = x.val + ('a'.val - 'A'.val) := (congrArg Char.val hx).symm
    have hval : c.toNat = (x.val + ('a'.val - 'A'.val)).toNat := congrArg UInt32.toNat hlower
    have hge : 65 ≤ x.val.toNat := UInt32.le_iff_toNat_le.1 hupper.1
    have hle : x.val.toNat ≤ 90 := UInt32.le_iff_toNat_le.1 hupper.2
    have hdiff : ('a'.val - 'A'.val).toNat = 32 := by decide
    rw [UInt32.toNat_add, hdiff, Nat.mod_eq_of_lt (by omega)] at hval
    omega
  · exact hx

theorem sameWord_iff {v : List Char} :
    sameWord v w = true ↔ v.map Char.toLower = w.map Char.toLower := by
  unfold sameWord
  rw [beq_iff_eq]

theorem sameWord_refl (w : List Char) : sameWord w w = true := sameWord_iff.2 rfl

/-- **A word is read** where it stands, in any case, and what follows it is left. -/
theorem dropWord_eq_some_iff :
    dropWord w cs = some rest ↔ ∃ v, sameWord v w = true ∧ cs = v ++ rest := by
  induction w generalizing cs with
  | nil =>
    simp only [dropWord, Option.some.injEq, sameWord_iff, List.map_nil, List.map_eq_nil_iff]
    constructor
    · rintro rfl
      exact ⟨[], rfl, rfl⟩
    · rintro ⟨v, rfl, rfl⟩
      rfl
  | cons a w ih =>
    cases cs with
    | nil =>
      simp only [dropWord, reduceCtorEq, false_iff]
      rintro ⟨v, hv, hcs⟩
      obtain ⟨rfl, -⟩ := List.append_eq_nil_iff.1 hcs.symm
      cases hv
    | cons c cs =>
      rw [dropWord]
      constructor
      · intro h
        split at h
        · rename_i hc
          obtain ⟨v, hv, rfl⟩ := ih.1 h
          refine ⟨c :: v, ?_, rfl⟩
          rw [sameWord_iff] at hv ⊢
          rw [List.map_cons, List.map_cons, hc, hv]
        · cases h
      · rintro ⟨v, hv, hcs⟩
        rw [sameWord_iff] at hv
        cases v with
        | nil => cases hv
        | cons x v =>
          obtain ⟨hx, hrest⟩ := List.cons.inj hv
          obtain ⟨rfl, rfl⟩ := List.cons.inj hcs
          rw [if_pos hx]
          exact ih.2 ⟨v, sameWord_iff.2 hrest, rfl⟩

theorem dropWord_append {v : List Char} (h : sameWord v w = true) (rest : List Char) :
    dropWord w (v ++ rest) = some rest :=
  dropWord_eq_some_iff.2 ⟨v, h, rfl⟩

/-- None of the characters is a letter. -/
def hasNoLetter (w : List Char) : Bool :=
  w.all fun c => c.toLower == c && (decide (c.toNat < 97) || decide (122 < c.toNat))

/-- A word without letters is read only as it is. -/
theorem eq_of_sameWord {v : List Char} (hw : hasNoLetter w = true) (h : sameWord v w = true) :
    v = w := by
  rw [sameWord_iff] at h
  induction w generalizing v with
  | nil => exact List.map_eq_nil_iff.1 h
  | cons a w ih =>
    cases v with
    | nil => cases h
    | cons x v =>
      obtain ⟨hx, hv⟩ := List.cons.inj h
      simp only [hasNoLetter, List.all_cons, Bool.and_eq_true, beq_iff_eq, Bool.or_eq_true,
        decide_eq_true_eq] at hw
      obtain ⟨⟨hlower, hrange⟩, hrest⟩ := hw
      rw [caseless_of_lt hrange x (hx.trans hlower), ih hrest hv]

/-- A word and what is written behind it are each read for themselves. -/
theorem exists_append_of_sameWord {u v : List Char} (h : sameWord v (w ++ u) = true) :
    ∃ v₁ v₂, v = v₁ ++ v₂ ∧ sameWord v₁ w = true ∧ sameWord v₂ u = true := by
  rw [sameWord_iff, List.map_append] at h
  obtain ⟨v₁, v₂, rfl, h₁, h₂⟩ := List.map_eq_append_iff.1 h
  exact ⟨v₁, v₂, rfl, sameWord_iff.2 h₁, sameWord_iff.2 h₂⟩

theorem notMem_of_sameWord {v : List Char} {mark : Char} (h : sameWord v w = true)
    (hfree : mark.toLower ∉ w.map Char.toLower) : mark ∉ v := by
  intro hmem
  apply hfree
  rw [← sameWord_iff.1 h]
  exact List.mem_map_of_mem hmem

theorem toLower_of_isDigit {c : Char} (h : c.isDigit = true) : c.toLower = c := by
  have hle : c.toNat ≤ 57 := (Char.isDigit_iff_toNat.1 h).2
  unfold Char.toLower
  rw [dif_neg]
  rintro ⟨hge, -⟩
  have hupper : 65 ≤ c.toNat := UInt32.le_iff_toNat_le.1 hge
  omega

theorem not_digits_of_sameWord {v : List Char} (h : sameWord v w = true)
    (hletter : ∃ c ∈ w.map Char.toLower, c.isDigit = false) : ¬ ∀ c ∈ v, c.isDigit = true := by
  intro hdigits
  obtain ⟨c, hc, hletter⟩ := hletter
  rw [← sameWord_iff.1 h] at hc
  obtain ⟨x, hx, rfl⟩ := List.mem_map.1 hc
  have hdigit := hdigits x hx
  rw [toLower_of_isDigit hdigit, hdigit] at hletter
  cases hletter

/-- Another first character, another word. -/
theorem dropWord_eq_none {a c : Char} (h : c.toLower ≠ a.toLower) (w cs : List Char) :
    dropWord (a :: w) (c :: cs) = none := by
  rw [dropWord, if_neg h]

/-- What is written with digits alone, at least one. -/
structure IsNumber (ds : List Char) : Prop where
  nonempty : ds ≠ []
  digits : ∀ c ∈ ds, c.isDigit = true

theorem notMem_of_isNumber {mark : Char} (h : IsNumber ds) (hdigit : mark.isDigit = false) :
    mark ∉ ds := fun hmem => Bool.false_ne_true (hdigit.symm.trans (h.digits mark hmem))

/-- **A run of digits** ends where another character follows. -/
theorem digits_append (h : ∀ c ∈ ds, c.isDigit = true) {c : Char} (hc : c.isDigit = false)
    (rest : List Char) : digits (ds ++ c :: rest) = (ds, c :: rest) := by
  unfold digits
  rw [List.takeWhile_append_of_pos h, List.dropWhile_append_of_pos h]
  simp [hc]

theorem digits_spec (cs : List Char) :
    cs = (digits cs).1 ++ (digits cs).2 ∧ ∀ c ∈ (digits cs).1, c.isDigit = true := by
  have hall : (cs.takeWhile Char.isDigit).all Char.isDigit = true := List.all_takeWhile
  exact ⟨List.takeWhile_append_dropWhile.symm, List.all_eq_true.1 hall⟩

/-- A number in decimal digits. -/
def numeral (n : Nat) : List Char := (toString n).toList

theorem numeral_eq (n : Nat) : numeral n = Nat.toDigits 10 n := by
  unfold numeral
  rw [show toString n = n.repr from rfl, Nat.toList_repr]

theorem isNumber_numeral (n : Nat) : IsNumber (numeral n) := by
  rw [numeral_eq]
  exact ⟨Nat.toDigits_ne_nil, fun c hc => Nat.isDigit_of_mem_toDigits (by decide) (by decide) hc⟩

theorem decimal_numeral (n : Nat) : decimal (numeral n) = n := by
  rw [numeral_eq]
  exact Nat.ofDigitChars_toDigits (by decide) (by decide)

section Cut

variable {a b d e : List Char} {s : Char}

/-- A text is cut at its first separator, or behind it. -/
theorem cut_cases (h : a ++ s :: b = d ++ s :: e) (hd : s ∉ d) :
    (a = d ∧ b = e) ∨ ∃ a', a = d ++ s :: a' ∧ a' ++ s :: b = e := by
  rcases List.append_eq_append_iff.1 h with ⟨t, hdt, hrest⟩ | ⟨t, hat, hrest⟩
  · cases t with
    | nil =>
      rw [List.append_nil] at hdt
      exact .inl ⟨hdt.symm, (List.cons.inj hrest).2⟩
    | cons x t =>
      obtain ⟨rfl, -⟩ := List.cons.inj hrest
      exact absurd (by rw [hdt]; simp) hd
  · cases t with
    | nil =>
      rw [List.append_nil] at hat
      exact .inl ⟨hat, (List.cons.inj hrest).2.symm⟩
    | cons x t =>
      obtain ⟨rfl, he⟩ := List.cons.inj hrest
      exact .inr ⟨t, hat, he.symm⟩

/-- The first separator is one place only. -/
theorem cut_unique (h : a ++ s :: b = d ++ s :: e) (ha : s ∉ a) (hd : s ∉ d) :
    a = d ∧ b = e := by
  rcases cut_cases h hd with hsame | ⟨a', rfl, -⟩
  · exact hsame
  · exact absurd (by simp) ha

/-- And no separator stands in front of it. -/
theorem cut_length_le (h : a ++ s :: b = d ++ s :: e) (hd : s ∉ d) : d.length ≤ a.length := by
  rcases cut_cases h hd with ⟨rfl, -⟩ | ⟨a', rfl, -⟩
  · exact Nat.le_refl _
  · rw [List.length_append]
    exact Nat.le_add_right _ _

end Cut

section Shortest

variable {scan : List Char → Option α} {a : α} {before : List Char}

/-- **The first hit** is at the border, if there is none from any place in front of it on. -/
theorem shortest_append (hscan : scan rest = some a)
    (hnone : ∀ x q, before = x ++ q → q ≠ [] → scan (q ++ rest) = none) :
    shortest scan (before ++ rest) = some (before, a) :=
  (shortest_eq_some_iff scan _ before a).2 ⟨rest, rfl, hscan, hnone⟩

/-- The scanner finds this behind a part of a text. -/
def Finds (scan : List Char → Option α) (cs before : List Char) (a : α) : Prop :=
  ∃ rest, cs = before ++ rest ∧ scan rest = some a

/-- **The first hit** has the shortest text in front of it. -/
theorem shortest_eq_some_iff_first :
    shortest scan cs = some (before, a) ↔
      Finds scan cs before a ∧
        ∀ before' a', Finds scan cs before' a' → before.length ≤ before'.length := by
  rw [shortest_eq_some_iff]
  constructor
  · rintro ⟨rest, hcs, hscan, hnone⟩
    refine ⟨⟨rest, hcs, hscan⟩, ?_⟩
    rintro before' a' ⟨rest', hcs', hscan'⟩
    rcases List.append_eq_append_iff.1 (hcs.symm.trans hcs') with
      ⟨t, hbefore, -⟩ | ⟨t, hbefore, hrest⟩
    · rw [hbefore, List.length_append]
      exact Nat.le_add_right _ _
    · -- a hit inside the front is at its end
      by_cases ht : t = []
      · have hsame : before = before' := by rw [hbefore, ht, List.append_nil]
        exact Nat.le_of_eq (congrArg List.length hsame)
      · have hmiss := hnone before' t hbefore ht
        rw [← hrest, hscan'] at hmiss
        cases hmiss
  · rintro ⟨⟨rest, hcs, hscan⟩, hfirst⟩
    refine ⟨rest, hcs, hscan, fun x q hbefore hq => ?_⟩
    cases hhit : scan (q ++ rest) with
    | none => rfl
    | some b =>
      have hle := hfirst x b ⟨q ++ rest, by rw [hcs, hbefore, List.append_assoc], hhit⟩
      rw [hbefore, List.length_append] at hle
      have hpos := List.length_pos_iff.2 hq
      omega

theorem shortest_eq_none_iff :
    shortest scan cs = none ↔ ∀ before a, ¬ Finds scan cs before a := by
  constructor
  · induction cs with
    | nil =>
      rintro hnone before a ⟨rest, hcs, hscan⟩
      obtain ⟨rfl, rfl⟩ := List.append_eq_nil_iff.1 hcs.symm
      simp [shortest, hscan] at hnone
    | cons c cs ih =>
      rintro hnone before a ⟨rest, hcs, hscan⟩
      rw [shortest] at hnone
      cases hhere : scan (c :: cs) with
      | some b => simp [hhere] at hnone
      | none =>
        simp only [hhere, Option.map_eq_none_iff] at hnone
        cases before with
        | nil =>
          rw [List.nil_append] at hcs
          rw [← hcs, hhere] at hscan
          cases hscan
        | cons x before => exact ih hnone before a ⟨rest, (List.cons.inj hcs).2, hscan⟩
  · intro hnone
    cases hhit : shortest scan cs with
    | none => rfl
    | some r => exact absurd (shortest_eq_some_iff_first.1 hhit).1 (hnone r.1 r.2)

theorem finds_cons {c x : Char} :
    Finds scan (c :: cs) (x :: before) a ↔ x = c ∧ Finds scan cs before a := by
  constructor
  · rintro ⟨rest, hcs, hscan⟩
    obtain ⟨hc, htail⟩ := List.cons.inj hcs
    exact ⟨hc.symm, rest, htail, hscan⟩
  · rintro ⟨rfl, rest, rfl, hscan⟩
    exact ⟨rest, rfl, hscan⟩

/-- The same for a front that is not empty. -/
theorem shortestNonempty_eq_some_iff :
    shortestNonempty scan cs = some (before, a) ↔
      (before ≠ [] ∧ Finds scan cs before a) ∧
        ∀ before' a', before' ≠ [] → Finds scan cs before' a' → before.length ≤ before'.length := by
  cases cs with
  | nil =>
    refine ⟨nofun, ?_⟩
    rintro ⟨⟨hne, rest, hcs, -⟩, -⟩
    exact absurd (List.append_eq_nil_iff.1 hcs.symm).1 hne
  | cons c cs =>
    rw [shortestNonempty, Option.map_eq_some_iff]
    constructor
    · rintro ⟨⟨front, b⟩, hhit, heq⟩
      obtain ⟨rfl, rfl⟩ := Prod.mk.inj heq
      obtain ⟨hfinds, hfirst⟩ := shortest_eq_some_iff_first.1 hhit
      refine ⟨⟨by simp, finds_cons.2 ⟨rfl, hfinds⟩⟩, fun before' a' hne hfinds' => ?_⟩
      obtain ⟨x, front', rfl⟩ := List.exists_cons_of_ne_nil hne
      exact Nat.succ_le_succ (hfirst front' a' (finds_cons.1 hfinds').2)
    · rintro ⟨⟨hne, hfinds⟩, hfirst⟩
      obtain ⟨x, front, rfl⟩ := List.exists_cons_of_ne_nil hne
      obtain ⟨rfl, htail⟩ := finds_cons.1 hfinds
      refine ⟨(front, a), shortest_eq_some_iff_first.2 ⟨htail, fun front' a' hfinds' => ?_⟩, rfl⟩
      exact Nat.le_of_succ_le_succ (hfirst (x :: front') a' (by simp) (finds_cons.2 ⟨rfl, hfinds'⟩))

theorem shortestNonempty_eq_none_iff :
    shortestNonempty scan cs = none ↔ ∀ before a, before ≠ [] → ¬ Finds scan cs before a := by
  cases cs with
  | nil =>
    refine ⟨fun _ before a hne hfinds => ?_, fun _ => rfl⟩
    obtain ⟨rest, hcs, -⟩ := hfinds
    exact hne (List.append_eq_nil_iff.1 hcs.symm).1
  | cons c cs =>
    rw [shortestNonempty, Option.map_eq_none_iff, shortest_eq_none_iff]
    constructor
    · intro hnone before a hne hfinds
      obtain ⟨x, front, rfl⟩ := List.exists_cons_of_ne_nil hne
      exact hnone front a (finds_cons.1 hfinds).2
    · exact fun hnone before a hfinds =>
        hnone (c :: before) a (by simp) (finds_cons.2 ⟨rfl, hfinds⟩)

theorem shortestNonempty_append (hbefore : before ≠ []) (hscan : scan rest = some a)
    (hnone : ∀ x q, before = x ++ q → q ≠ [] → scan (q ++ rest) = none) :
    shortestNonempty scan (before ++ rest) = some (before, a) := by
  obtain ⟨c, before, rfl⟩ := List.exists_cons_of_ne_nil hbefore
  have htail : shortest scan (before ++ rest) = some (before, a) :=
    shortest_append hscan fun x q hq => hnone (c :: x) q (by rw [hq, List.cons_append])
  rw [List.cons_append, shortestNonempty, htail]
  rfl

/-- **No hit across the border**: a mark begins with a character that it has nowhere else, and
so does what comes behind the border. -/
theorem scan_eq_none_of_mark {IsMark : List Char → Prop} {mark : Char} {q : List Char}
    (hscan : ∀ cs b, scan cs = some b → ∃ m r, IsMark m ∧ cs = m ++ r)
    (hmark : ∀ m, IsMark m → ∃ tail, m = mark :: tail ∧ mark ∉ tail)
    (hfree : ∀ m, IsMark m → ¬ m <:+: before) (hrest : ∃ tail, rest = mark :: tail)
    {x : List Char} (hq : before = x ++ q) (hne : q ≠ []) : scan (q ++ rest) = none := by
  cases hhit : scan (q ++ rest) with
  | none => rfl
  | some b =>
    obtain ⟨m, r, hm, heq⟩ := hscan _ b hhit
    rcases List.append_eq_append_iff.1 heq with ⟨t, hcut, ht⟩ | ⟨t, hinside, -⟩
    · obtain ⟨tail, htail, honce⟩ := hmark m hm
      obtain ⟨rest', rfl⟩ := hrest
      cases t with
      -- the mark ends at the border
      | nil =>
        rw [List.append_nil] at hcut
        exact absurd ⟨x, [], by rw [hcut, hq, List.append_nil]⟩ (hfree m hm)
      -- the border cuts it, and its first character comes again
      | cons y t =>
        obtain ⟨rfl, -⟩ := List.cons.inj ht
        obtain ⟨z, q, rfl⟩ := List.exists_cons_of_ne_nil hne
        obtain ⟨-, htail'⟩ := List.cons.inj (htail.symm.trans hcut)
        exact absurd (by rw [htail']; simp) honce
    · exact absurd ⟨x, t, by rw [hq, hinside, List.append_assoc]⟩ (hfree m hm)

end Shortest

section TwoNumbers

variable {w₁ w₂ w₃ a b : List Char}

/-- A scanner for two numbers with words around them, and the text that follows. -/
def twoNumbers? (w₁ w₂ w₃ cs : List Char) : Option (List Char × List Char × List Char) := do
  let cs ← dropWord w₁ cs
  let (a, cs) := digits cs
  let cs ← dropWord w₂ cs
  let (b, cs) := digits cs
  let rest ← dropWord w₃ cs
  if a ≠ [] ∧ b ≠ [] ∧ rest ≠ [] then some (a, b, rest) else none

/-- Two numbers with words around them, these in any case. -/
inductive TwoNumbers (w₁ w₂ w₃ : List Char) : List Char → Prop where
  | mk {v₁ a v₂ b v₃ : List Char} (h₁ : sameWord v₁ w₁ = true) (ha : IsNumber a)
      (h₂ : sameWord v₂ w₂ = true) (hb : IsNumber b) (h₃ : sameWord v₃ w₃ = true) :
      TwoNumbers w₁ w₂ w₃ (v₁ ++ (a ++ (v₂ ++ (b ++ v₃))))

/-- What the scanner finds is there. -/
theorem of_twoNumbers? (h : twoNumbers? w₁ w₂ w₃ cs = some (a, b, rest)) :
    ∃ v₁ v₂ v₃, (sameWord v₁ w₁ = true ∧ sameWord v₂ w₂ = true ∧ sameWord v₃ w₃ = true) ∧
      (IsNumber a ∧ IsNumber b ∧ rest ≠ []) ∧
      cs = v₁ ++ (a ++ (v₂ ++ (b ++ (v₃ ++ rest)))) := by
  simp only [twoNumbers?, bind, Option.bind_eq_some_iff] at h
  obtain ⟨cs₁, h₁, cs₂, h₂, r, h₃, hhit⟩ := h
  obtain ⟨v₁, hv₁, rfl⟩ := dropWord_eq_some_iff.1 h₁
  obtain ⟨v₂, hv₂, hcs₁⟩ := dropWord_eq_some_iff.1 h₂
  obtain ⟨v₃, hv₃, hcs₂⟩ := dropWord_eq_some_iff.1 h₃
  split at hhit
  · rename_i hne
    cases hhit
    obtain ⟨ha, hda⟩ := digits_spec cs₁
    obtain ⟨hb, hdb⟩ := digits_spec cs₂
    refine ⟨v₁, v₂, v₃, ⟨hv₁, hv₂, hv₃⟩, ⟨⟨hne.1, hda⟩, ⟨hne.2.1, hdb⟩, hne.2.2⟩, ?_⟩
    rw [hcs₁, hb, hcs₂] at ha
    exact congrArg (v₁ ++ ·) ha
  · cases hhit

theorem exists_twoNumbers {hit : List Char × List Char × List Char}
    (h : twoNumbers? w₁ w₂ w₃ cs = some hit) : ∃ m r, TwoNumbers w₁ w₂ w₃ m ∧ cs = m ++ r := by
  obtain ⟨v₁, v₂, v₃, ⟨h₁, h₂, h₃⟩, ⟨ha, hb, -⟩, rfl⟩ := of_twoNumbers? h
  exact ⟨_, hit.2.2, ⟨h₁, ha, h₂, hb, h₃⟩, by simp only [List.append_assoc]⟩

/-- A digit is a digit in any case. -/
theorem isDigit_of_toLower_eq {x y : Char} (h : x.toLower = y.toLower) (hy : y.isDigit = false) :
    x.isDigit = false := by
  cases hx : x.isDigit with
  | false => rfl
  | true =>
    rw [toLower_of_isDigit hx] at h
    have hlt : x.toNat < 97 := by
      have hle : x.toNat ≤ 57 := (Char.isDigit_iff_toNat.1 hx).2
      omega
    obtain rfl : y = x := caseless_of_lt (.inl hlt) y h.symm
    rw [hy] at hx
    cases hx

/-- A run of digits ends at a word that does not begin with one. -/
theorem digits_append_word {v w : List Char} (ha : IsNumber a) (hv : sameWord v w = true)
    (hw : w.head?.map Char.isDigit = some false) (rest : List Char) :
    digits (a ++ (v ++ rest)) = (a, v ++ rest) := by
  obtain ⟨y, hy, hydigit⟩ := Option.map_eq_some_iff.1 hw
  obtain ⟨w, rfl⟩ := List.head?_eq_some_iff.1 hy
  cases v with
  | nil => cases sameWord_iff.1 hv
  | cons x v =>
    obtain ⟨hx, -⟩ := List.cons.inj (sameWord_iff.1 hv)
    exact digits_append ha.digits (isDigit_of_toLower_eq hx hydigit) (v ++ rest)

/-- **The scanner reads** two numbers with words around them, in any case, just where they stand,
if the words behind them do not begin with digits. -/
theorem twoNumbers?_eq_some_iff (h₂ : w₂.head?.map Char.isDigit = some false)
    (h₃ : w₃.head?.map Char.isDigit = some false) :
    twoNumbers? w₁ w₂ w₃ cs = some (a, b, rest) ↔
      ∃ v₁ v₂ v₃, (sameWord v₁ w₁ = true ∧ sameWord v₂ w₂ = true ∧ sameWord v₃ w₃ = true) ∧
        (IsNumber a ∧ IsNumber b ∧ rest ≠ []) ∧
        cs = v₁ ++ (a ++ (v₂ ++ (b ++ (v₃ ++ rest)))) := by
  refine ⟨of_twoNumbers?, ?_⟩
  rintro ⟨v₁, v₂, v₃, ⟨hv₁, hv₂, hv₃⟩, ⟨ha, hb, hrest⟩, rfl⟩
  have hfirst := digits_append_word ha hv₂ h₂ (b ++ (v₃ ++ rest))
  have hsecond := digits_append_word hb hv₃ h₃ rest
  simp only [twoNumbers?, bind, dropWord_append hv₁, dropWord_append hv₂, dropWord_append hv₃,
    Option.bind_some, hfirst, hsecond, ha.nonempty, hb.nonempty, hrest, ne_eq, not_false_eq_true,
    and_self, if_true]

theorem twoNumbers?_append (ha : IsNumber a) (h₂ : w₂.head?.map Char.isDigit = some false)
    (hb : IsNumber b) (h₃ : w₃.head?.map Char.isDigit = some false) (hrest : rest ≠ []) :
    twoNumbers? w₁ w₂ w₃ (w₁ ++ (a ++ (w₂ ++ (b ++ (w₃ ++ rest))))) = some (a, b, rest) :=
  (twoNumbers?_eq_some_iff h₂ h₃).2
    ⟨w₁, w₂, w₃, ⟨sameWord_refl w₁, sameWord_refl w₂, sameWord_refl w₃⟩, ⟨ha, hb, hrest⟩, rfl⟩

/-- The mark at the front of the first word comes nowhere else. -/
theorem TwoNumbers.eq_cons {mark : Char} {m : List Char} (h : TwoNumbers w₁ w₂ w₃ m)
    (hcase : Caseless mark) (hlower : mark.toLower = mark) (hdigit : mark.isDigit = false)
    (hmark : w₁.head? = some mark) (hfirst : mark.toLower ∉ w₁.tail.map Char.toLower)
    (hsecond : mark.toLower ∉ w₂.map Char.toLower) (hthird : mark.toLower ∉ w₃.map Char.toLower) :
    ∃ tail, m = mark :: tail ∧ mark ∉ tail := by
  obtain ⟨w, rfl⟩ := List.head?_eq_some_iff.1 hmark
  cases h with
  | @mk v₁ a v₂ b v₃ h₁ ha h₂ hb h₃ =>
    cases v₁ with
    | nil => cases sameWord_iff.1 h₁
    | cons x v =>
      obtain ⟨hx, hv⟩ := List.cons.inj (sameWord_iff.1 h₁)
      obtain rfl : x = mark := hcase x (hx.trans hlower)
      refine ⟨v ++ (a ++ (v₂ ++ (b ++ v₃))), rfl, ?_⟩
      simp only [List.mem_append, not_or]
      exact ⟨notMem_of_sameWord (sameWord_iff.2 hv) hfirst, notMem_of_isNumber ha hdigit,
        notMem_of_sameWord h₂ hsecond, notMem_of_isNumber hb hdigit,
        notMem_of_sameWord h₃ hthird⟩

end TwoNumbers

section Searching

variable {part new : List Char} {mark : Char}

theorem occursIn_iff : occursIn part cs = true ↔ part <:+: cs := by
  induction cs with
  | nil => rw [occursIn, List.isEmpty_iff, List.infix_nil]
  | cons c cs ih =>
    rw [occursIn, Bool.or_eq_true, List.isPrefixOf_iff_prefix, ih, List.infix_cons_iff]

/-- A text with every place of a part replaced, from the front on. -/
inductive Replaced (part new : List Char) : List Char → List Char → Prop where
  | nil : Replaced part new [] []
  /-- What is put there is not looked at again. -/
  | place {cs ds : List Char} (h : Replaced part new cs ds) :
      Replaced part new (part ++ cs) (new ++ ds)
  | keep {c : Char} {cs ds : List Char} (hno : ¬ part <+: c :: cs) (h : Replaced part new cs ds) :
      Replaced part new (c :: cs) (c :: ds)

theorem replaced_replaceAll_go (hpart : part ≠ []) {n : Nat} (hn : cs.length ≤ n) :
    Replaced part new cs (replaceAll.go part new n cs) := by
  induction n generalizing cs with
  | zero =>
    obtain rfl := List.length_eq_zero_iff.1 (Nat.le_zero.1 hn)
    exact .nil
  | succ n ih =>
    cases cs with
    | nil => exact .nil
    | cons c cs =>
      rw [replaceAll.go]
      split
      · rename_i hplace
        obtain ⟨rest, hrest⟩ := List.isPrefixOf_iff_prefix.1 hplace.2
        have hlength := congrArg List.length hrest
        have hpos := List.length_pos_iff.2 hpart
        rw [List.length_append] at hlength
        rw [← hrest, List.drop_left]
        exact .place (ih (by omega))
      · rename_i hno
        have hnot : ¬ part <+: c :: cs := by
          exact fun hprefix => hno ⟨hpart, List.isPrefixOf_iff_prefix.2 hprefix⟩
        exact .keep hnot (ih (Nat.le_of_succ_le_succ hn))

theorem Replaced.replaceAll_go (h : Replaced part new cs ds) (hpart : part ≠ []) {n : Nat}
    (hn : cs.length ≤ n) : replaceAll.go part new n cs = ds := by
  induction h generalizing n with
  | nil => cases n <;> rfl
  | @place cs ds _ ih =>
    obtain ⟨p, ps, rfl⟩ := List.exists_cons_of_ne_nil hpart
    obtain ⟨n, rfl⟩ : ∃ m, n = m + 1 := Nat.exists_eq_succ_of_ne_zero (by rintro rfl; cases hn)
    have hplace : (p :: ps).isPrefixOf (p :: (ps ++ cs)) = true := by
      exact List.isPrefixOf_iff_prefix.2 (List.prefix_append (p :: ps) cs)
    have hlength : cs.length ≤ n := by
      rw [List.length_append, List.length_cons] at hn
      omega
    have hdrop : (p :: (ps ++ cs)).drop (p :: ps).length = cs := List.drop_left
    rw [List.cons_append, replaceAll.go, if_pos ⟨hpart, hplace⟩, hdrop, ih hlength]
  | @keep c cs ds hno _ ih =>
    obtain ⟨n, rfl⟩ : ∃ m, n = m + 1 := Nat.exists_eq_succ_of_ne_zero (by rintro rfl; cases hn)
    rw [replaceAll.go, if_neg fun h => hno (List.isPrefixOf_iff_prefix.1 h.2),
      ih (Nat.le_of_succ_le_succ hn)]

/-- **Replacing** a part leaves the text in which each place of it is replaced. -/
theorem replaceAll_eq_iff (hpart : part ≠ []) :
    replaceAll part new cs = ds ↔ Replaced part new cs ds := by
  constructor
  · rintro rfl
    exact replaced_replaceAll_go hpart (Nat.le_refl _)
  · exact fun h => h.replaceAll_go hpart (Nat.le_refl _)

/-- Where the part does not stand, nothing is replaced. -/
theorem Replaced.of_absent (h : ¬ part <:+: cs) : Replaced part new cs cs := by
  induction cs with
  | nil => exact .nil
  | cons c cs ih =>
    obtain ⟨hhere, hlater⟩ := not_or.1 (mt List.infix_cons_iff.2 h)
    exact .keep hhere (ih hlater)

/-- Nor where it cannot begin. -/
theorem Replaced.append (h : Replaced (mark :: part) new rest ds) (hmark : mark ∉ cs) :
    Replaced (mark :: part) new (cs ++ rest) (cs ++ ds) := by
  induction cs with
  | nil => exact h
  | cons c cs ih =>
    obtain ⟨hc, hcs⟩ := not_or.1 (mt List.mem_cons.2 hmark)
    have hno : ¬ mark :: part <+: c :: (cs ++ rest) := by
      exact fun hprefix => hc (List.cons_prefix_cons.1 hprefix).1
    exact .keep hno (ih hcs)

end Searching

end LintHub.Text
