import LintHub.Json.Fields
import LintHub.Proofs.Text.Scanning
import Mathlib.Data.List.Forall2

/-!
# What JSON values say

A reader of JSON values is compared with a relation that says what it reads: numbers, texts, lists,
and records with fields that may be left out. Each reader finds what the relation names and
refuses all else, so a reader that is put together from others is known from their relations.

* `asNat?_eq_some_iff`: numbers.
* `fields?_eq_some_iff`: the fields of a record.
* `optionalField?_eq_some_iff`, `defaultField?_eq_some_iff`: fields that may be left out.
* `mapM_eq_some_iff`: lists, of which every item counts.
-/

namespace LintHub.Json

open Text

variable {α : Type} {v : Value} {n bound : Nat} {names : List String} {fs : List (Option Value)}
  {members : List (Literal × Value)} {name : String} {field : Option Value}
  {read : Value → Option α} {Says : Value → α → Prop} {fallback : α}

/-- A value is a natural number, written with digits alone. -/
def IsNat (v : Value) (n : Nat) : Prop :=
  ∃ ds, v = .number (String.ofList ds) ∧ IsNumber ds ∧ decimal ds = n

/-- **A number is read** if it is written with digits alone. -/
theorem asNat?_eq_some_iff : v.asNat? = some n ↔ IsNat v n := by
  constructor
  · intro h
    cases v with
    | number lexeme =>
      simp only [Value.asNat?, Option.ite_none_right_eq_some, Option.some.injEq] at h
      obtain ⟨⟨hne, hdigits⟩, rfl⟩ := h
      exact ⟨lexeme.toList, by rw [String.ofList_toList], ⟨hne, List.all_eq_true.1 hdigits⟩, rfl⟩
    | _ => cases h
  · rintro ⟨ds, rfl, hnumber, rfl⟩
    simp only [Value.asNat?, String.toList_ofList]
    exact if_pos ⟨hnumber.nonempty, List.all_eq_true.2 hnumber.digits⟩

theorem natBelow?_eq_some_iff : natBelow? bound v = some n ↔ IsNat v n ∧ n < bound := by
  simp only [natBelow?, bind, Option.bind_eq_some_iff, asNat?_eq_some_iff]
  constructor
  · rintro ⟨m, hm, h⟩
    split at h
    · cases h
      exact ⟨hm, ‹_›⟩
    · cases h
  · rintro ⟨hn, hlt⟩
    exact ⟨n, hn, if_pos hlt⟩

theorem asText?_eq_some_iff {s : String} : v.asText? = some s ↔ v = .text s := by
  cases v with
  | string t => simp [Value.asText?, Value.text]
  | _ => simp [Value.asText?, Value.text]

/-- What the members of an object say under a name: nothing, or a value. -/
inductive Under (members : List (Literal × Value)) (name : String) : Option Value → Prop where
  | absent (h : ∀ v, (some name, v) ∉ members) : Under members name none
  | given {v : Value} (h : (some name, v) ∈ members) : Under members name (some v)

/-- A value is a record with these fields: an object with texts as keys and no repetition among
the names, or the fields in a row, of which the last may be left out. -/
inductive HasFields (names : List String) : Value → List (Option Value) → Prop where
  | object {members : List (Literal × Value)} {fs : List (Option Value)}
      (texts : ∀ m ∈ members, m.1 ≠ none)
      (once : ∀ name ∈ names, members.countP (fun m => m.1 == some name) ≤ 1)
      (fields : List.Forall₂ (Under members) names fs) : HasFields names (.object members) fs
  | array {items : List Value} {rest : Nat} (length : items.length + rest = names.length) :
      HasFields names (.array items) (items.map some ++ List.replicate rest none)

/-- Where a name occurs at most once, the first value under it is the only one. -/
theorem lookupField_eq_iff (once : members.countP (fun m => m.1 == some name) ≤ 1) :
    lookupField members name = field ↔ Under members name field := by
  have hfound : Under members name (lookupField members name) := by
    unfold lookupField
    cases hfind : members.find? fun m => m.1 == some name with
    | none =>
      refine .absent fun v hmem => ?_
      exact List.find?_eq_none.1 hfind _ hmem (beq_self_eq_true (some name))
    | some m =>
      obtain ⟨key, v⟩ := m
      have hkey := List.find?_some hfind
      obtain rfl : key = some name := eq_of_beq hkey
      exact .given (List.mem_of_find?_eq_some hfind)
  constructor
  · rintro rfl
    exact hfound
  · intro h
    generalize lookupField members name = found at hfound
    cases hfound with
    | absent hnone =>
      cases h with
      | absent => rfl
      | given hmem => exact absurd hmem (hnone _)
    | @given v hv =>
      cases h with
      | absent hnone => exact absurd hv (hnone _)
      | @given w hw =>
        -- both are among the members that count, of which there is one
        have hkept {x : Value} (hx : (some name, x) ∈ members) :
            (some name, x) ∈ members.filter fun m => m.1 == some name :=
          List.mem_filter.2 ⟨hx, beq_self_eq_true (some name)⟩
        rw [List.countP_eq_length_filter] at once
        obtain ⟨m, hm⟩ := List.length_eq_one_iff.1
          (Nat.le_antisymm once (List.length_pos_of_mem (hkept hv)))
        have hv' := hkept hv
        have hw' := hkept hw
        rw [hm, List.mem_singleton] at hv' hw'
        rw [(Prod.mk.inj (hv'.trans hw'.symm)).2]

theorem map_lookupField_eq_iff
    (once : ∀ name ∈ names, members.countP (fun m => m.1 == some name) ≤ 1) :
    names.map (lookupField members) = fs ↔ List.Forall₂ (Under members) names fs := by
  induction names generalizing fs with
  | nil => simp [eq_comm]
  | cons name names ih =>
    obtain ⟨hname, hnames⟩ := List.forall_mem_cons.1 once
    cases fs with
    | nil => simp
    | cons f fs =>
      rw [List.map_cons, List.cons.injEq, List.forall₂_cons, lookupField_eq_iff hname, ih hnames]

/-- **The fields of a record** are read just as they are. -/
theorem fields?_eq_some_iff : fields? names v = some fs ↔ HasFields names v fs := by
  constructor
  · intro h
    cases v with
    | object members =>
      rw [fields?] at h
      split at h
      · cases h
      · rename_i htexts
        split at h
        · cases h
        · rename_i honce
          simp only [List.any_eq_true, decide_eq_true_eq, not_exists, not_and, Nat.not_lt] at honce
          refine .object (fun m hm hnone => htexts ?_) honce ?_
          · exact List.any_eq_true.2 ⟨m, hm, by rw [hnone]; rfl⟩
          · exact (map_lookupField_eq_iff honce).1 (Option.some.inj h)
    | array items =>
      rw [fields?] at h
      split at h
      · cases h
      · cases h
        exact .array (by omega)
    | _ => cases h
  · intro h
    cases h with
    | @object members fs texts once fields =>
      have htexts : ¬ members.any (·.1.isNone) = true := by
        rw [List.any_eq_true]
        rintro ⟨m, hm, hnone⟩
        exact texts m hm (Option.isNone_iff_eq_none.1 hnone)
      have honce : ¬ (names.any fun n => 1 < members.countP fun m => m.1 == some n) = true := by
        rw [List.any_eq_true]
        rintro ⟨name, hname, hmany⟩
        exact absurd (once name hname) (Nat.not_le.2 (of_decide_eq_true hmany))
      rw [fields?, if_neg htexts, if_neg honce, (map_lookupField_eq_iff once).2 fields]
    | @array items rest length =>
      have hrest : names.length - items.length = rest := by omega
      rw [fields?, if_neg (by omega), hrest]

/-- A field that may be left out, or be `null`, says this. -/
inductive Optional (Says : Value → α → Prop) : Option Value → Option α → Prop where
  | absent : Optional Says none none
  | null : Optional Says (some .null) none
  | given {v : Value} {a : α} (present : v ≠ .null) (said : Says v a) :
      Optional Says (some v) (some a)

/-- A field that stands for this if it is left out, says this. -/
inductive Defaulted (fallback : α) (Says : Value → α → Prop) : Option Value → α → Prop where
  | absent : Defaulted fallback Says none fallback
  | given {v : Value} {a : α} (said : Says v a) : Defaulted fallback Says (some v) a

/-- **A field that may be left out** is read if it is, or if its value is. -/
theorem optionalField?_eq_some_iff (h : ∀ v a, read v = some a ↔ Says v a) {a : Option α} :
    optionalField? read field = some a ↔ Optional Says field a := by
  unfold optionalField?
  split
  · constructor
    · rintro ⟨⟩
      exact .absent
    · rintro ⟨⟩
      rfl
  · constructor
    · rintro ⟨⟩
      exact .null
    · intro ha
      cases ha with
      | null => rfl
      | given present => exact absurd rfl present
  · rename_i v hnull
    rw [Option.map_eq_some_iff]
    constructor
    · rintro ⟨b, hb, rfl⟩
      exact .given hnull ((h v b).1 hb)
    · intro ha
      cases ha with
      | null => exact absurd rfl hnull
      | @given v b present said => exact ⟨b, (h v b).2 said, rfl⟩

theorem defaultField?_eq_some_iff (h : ∀ v a, read v = some a ↔ Says v a) {a : α} :
    defaultField? fallback read field = some a ↔ Defaulted fallback Says field a := by
  cases field with
  | none =>
    constructor
    · rintro ⟨⟩
      exact .absent
    · rintro ⟨⟩
      rfl
  | some v =>
    rw [defaultField?, h]
    constructor
    · exact .given
    · intro ha
      cases ha with
      | given said => exact said

/-- **A list is read** if all of its items are. -/
theorem mapM_eq_some_iff (h : ∀ v a, read v = some a ↔ Says v a) {items : List Value}
    {as : List α} : items.mapM read = some as ↔ List.Forall₂ Says items as := by
  induction items generalizing as with
  | nil => simp [eq_comm]
  | cons v items ih =>
    simp only [List.mapM_cons, bind, Option.bind_eq_some_iff, pure, Option.some.injEq]
    constructor
    · rintro ⟨a, ha, as, has, rfl⟩
      exact .cons ((h v a).1 ha) (ih.1 has)
    · intro has
      cases has with
      | @cons _ a _ as ha has => exact ⟨a, (h v a).2 ha, as, ih.2 has, rfl⟩

/-- A list says something if each of its items does. -/
theorem exists_forall₂_iff {items : List Value} :
    (∃ as, List.Forall₂ Says items as) ↔ ∀ v ∈ items, ∃ a, Says v a := by
  induction items with
  | nil => simp
  | cons v items ih =>
    rw [List.forall_mem_cons, ← ih]
    constructor
    · rintro ⟨as, has⟩
      cases has with
      | @cons _ a _ as ha has => exact ⟨⟨a, ha⟩, as, has⟩
    · rintro ⟨⟨a, ha⟩, as, has⟩
      exact ⟨a :: as, .cons ha has⟩

/-- A value is a list of these. -/
def IsList (Says : Value → α → Prop) (v : Value) (as : List α) : Prop :=
  ∃ items, v = .array items ∧ List.Forall₂ Says items as

theorem asList?_eq_some_iff {items : List Value} : v.asList? = some items ↔ v = .array items := by
  cases v with
  | array items => simp [Value.asList?]
  | _ => simp [Value.asList?]

end LintHub.Json
