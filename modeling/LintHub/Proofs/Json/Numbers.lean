import LintHub.Json.Fields
import LintHub.Proofs.Json.RoundTrip
import LintHub.Proofs.Text.Scanning
import Mathlib.Data.List.Nodup
import Mathlib.Data.List.TakeWhile
import Mathlib.Tactic.IntervalCases

/-!
# Numbers and records in JSON

A natural number is written as JSON wants it, without zeros in front, and read back. A record
whose members have different names gives each of them back under its name.

* `isNumeral_nat`, `asNat?_nat`: numbers.
* `fields?_record`: records.
-/

namespace LintHub.Json

/-- Only zero is written with a zero in front. -/
theorem exists_toDigits {n : Nat} (hn : n ≠ 0) :
    ∃ c cs, Nat.toDigits 10 n = c :: cs ∧ c ≠ '0' := by
  induction n using Nat.strong_induction_on with
  | _ n ih =>
    by_cases hsmall : n < 10
    · refine ⟨n.digitChar, [], Nat.toDigits_of_lt_base hsmall, ?_⟩
      interval_cases n <;> first | exact absurd rfl hn | decide
    · obtain ⟨c, cs, hcs, hc⟩ := ih (n / 10) (by omega) (by omega)
      refine ⟨c, cs ++ [(n % 10).digitChar], ?_, hc⟩
      rw [Nat.toDigits_of_base_le (by decide) (by omega), hcs, List.cons_append]

theorem isNumber_cons {c : Char} {cs : List Char} (hdigits : ∀ d ∈ c :: cs, d.isDigit = true)
    (hc : c ≠ '0') : isNumber (c :: cs) = true := by
  have hminus : c ≠ '-' := by
    rintro rfl
    exact absurd (hdigits '-' (List.mem_cons_self ..)) (by decide)
  have hall : Text.digits (c :: cs) = (c :: cs, []) := by
    unfold Text.digits
    rw [List.takeWhile_eq_self_iff.2 hdigits, List.dropWhile_eq_nil_iff.2 hdigits]
  have hsome : someDigits? (c :: cs) = some [] := by rw [someDigits?, hall]
  have hwhole : dropWhole? (c :: cs) = some [] := by
    unfold dropWhole?
    split
    · rename_i heq
      exact absurd (List.cons.inj heq).1 hc
    · exact hsome
  unfold isNumber
  split
  · rename_i heq
    exact absurd (List.cons.inj heq).1 hminus
  · simp only [hwhole]
    rfl

/-- **A natural number** is written as JSON writes numbers. -/
theorem isNumeral_nat (n : Nat) : IsNumeral (toString n).toList := by
  have hdigits : (toString n).toList = Nat.toDigits 10 n := Text.numeral_eq n
  have hall (d : Char) (hd : d ∈ Nat.toDigits 10 n) : d.isDigit = true :=
    Nat.isDigit_of_mem_toDigits (by decide) (by decide) hd
  rw [hdigits]
  refine ⟨fun d hd => by simp [isNumberChar, hall d hd], ?_⟩
  by_cases hn : n = 0
  · subst hn
    decide
  · obtain ⟨c, cs, hcs, hc⟩ := exists_toDigits hn
    rw [hcs] at hall ⊢
    exact isNumber_cons hall hc

/-- A natural number is read back. -/
@[simp]
theorem asNat?_nat (n : Nat) : (Value.nat n).asNat? = some n := by
  have hnumber : Text.IsNumber (toString n).toList := Text.isNumber_numeral n
  simp only [Value.nat, Value.asNat?]
  rw [if_pos ⟨hnumber.nonempty, List.all_eq_true.2 hnumber.digits⟩]
  exact congrArg some (Text.decimal_numeral n)

theorem natBelow?_nat {bound n : Nat} (h : n < bound) : natBelow? bound (.nat n) = some n := by
  simp [natBelow?, h]

theorem Value.IsText.nat (n : Nat) : (Value.nat n).IsText := .number (isNumeral_nat n)

theorem Value.IsText.text (s : String) : (Value.text s).IsText := .string s

theorem Value.IsText.optional {α : Type} {f : α → Value} (hf : ∀ a, (f a).IsText) :
    ∀ a : Option α, (Value.optional f a).IsText
  | none => .null
  | some a => hf a

theorem Value.IsText.record {members : List (String × Value)} (h : ∀ m ∈ members, m.2.IsText) :
    (Value.record members).IsText := by
  refine .object ?_ ?_
  · intro m hm
    obtain ⟨n, -, rfl⟩ := List.mem_map.1 hm
    exact ⟨n.1, rfl⟩
  · intro m hm
    obtain ⟨n, hn, rfl⟩ := List.mem_map.1 hm
    exact h n hn

theorem lookupField_record (members : List (String × Value)) (name : String) :
    lookupField (members.map fun m => (some m.1, m.2)) name = members.lookup name := by
  induction members with
  | nil => rfl
  | cons m ms ih =>
    obtain ⟨known, v⟩ := m
    unfold lookupField at ih ⊢
    by_cases hm : name = known
    · simp [hm]
    · have hm' : (known == name) = false := by simpa using Ne.symm hm
      have hlookup : ((known, v) :: ms).lookup name = ms.lookup name := by
        rw [List.lookup_cons, show (name == known) = false by simpa using hm]
      rw [hlookup, ← ih, List.map_cons, List.find?_cons_of_neg (by simpa using hm')]

/-- **A record** gives its members back under their names, if these are different. -/
theorem fields?_record {members : List (String × Value)} (h : (members.map (·.1)).Nodup)
    (names : List String) :
    fields? names (.record members) = some (names.map fun n => members.lookup n) := by
  have hnames : (members.map fun m => (some m.1, m.2)).any (·.1.isNone) = false := by simp
  have honce (n : String) :
      (members.map fun m => ((some m.1 : Literal), m.2)).countP (fun m => m.1 == some n) ≤ 1 := by
    have hcount := List.nodup_iff_count_le_one.1 h n
    rw [List.countP_map]
    rw [List.count, List.countP_map] at hcount
    exact hcount
  have hrepeated : (names.any fun n => 1 < (members.map fun m =>
      ((some m.1 : Literal), m.2)).countP fun m => m.1 == some n) = false := by
    rw [List.any_eq_false]
    intro n _
    have := honce n
    simp only [decide_eq_true_eq]
    omega
  rw [Value.record, fields?]
  simp only [hnames, hrepeated, Bool.false_eq_true, if_false]
  exact congrArg some (List.map_congr_left fun n _ => lookupField_record members n)

end LintHub.Json
