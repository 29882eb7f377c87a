import Mathlib.Data.List.Induction
import LintHub.FileTree.Basic

/-!
# What stands where

The entries of a tree seen as a map from places, and what being a tree means there:
whatever stands somewhere stands in a directory (`hasDirectory_of_below`).

* `admits_of_vacant`, `admits_of_file`: where something may be put.
-/

namespace LintHub.FileTree

variable {t : FileTree} {k l : Place} {e : Entry}

theorem mem_of_lookup {es : List (Place × Entry)} (h : es.lookup k = some e) : (k, e) ∈ es := by
  induction es with
  | nil => cases h
  | cons x es ih =>
    obtain ⟨l, e'⟩ := x
    by_cases hk : k = l
    · subst hk
      simp at h
      simp [h]
    · have hne : (k == l) = false := by simpa using hk
      rw [List.lookup_cons, hne] at h
      exact List.mem_cons_of_mem _ (ih h)

theorem lookup_of_mem {es : List (Place × Entry)} (hes : (es.map Prod.fst).Nodup)
    (h : (k, e) ∈ es) : es.lookup k = some e := by
  induction es with
  | nil => cases h
  | cons x es ih =>
    obtain ⟨l, e'⟩ := x
    rw [List.map_cons, List.nodup_cons] at hes
    rcases List.mem_cons.1 h with heq | hmem
    · cases heq
      simp
    · have hne : (k == l) = false := by
        rw [beq_eq_false_iff_ne]
        rintro rfl
        exact hes.1 (List.mem_map.2 ⟨_, hmem, rfl⟩)
      rw [List.lookup_cons, hne]
      exact ih hes.2 hmem

theorem mem_entries_iff : (k, e) ∈ t.entries ↔ t.get? k = some e :=
  ⟨lookup_of_mem t.isTree.distinct, mem_of_lookup⟩

@[simp] theorem get?_root : t.get? [] = none := by
  cases h : t.get? [] with
  | none => rfl
  | some e => exact absurd rfl (t.isTree.rootless _ (mem_entries_iff.2 h))

theorem hasDirectory_iff : t.hasDirectory k = true ↔ k = [] ∨ t.get? k = some .directory := by
  simp [hasDirectory, Place.isHeldBy, get?]

theorem hasDirectory_of_get? (h : t.get? k = some .directory) : t.hasDirectory k = true :=
  hasDirectory_iff.2 (.inr h)

theorem hasDirectory_dropLast_of_get? (h : t.get? k = some e) :
    t.hasDirectory k.dropLast = true :=
  t.isTree.held _ (mem_entries_iff.2 h)

theorem hasDirectory_dropLast (h : t.hasDirectory k = true) : t.hasDirectory k.dropLast = true := by
  rcases hasDirectory_iff.1 h with rfl | h
  · rfl
  · exact hasDirectory_dropLast_of_get? h

/-- What stands below a place makes it a directory. -/
theorem hasDirectory_of_below (hb : Place.isBelow l k = true) (h : t.get? l = some e) :
    t.hasDirectory k = true := by
  obtain ⟨⟨rest, rfl⟩, hne⟩ := Place.isBelow_iff.1 hb
  induction rest using List.reverseRecOn generalizing e with
  | nil => simp at hne
  | append_singleton rest s ih =>
    rw [← List.append_assoc] at h
    have hup := hasDirectory_dropLast_of_get? h
    rw [List.dropLast_concat] at hup
    cases rest with
    | nil => simpa using hup
    | cons r rest =>
      rcases hasDirectory_iff.1 hup with hroot | hup
      · simp at hroot
      · have hne' : k ++ r :: rest ≠ k := by simp
        exact ih (Place.isBelow_iff.2 ⟨List.prefix_append _ _, hne'⟩) hup hne'

/-- Below anything but a directory stands nothing. -/
theorem get?_below (h : t.hasDirectory k = false) (hb : Place.isBelow l k = true) :
    t.get? l = none := by
  cases hl : t.get? l with
  | none => rfl
  | some e => rw [hasDirectory_of_below hb hl] at h; cases h

theorem isBelow_append_singleton (k : Place) (s : String) : Place.isBelow (k ++ [s]) k = true :=
  Place.isBelow_iff.2 ⟨List.prefix_append _ _, by simp⟩

/-- Where there is no directory, anything may stand that is held by one. -/
theorem admits_of_not_directory (hk : t.hasDirectory k = false)
    (hup : t.hasDirectory k.dropLast = true) (e : Entry) : t.admits k e = true := by
  have hroot : k ≠ [] := by
    rintro rfl
    cases hk
  have hall : ∀ x ∈ t.entries, Place.isBelow x.1 k = false := by
    intro x hx
    rw [← Bool.not_eq_true]
    intro hb
    rw [hasDirectory_of_below hb (mem_entries_iff.1 hx)] at hk
    cases hk
  simp only [admits, Bool.and_eq_true, Bool.or_eq_true, Bool.not_eq_true', beq_iff_eq,
    List.isEmpty_eq_false_iff, List.all_eq_true]
  exact ⟨⟨hroot, hup⟩, .inr hall⟩

theorem admits_of_vacant {s : String} (hdir : t.hasDirectory k = true)
    (h : t.get? (k ++ [s]) = none) (e : Entry) : t.admits (k ++ [s]) e = true := by
  refine admits_of_not_directory ?_ (by rwa [List.dropLast_concat]) e
  rw [← Bool.not_eq_true, hasDirectory_iff]
  simp [h]

theorem admits_of_file {content : Bytes} {mode : Nat} (h : t.get? k = some (.file content mode))
    (e : Entry) : t.admits k e = true := by
  refine admits_of_not_directory ?_ (hasDirectory_dropLast_of_get? h) e
  rw [← Bool.not_eq_true, hasDirectory_iff]
  rintro (rfl | hdir)
  · simp at h
  · rw [h] at hdir
    cases hdir

end LintHub.FileTree
