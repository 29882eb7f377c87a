import LintHub.Path
import LintHub.Text.Utf8

/-!
# File trees

A tree is a map from places to entries. A place is the list of names on the way from
the root; what a path leads to is worked out in `LintHub.FileTree.Lookup`. The tree
also knows the place where relative paths start.

* `IsTree`: the entries form a tree; every change keeps that, so a `FileTree` carries it.
* `get?_put`, `get?_erase`, `get?_eraseBelow`: what the basic changes do to the map.
-/

namespace LintHub

/-- A place: the names on the way from the root. -/
abbrev Place := List String

/-- What stands at a place. -/
inductive Entry where
  | directory
  /-- A file with its permission bits. -/
  | file (content : Bytes) (mode : Nat)
  /-- A symbolic link to the path with this text. -/
  | link (target : String)
  deriving DecidableEq, Repr, Inhabited

/-- Whether entries make a place one that others can stand in: the root, or a directory. -/
def Place.isHeldBy (k : Place) (entries : List (Place × Entry)) : Bool :=
  k.isEmpty || entries.lookup k == some .directory

/-- Whether a place is below another one. -/
def Place.isBelow (k l : Place) : Bool := l.isPrefixOf k && k != l

namespace Place

theorem isBelow_iff {k l : Place} : isBelow k l = true ↔ l <+: k ∧ k ≠ l := by
  simp [isBelow]

theorem isBelow_eq_false_iff {k l : Place} : isBelow k l = false ↔ (l <+: k → k = l) := by
  rw [← Bool.not_eq_true, isBelow_iff]
  exact ⟨fun h hp => Classical.byContradiction fun hne => h ⟨hp, hne⟩, fun h hb => hb.2 (h hb.1)⟩

theorem dropLast_ne {k : Place} (hk : k ≠ []) : k.dropLast ≠ k := fun he => by
  have hlen := congrArg List.length he
  have hpos := List.length_pos_iff.2 hk
  simp at hlen
  omega

/-- What is below a place is below it by one more name. -/
theorem isBelow_of_dropLast {k l : Place} (h : isBelow k.dropLast l = true) :
    isBelow k l = true := by
  obtain ⟨hpre, hne⟩ := isBelow_iff.1 h
  refine isBelow_iff.2 ⟨hpre.trans (List.dropLast_prefix k), fun he => hne ?_⟩
  subst he
  exact (List.dropLast_prefix k).eq_of_length_le hpre.length_le

end Place

/-- Entries that form a tree: each place has one, the root has none, and all of them
stand in directories. -/
structure IsTree (entries : List (Place × Entry)) : Prop where
  distinct : (entries.map Prod.fst).Nodup
  rootless : ∀ x ∈ entries, x.1 ≠ []
  held : ∀ x ∈ entries, Place.isHeldBy x.1.dropLast entries = true

theorem lookup_filter (es : List (Place × Entry)) (keep : Place → Bool) (k : Place) :
    (es.filter fun x => keep x.1).lookup k = if keep k then es.lookup k else none := by
  induction es with
  | nil => simp
  | cons e es ih =>
    obtain ⟨l, v⟩ := e
    by_cases hkl : k = l
    · subst hkl
      by_cases hk : keep k <;> simp [hk, ih]
    · have hne : (k == l) = false := by simpa using hkl
      by_cases hl : keep l <;> simp [hl, List.lookup_cons, hne, ih]

namespace IsTree

variable {es : List (Place × Entry)}

theorem empty : IsTree [] := ⟨List.nodup_nil, by simp, by simp⟩

/-- A tree stays one when what is left out leaves out all that is below it. -/
theorem filter (h : IsTree es) (keep : Place → Bool)
    (hkeep : ∀ k, keep k = true → k.dropLast = [] ∨ keep k.dropLast = true) :
    IsTree (es.filter fun x => keep x.1) where
  distinct := h.distinct.sublist (List.Sublist.map _ List.filter_sublist)
  rootless x hx := h.rootless x (List.mem_filter.1 hx).1
  held x hx := by
    obtain ⟨hmem, hk⟩ := List.mem_filter.1 hx
    have hheld := h.held x hmem
    rcases hkeep x.1 hk with hroot | hup
    · simp [Place.isHeldBy, hroot]
    · simpa [Place.isHeldBy, lookup_filter, hup] using hheld

/-- A tree stays one when an entry is put into a directory in place of nothing, of the
same kind of entry, or of one with nothing below it. -/
theorem put (h : IsTree es) {k : Place} {e : Entry} (hk : k ≠ [])
    (hup : Place.isHeldBy k.dropLast es = true)
    (hbelow : e = .directory ∨ ∀ x ∈ es, Place.isBelow x.1 k = false) :
    IsTree ((k, e) :: es.filter fun x => x.1 != k) := by
  have hlookup (l : Place) (hl : l ≠ k) :
      ((k, e) :: es.filter fun x => x.1 != k).lookup l = es.lookup l := by
    have hne : (l == k) = false := by simpa using hl
    have := lookup_filter es (fun x => x != k) l
    simp [List.lookup_cons, hne, this, hl]
  refine ⟨?_, ?_, ?_⟩
  · refine List.nodup_cons.2 ⟨?_, h.distinct.sublist (List.Sublist.map _ List.filter_sublist)⟩
    simp
  · intro x hx
    rcases List.mem_cons.1 hx with rfl | hx
    · exact hk
    · exact h.rootless x (List.mem_filter.1 hx).1
  · intro x hx
    rcases List.mem_cons.1 hx with rfl | hx
    · simpa [Place.isHeldBy, hlookup _ (Place.dropLast_ne hk)] using hup
    · have hmem := (List.mem_filter.1 hx).1
      by_cases hl : x.1.dropLast = k
      · have hb : Place.isBelow x.1 k = true :=
          Place.isBelow_iff.2 ⟨hl ▸ List.dropLast_prefix x.1,
            fun he => Place.dropLast_ne (h.rootless x hmem) (hl.trans he.symm)⟩
        rcases hbelow with rfl | hb'
        · simp [Place.isHeldBy, hl]
        · simp [hb' x hmem] at hb
      · simpa [Place.isHeldBy, hlookup _ hl] using h.held x hmem

end IsTree

/-- Everything the program can see of the file system. -/
structure FileTree where
  entries : List (Place × Entry)
  /-- The place where relative paths start. -/
  here : Place
  isTree : IsTree entries
  deriving DecidableEq, Repr

namespace FileTree

instance : Inhabited FileTree := ⟨⟨[], [], .empty⟩⟩

/-- The permission bits of a new file. -/
def plainMode : Nat := 0o644

/-- The permission bits of a program. -/
def programMode : Nat := 0o755

/-- Whether anybody may execute a file with these bits. -/
def isExecutable (mode : Nat) : Bool := mode &&& 0o111 != 0

/-- What stands at a place. -/
def get? (t : FileTree) (k : Place) : Option Entry := t.entries.lookup k

/-- Whether a directory stands at a place; the root is always there. -/
def hasDirectory (t : FileTree) (k : Place) : Bool := k.isHeldBy t.entries

/-- Whether an entry may be put at a place: the place is in a directory, and nothing is
below it unless the entry is a directory, too. -/
def admits (t : FileTree) (k : Place) (e : Entry) : Bool :=
  !k.isEmpty && t.hasDirectory k.dropLast &&
    (e == .directory || t.entries.all fun x => !Place.isBelow x.1 k)

/-- Puts an entry at a place, instead of what may stand there; nothing happens where the
entry may not be. -/
def put (t : FileTree) (k : Place) (e : Entry) : FileTree :=
  if h : t.admits k e = true then
    { t with
      entries := (k, e) :: t.entries.filter fun x => x.1 != k
      isTree := by
        simp only [admits, Bool.and_eq_true, Bool.or_eq_true, Bool.not_eq_true', beq_iff_eq,
          List.isEmpty_eq_false_iff, List.all_eq_true] at h
        exact t.isTree.put h.1.1 h.1.2 h.2 }
  else t

/-- Removes a place and everything below it. -/
def erase (t : FileTree) (k : Place) : FileTree :=
  { t with
    entries := t.entries.filter fun x => !k.isPrefixOf x.1
    isTree := t.isTree.filter (fun x => !k.isPrefixOf x) fun l hl => .inr (by
      rw [Bool.not_eq_true', ← Bool.not_eq_true, List.isPrefixOf_iff_prefix] at hl ⊢
      exact fun h => hl (h.trans (List.dropLast_prefix l))) }

/-- Removes everything below a place. -/
def eraseBelow (t : FileTree) (k : Place) : FileTree :=
  { t with
    entries := t.entries.filter fun x => !Place.isBelow x.1 k
    isTree := t.isTree.filter (fun x => !Place.isBelow x k) fun l hl => .inr (by
      rw [Bool.not_eq_true', ← Bool.not_eq_true] at hl ⊢
      exact fun h => hl (Place.isBelow_of_dropLast h)) }

/-- The name of a place seen from the directory that holds it. -/
def nameIn? (dir k : Place) : Option String :=
  if dir.isPrefixOf k ∧ k.length = dir.length + 1 then k.getLast? else none

/-- The names in a directory and what they stand for. -/
def children (t : FileTree) (dir : Place) : List (String × Entry) :=
  t.entries.filterMap fun x => (nameIn? dir x.1).map fun name => (name, x.2)

/-- Everything below a directory, each entry with its names from there on. -/
def below (t : FileTree) (dir : Place) : List (Place × Entry) :=
  t.entries.filterMap fun x =>
    if dir.isPrefixOf x.1 ∧ x.1 ≠ dir then some (x.1.drop dir.length, x.2) else none

theorem get?_put {t : FileTree} {k : Place} {e : Entry} (h : t.admits k e = true) (l : Place) :
    (t.put k e).get? l = if l = k then some e else t.get? l := by
  have hf := lookup_filter t.entries (fun x => x != k) l
  by_cases hlk : l = k
  · simp [put, h, get?, hlk]
  · have hne : (l == k) = false := by simpa using hlk
    simp only [put, h, dite_true, get?, List.lookup_cons, hne, hf, hlk, if_false]
    simp [bne, hne]

theorem get?_erase (t : FileTree) (k l : Place) :
    (t.erase k).get? l = if k <+: l then none else t.get? l := by
  have h := lookup_filter t.entries (fun x => !k.isPrefixOf x) l
  simp only [erase, get?, h]
  by_cases hp : k <+: l
  · rw [List.isPrefixOf_iff_prefix.2 hp, if_pos hp]
    rfl
  · have : k.isPrefixOf l = false := by
      rw [← Bool.not_eq_true, List.isPrefixOf_iff_prefix]
      exact hp
    rw [this, if_neg hp]
    rfl

theorem get?_eraseBelow (t : FileTree) (k l : Place) :
    (t.eraseBelow k).get? l = if Place.isBelow l k then none else t.get? l := by
  have h := lookup_filter t.entries (fun x => !Place.isBelow x k) l
  simp only [eraseBelow, get?, h]
  cases Place.isBelow l k <;> rfl

end FileTree
end LintHub
