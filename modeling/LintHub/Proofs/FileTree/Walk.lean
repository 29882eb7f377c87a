import LintHub.FileTree.Lookup
import LintHub.Proofs.FileTree.Places

/-!
# Walks

`Goes` is the part of a walk that leads from directory to directory. It sees only the
directories and links of a tree (`Goes.mono`) and can be cut and joined where the moves
are (`Goes.append`, `walk_append`); the end of a walk may be something else.

* `walk_induction`: the recursion of `walk`, on the links that are left and the moves.
* `goes_of_walk`, `goes_of_walk_append`: the way that a walk with an end went.
* `walk_taken`, `walk_vacant`: where a walk ends, things are as it says.
-/

namespace LintHub.FileTree

/-- The place that a walk ends at, whether something is there or not. -/
def Spot.place : Spot → Place
  | .taken k _ => k
  | .vacant dir s _ => dir ++ [s]

variable {t t' : FileTree} {follow : Bool} {n m l : Nat} {dir k k' : Place} {ms rest : List Move}

@[simp] theorem walk_nil : t.walk follow n dir [] = .ok (.taken dir .directory) := by
  cases n <;> rfl

@[simp] theorem walk_nothing : t.walk follow n dir (.nothing :: ms) = t.walk follow n dir ms := by
  cases n <;> rfl

@[simp] theorem walk_stay : t.walk follow n dir (.stay :: ms) = t.walk follow n dir ms := by
  cases n <;> rfl

@[simp] theorem walk_up : t.walk follow n dir (.up :: ms) = t.walk follow n dir.dropLast ms := by
  cases n <;> rfl

/-- The directory from which the target of a link is walked to. -/
def linkBase (dir : Place) (target : String) : Place :=
  if (Path.mk target).isAbsolute then [] else dir

theorem walk_name (s : String) :
    t.walk follow n dir (.name s :: ms) =
      if longestName < s.utf8ByteSize then .error .nameTooLong
      else match t.get? (dir ++ [s]) with
        | none =>
          if ms.all (· == .nothing) then .ok (.vacant dir s !ms.isEmpty) else .error .notFound
        | some .directory => t.walk follow n (dir ++ [s]) ms
        | some (.file content mode) =>
          if ms.isEmpty then .ok (.taken (dir ++ [s]) (.file content mode))
          else .error .notDirectory
        | some (.link target) =>
          if ms.isEmpty && !follow then .ok (.taken (dir ++ [s]) (.link target))
          else match n with
            | 0 => .error .tooManyLinks
            | n + 1 => t.walk follow n (linkBase dir target) (moves ⟨target⟩ ++ ms) := by
  cases n <;> rfl

/-- **Induction along a walk**: behind a name it goes on with the moves that are left, or with
any moves at all but fewer links. -/
theorem walk_induction {P : Nat → Place → List Move → Prop}
    (nil : ∀ n dir, P n dir [])
    (nothing : ∀ n dir ms, P n dir ms → P n dir (.nothing :: ms))
    (stay : ∀ n dir ms, P n dir ms → P n dir (.stay :: ms))
    (up : ∀ n dir ms, P n dir.dropLast ms → P n dir (.up :: ms))
    (name : ∀ n dir s ms, (∀ dir, P n dir ms) → (∀ l < n, ∀ dir ms, P l dir ms) →
      P n dir (.name s :: ms)) :
    ∀ n dir ms, P n dir ms := by
  intro n
  induction n using Nat.strongRecOn with
  | _ n ih =>
    intro dir ms
    induction ms generalizing dir with
    | nil => exact nil n dir
    | cons mv ms ihms =>
      cases mv with
      | nothing => exact nothing n dir ms (ihms dir)
      | stay => exact stay n dir ms (ihms dir)
      | up => exact up n dir ms (ihms dir.dropLast)
      | name s => exact name n dir s ms ihms ih

theorem hasDirectory_linkBase (h : t.hasDirectory dir = true) (target : String) :
    t.hasDirectory (linkBase dir target) = true := by
  unfold linkBase
  split
  · rfl
  · exact h

/-- From a directory, with links to spare, the moves lead to a directory; so many links may
still be followed there. -/
inductive Goes (t : FileTree) : Nat → Place → List Move → Nat → Place → Prop
  | here (n : Nat) (dir : Place) : Goes t n dir [] n dir
  | nothing {n m : Nat} {dir k : Place} {ms : List Move} (rest : Goes t n dir ms m k) :
    Goes t n dir (.nothing :: ms) m k
  | stay {n m : Nat} {dir k : Place} {ms : List Move} (rest : Goes t n dir ms m k) :
    Goes t n dir (.stay :: ms) m k
  | up {n m : Nat} {dir k : Place} {ms : List Move} (rest : Goes t n dir.dropLast ms m k) :
    Goes t n dir (.up :: ms) m k
  | into {n m : Nat} {dir k : Place} {s : String} {ms : List Move}
    (size : s.utf8ByteSize ≤ longestName) (there : t.get? (dir ++ [s]) = some .directory)
    (rest : Goes t n (dir ++ [s]) ms m k) : Goes t n dir (.name s :: ms) m k
  | via {n m : Nat} {dir k : Place} {s target : String} {ms : List Move}
    (size : s.utf8ByteSize ≤ longestName) (there : t.get? (dir ++ [s]) = some (.link target))
    (rest : Goes t n (linkBase dir target) (moves ⟨target⟩ ++ ms) m k) :
    Goes t (n + 1) dir (.name s :: ms) m k

namespace Goes

/-- Only directories and links matter on the way. -/
theorem mono (h : t.Goes n dir ms m k)
    (hdir : ∀ l, t.get? l = some .directory → t'.get? l = some .directory)
    (hlink : ∀ l target, t.get? l = some (.link target) → t'.get? l = some (.link target)) :
    t'.Goes n dir ms m k := by
  induction h with
  | here n dir => exact .here n dir
  | nothing _ ih => exact .nothing ih
  | stay _ ih => exact .stay ih
  | up _ ih => exact .up ih
  | into size there _ ih => exact .into size (hdir _ there) ih
  | via size there _ ih => exact .via size (hlink _ _ there) ih

theorem append (h : t.Goes n dir ms m k) (h' : t.Goes m k rest l k') :
    t.Goes n dir (ms ++ rest) l k' := by
  induction h with
  | here => exact h'
  | nothing _ ih => exact .nothing (ih h')
  | stay _ ih => exact .stay (ih h')
  | up _ ih => exact .up (ih h')
  | into size there _ ih => exact .into size there (ih h')
  | via size there _ ih =>
    exact .via size there (List.append_assoc .. ▸ ih h')

theorem hasDirectory (h : t.Goes n dir ms m k) (hdir : t.hasDirectory dir = true) :
    t.hasDirectory k = true := by
  induction h with
  | here => exact hdir
  | nothing _ ih => exact ih hdir
  | stay _ ih => exact ih hdir
  | up _ ih => exact ih (hasDirectory_dropLast hdir)
  | into _ there _ ih => exact ih (hasDirectory_of_get? there)
  | via _ _ _ ih => exact ih (hasDirectory_linkBase hdir _)

/-- The way can be cut wherever its moves are. -/
theorem split (h : t.Goes n dir (ms ++ rest) l k') :
    ∃ m k, t.Goes n dir ms m k ∧ t.Goes m k rest l k' := by
  -- a link puts its own moves in front, so the induction is that of the walk
  induction n, dir, ms using walk_induction with
  | nil n dir => exact ⟨n, dir, .here n dir, h⟩
  | nothing n dir ms ih =>
    cases h with
    | nothing h =>
      obtain ⟨m, k, hgo, hrest⟩ := ih h
      exact ⟨m, k, .nothing hgo, hrest⟩
  | stay n dir ms ih =>
    cases h with
    | stay h =>
      obtain ⟨m, k, hgo, hrest⟩ := ih h
      exact ⟨m, k, .stay hgo, hrest⟩
  | up n dir ms ih =>
    cases h with
    | up h =>
      obtain ⟨m, k, hgo, hrest⟩ := ih h
      exact ⟨m, k, .up hgo, hrest⟩
  | name n dir s ms ih ihlink =>
    cases h with
    | into size there h =>
      obtain ⟨m, k, hgo, hrest⟩ := ih _ h
      exact ⟨m, k, .into size there hgo, hrest⟩
    | via size there h =>
      rw [List.append_eq, ← List.append_assoc] at h
      obtain ⟨m, k, hgo, hrest⟩ := ihlink _ (Nat.lt_succ_self _) _ _ h
      exact ⟨m, k, .via size there hgo, hrest⟩

theorem of_append_nothing (h : t.Goes n dir (ms ++ [.nothing]) m k) : t.Goes n dir ms m k := by
  obtain ⟨l, k', hgo, hend⟩ := h.split
  cases hend with
  | nothing hend =>
    cases hend
    exact hgo

/-- A walk that goes this way goes on from where it leads. -/
theorem walk_append (h : t.Goes n dir ms m k) (hrest : follow = true ∨ rest ≠ []) :
    t.walk follow n dir (ms ++ rest) = t.walk follow m k rest := by
  induction h with
  | here => rfl
  | nothing _ ih => simpa using ih
  | stay _ ih => simpa using ih
  | up _ ih => simpa using ih
  | into size there _ ih =>
    rw [List.cons_append, walk_name, if_neg (Nat.not_lt.2 size), there]
    exact ih
  | @via n m dir k s target ms size there _ ih =>
    -- the link is followed: it is not the last move, or all links are
    have hgo : ((ms ++ rest).isEmpty && !follow) = false := by
      rcases hrest with rfl | hrest
      · simp
      · simp [hrest]
    rw [List.cons_append, walk_name, if_neg (Nat.not_lt.2 size), there]
    simp only [hgo, Bool.false_eq_true, if_false]
    rw [← List.append_assoc]
    exact ih

theorem walk_eq (h : t.Goes n dir ms m k) :
    t.walk true n dir ms = .ok (.taken k .directory) := by
  have heq := @walk_append t true n m dir k ms [] h (.inl rfl)
  simpa using heq

/-- The way determines where it leads. -/
theorem unique (h : t.Goes n dir ms m k) (h' : t.Goes n dir ms l k') : k = k' := by
  have heq := h.walk_eq.symm.trans h'.walk_eq
  simpa using heq

end Goes

/-- A walk that ends at a directory went from directory to directory all the time. -/
theorem goes_of_walk (h : t.walk follow n dir ms = .ok (.taken k .directory)) :
    ∃ m, t.Goes n dir ms m k := by
  induction n, dir, ms using walk_induction with
  | nil n dir =>
    simp only [walk_nil, Except.ok.injEq, Spot.taken.injEq, and_true] at h
    exact ⟨n, h ▸ .here n dir⟩
  | nothing n dir ms ih => exact (ih (by simpa using h)).imp fun _ => .nothing
  | stay n dir ms ih => exact (ih (by simpa using h)).imp fun _ => .stay
  | up n dir ms ih => exact (ih (by simpa using h)).imp fun _ => .up
  | name n dir s ms ih ihlink =>
    rw [walk_name] at h
    -- a name that is too long or missing, or a file, is no way on
    split at h
    · cases h
    · rename_i size
      split at h
      · split at h <;> cases h
      · rename_i there
        exact (ih _ h).imp fun _ => .into (Nat.not_lt.1 size) there
      · split at h <;> cases h
      · rename_i target there
        split at h
        · cases h
        · split at h
          · cases h
          · exact (ihlink _ (Nat.lt_succ_self _) _ _ h).imp fun _ => .via (Nat.not_lt.1 size) there

/-- A walk that gets to its end went from directory to directory before its last moves. -/
theorem goes_of_walk_append {spot : Spot} (hrest : rest.all (· == .nothing) = false)
    (h : t.walk follow n dir (ms ++ rest) = .ok spot) :
    ∃ m k, t.Goes n dir ms m k ∧ t.walk follow m k rest = .ok spot := by
  have hne : rest ≠ [] := by
    rintro rfl
    cases hrest
  induction n, dir, ms using walk_induction with
  | nil n dir => exact ⟨n, dir, .here n dir, h⟩
  | nothing n dir ms ih =>
    obtain ⟨m, k, hgo, hend⟩ := ih (by simpa using h)
    exact ⟨m, k, .nothing hgo, hend⟩
  | stay n dir ms ih =>
    obtain ⟨m, k, hgo, hend⟩ := ih (by simpa using h)
    exact ⟨m, k, .stay hgo, hend⟩
  | up n dir ms ih =>
    obtain ⟨m, k, hgo, hend⟩ := ih (by simpa using h)
    exact ⟨m, k, .up hgo, hend⟩
  | name n dir s ms ih ihlink =>
    rw [List.cons_append, walk_name] at h
    split at h
    · cases h
    · rename_i size
      split at h
      -- a missing name ends the walk only if nothing but separators follow
      · rw [List.all_append, hrest] at h
        simp at h
      · rename_i there
        obtain ⟨m, k, hgo, hend⟩ := ih _ h
        exact ⟨m, k, .into (Nat.not_lt.1 size) there hgo, hend⟩
      · simp [hne] at h
      · rename_i target there
        have hlast : ((ms ++ rest).isEmpty && !follow) = false := by simp [hne]
        simp only [hlast, Bool.false_eq_true, if_false] at h
        split at h
        · cases h
        · rw [← List.append_assoc] at h
          obtain ⟨m, k, hgo, hend⟩ := ihlink _ (Nat.lt_succ_self _) _ _ h
          exact ⟨m, k, .via (Nat.not_lt.1 size) there hgo, hend⟩

/-- Where a walk ends at something, it is there. -/
theorem walk_taken {e : Entry} (hdir : t.hasDirectory dir = true)
    (h : t.walk follow n dir ms = .ok (.taken k e)) :
    e = .directory ∧ t.hasDirectory k = true ∨ t.get? k = some e := by
  induction n, dir, ms using walk_induction with
  | nil n dir =>
    simp only [walk_nil, Except.ok.injEq, Spot.taken.injEq] at h
    exact .inl ⟨h.2.symm, h.1 ▸ hdir⟩
  | nothing n dir ms ih => exact ih hdir (by simpa using h)
  | stay n dir ms ih => exact ih hdir (by simpa using h)
  | up n dir ms ih => exact ih (hasDirectory_dropLast hdir) (by simpa using h)
  | name n dir s ms ih ihlink =>
    rw [walk_name] at h
    split at h
    · cases h
    · split at h
      · split at h <;> cases h
      · rename_i there
        exact ih _ (hasDirectory_of_get? there) h
      · rename_i there
        split at h
        · cases h
          exact .inr there
        · cases h
      · rename_i target there
        split at h
        · cases h
          exact .inr there
        · split at h
          · cases h
          · exact ihlink _ (Nat.lt_succ_self _) _ _ (hasDirectory_linkBase hdir target) h

/-- Where a walk ends at a missing name, it is missing from an existing directory. -/
theorem walk_vacant {s : String} {asDirectory : Bool} (hdir : t.hasDirectory dir = true)
    (h : t.walk follow n dir ms = .ok (.vacant k s asDirectory)) :
    t.hasDirectory k = true ∧ t.get? (k ++ [s]) = none := by
  induction n, dir, ms using walk_induction with
  | nil => simp at h
  | nothing n dir ms ih => exact ih hdir (by simpa using h)
  | stay n dir ms ih => exact ih hdir (by simpa using h)
  | up n dir ms ih => exact ih (hasDirectory_dropLast hdir) (by simpa using h)
  | name n dir s' ms ih ihlink =>
    rw [walk_name] at h
    split at h
    · cases h
    · split at h
      · rename_i there
        split at h
        · cases h
          exact ⟨hdir, there⟩
        · cases h
      · rename_i there
        exact ih _ (hasDirectory_of_get? there) h
      · split at h <;> cases h
      · rename_i target there
        split at h
        · cases h
        · split at h
          · cases h
          · exact ihlink _ (Nat.lt_succ_self _) _ _ (hasDirectory_linkBase hdir target) h

/-- A walk that does not follow a link at its end ends at one, or where any walk ends. -/
theorem walk_false (t : FileTree) (n : Nat) (dir : Place) (ms : List Move) :
    t.walk false n dir ms = t.walk true n dir ms ∨
      ∃ k target, t.walk false n dir ms = .ok (.taken k (.link target)) := by
  induction n, dir, ms using walk_induction with
  | nil => exact .inl (by simp)
  | nothing n dir ms ih => simpa using ih
  | stay n dir ms ih => simpa using ih
  | up n dir ms ih => simpa using ih
  | name n dir s ms ih ihlink =>
    rw [walk_name, walk_name]
    split
    · exact .inl rfl
    · split
      · exact .inl rfl
      · exact ih _
      · exact .inl rfl
      · rename_i target there
        by_cases hlast : ms.isEmpty = true
        -- the last move: here the two walks part
        · exact .inr ⟨dir ++ [s], target, by simp [hlast]⟩
        · simp only [hlast, Bool.false_and, Bool.false_eq_true, if_false]
          split
          · exact .inl rfl
          · exact ihlink _ (Nat.lt_succ_self _) _ _

end LintHub.FileTree
