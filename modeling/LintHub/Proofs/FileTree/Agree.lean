import LintHub.Proofs.FileTree.Writing

/-!
# Trees that agree

A tree lists its entries in some order, which nothing depends on: in trees with the same
entries (`Agree`) every path leads to the same, and every change has the same result and
leaves trees that agree (`SameChange`). The place where relative paths start matters for those
alone (`locate_of_absolute`).
-/

namespace LintHub.FileTree

variable {ε α : Type} {t t' t'' : FileTree}

/-- The same stands everywhere. -/
structure Agree (t t' : FileTree) : Prop where
  here : t'.here = t.here
  get? : ∀ k, t'.get? k = t.get? k

/-- The same result, and trees that agree. -/
structure SameChange (x y : Except ε α × FileTree) : Prop where
  result : y.1 = x.1
  tree : x.2.Agree y.2

namespace SameChange

variable {x y : Except ε α × FileTree}

theorem of_ok {a : α} (h : SameChange (.ok a, t) y) : ∃ t', y = (.ok a, t') ∧ t.Agree t' :=
  ⟨y.2, Prod.ext h.result rfl, h.tree⟩

/-- Both fail, or both succeed. -/
theorem cases_eq (h : SameChange x y) :
    (∃ e t t', x = (.error e, t) ∧ y = (.error e, t') ∧ t.Agree t') ∨
      ∃ a t t', x = (.ok a, t) ∧ y = (.ok a, t') ∧ t.Agree t' := by
  obtain ⟨r, t⟩ := x
  obtain ⟨r', t'⟩ := y
  obtain ⟨hresult, htree⟩ := h
  cases hresult
  cases r with
  | error e => exact .inl ⟨e, t, t', rfl, rfl, htree⟩
  | ok a => exact .inr ⟨a, t, t', rfl, rfl, htree⟩

end SameChange

/-- A walk sees what stands at places, and nothing else. -/
theorem walk_congr (h : ∀ k, t'.get? k = t.get? k) (follow : Bool) (n : Nat) (dir : Place)
    (ms : List Move) : t'.walk follow n dir ms = t.walk follow n dir ms := by
  induction n, dir, ms using walk_induction with
  | nil n dir => rw [walk_nil, walk_nil]
  | nothing n dir ms ih => rw [walk_nothing, walk_nothing, ih]
  | stay n dir ms ih => rw [walk_stay, walk_stay, ih]
  | up n dir ms ih => rw [walk_up, walk_up, ih]
  | name n dir s ms ih ihlink =>
    rw [walk_name, walk_name, h]
    split
    · rfl
    · split
      · rfl
      · exact ih _
      · rfl
      · split
        · rfl
        · cases n with
          | zero => rfl
          | succ n => exact ihlink n (Nat.lt_succ_self n) _ _

/-- A path from the root leads to the same wherever relative paths start. -/
theorem locate_of_absolute {p : Path} (h : p.isAbsolute = true) (t : FileTree) (here : Place)
    (follow : Bool) : ({ t with here } : FileTree).locate follow p = t.locate follow p := by
  unfold locate
  rw [if_pos h, if_pos h, @walk_congr t { t with here } fun _ => rfl]

namespace Agree

theorem refl (t : FileTree) : t.Agree t := ⟨rfl, fun _ => rfl⟩

theorem symm (h : t.Agree t') : t'.Agree t := ⟨h.here.symm, fun k => (h.get? k).symm⟩

theorem trans (h : t.Agree t') (h' : t'.Agree t'') : t.Agree t'' :=
  ⟨h'.here.trans h.here, fun k => (h'.get? k).trans (h.get? k)⟩

theorem grows (h : t.Agree t') : t.Grows t' :=
  ⟨h.here, fun k e hk => ⟨e, (h.get? k).trans hk, .refl e⟩⟩

theorem hasDirectory (h : t.Agree t') (k : Place) : t'.hasDirectory k = t.hasDirectory k := by
  rw [Bool.eq_iff_iff, hasDirectory_iff, hasDirectory_iff, h.get?]

theorem start? (h : t.Agree t') (p : Path) : t'.start? p = t.start? p := by
  unfold FileTree.start?
  rw [h.here, h.hasDirectory]

theorem walk (h : t.Agree t') (follow : Bool) (n : Nat) (dir : Place) (ms : List Move) :
    t'.walk follow n dir ms = t.walk follow n dir ms :=
  walk_congr h.get? follow n dir ms

theorem locate (h : t.Agree t') (follow : Bool) (p : Path) :
    t'.locate follow p = t.locate follow p := by
  unfold FileTree.locate
  rw [h.here, h.hasDirectory, h.walk, h.walk]

theorem find? (h : t.Agree t') (follow : Bool) (p : Path) :
    t'.find? follow p = t.find? follow p := by
  unfold FileTree.find?
  rw [h.locate]

theorem isFile (h : t.Agree t') (p : Path) : t'.isFile p = t.isFile p := by
  unfold FileTree.isFile
  rw [h.find?]

theorem isDirectory (h : t.Agree t') (p : Path) : t'.isDirectory p = t.isDirectory p := by
  unfold FileTree.isDirectory
  rw [h.find?]

theorem admits (h : t.Agree t') (k : Place) (e : Entry) : t'.admits k e = t.admits k e := by
  -- the order of entries does not matter for whether one stands below
  have hbelow {t t' : FileTree} (h : t.Agree t')
      (hall : t.entries.all (fun x => !Place.isBelow x.1 k) = true) :
      t'.entries.all (fun x => !Place.isBelow x.1 k) = true := by
    rw [List.all_eq_true] at hall ⊢
    intro x hx
    exact hall x (mem_entries_iff.2 ((h.get? x.1).symm.trans (mem_entries_iff.1 hx)))
  unfold FileTree.admits
  rw [h.hasDirectory, Bool.eq_iff_iff.2 ⟨hbelow h.symm, hbelow h⟩]

theorem put (h : t.Agree t') (k : Place) (e : Entry) : (t.put k e).Agree (t'.put k e) := by
  refine ⟨by rw [here_put, here_put, h.here], fun l => ?_⟩
  cases hadmits : t.admits k e with
  | false => rw [put_of_not_admits hadmits, put_of_not_admits (h.admits k e ▸ hadmits), h.get?]
  | true => rw [get?_put hadmits, get?_put (h.admits k e ▸ hadmits), h.get?]

theorem locateForWriting (h : t.Agree t') (p : Path) :
    t'.locateForWriting p = t.locateForWriting p := by
  unfold FileTree.locateForWriting
  rw [h.locate, h.locate]

theorem writeWithMode (h : t.Agree t') (p : Path) (content : Bytes) (mode : Nat) :
    SameChange (t.writeWithMode p content mode) (t'.writeWithMode p content mode) := by
  unfold FileTree.writeWithMode
  rw [h.locateForWriting]
  rcases t.locateForWriting p with e | spot
  · exact ⟨rfl, h⟩
  · rcases spot with ⟨k, _ | ⟨content', mode'⟩ | target⟩ | ⟨dir, name, _ | _⟩
    · exact ⟨rfl, h⟩
    · exact ⟨rfl, h.put ..⟩
    · exact ⟨rfl, h⟩
    · exact ⟨rfl, h.put ..⟩
    · exact ⟨rfl, h⟩

theorem write (h : t.Agree t') (p : Path) (content : Bytes) :
    SameChange (t.write p content) (t'.write p content) := by
  unfold FileTree.write
  obtain ⟨e, s, s', hx, hy, hs⟩ | ⟨k, s, s', hx, hy, hs⟩ :=
    (h.writeWithMode p content plainMode).cases_eq
  · rw [hx, hy]
    exact ⟨rfl, hs⟩
  · rw [hx, hy]
    exact ⟨rfl, hs⟩

theorem setMode (h : t.Agree t') (p : Path) (mode : Nat) :
    SameChange (t.setMode p mode) (t'.setMode p mode) := by
  unfold FileTree.setMode
  rw [h.find?]
  rcases t.find? true p with e | ⟨k, _ | ⟨content, mode'⟩ | target⟩
  · exact ⟨rfl, h⟩
  · exact ⟨rfl, h⟩
  · exact ⟨rfl, h.put ..⟩
  · exact ⟨rfl, h⟩

theorem copy (h : t.Agree t') (source target : Path) :
    SameChange (t.copy source target) (t'.copy source target) := by
  unfold FileTree.copy
  rw [h.find?]
  rcases t.find? true source with e | ⟨k, _ | ⟨content, mode⟩ | link⟩
  · exact ⟨rfl, h⟩
  · exact ⟨rfl, h⟩
  · simp only
    obtain ⟨e, s, s', hx, hy, hs⟩ | ⟨goal, s, s', hx, hy, hs⟩ :=
      (h.writeWithMode target content mode).cases_eq
    · rw [hx, hy]
      exact ⟨rfl, hs⟩
    · rw [hx, hy]
      exact ⟨rfl, hs.put ..⟩
  · exact ⟨rfl, h⟩

theorem makeDirectory (h : t.Agree t') (p : Path) :
    SameChange (t.makeDirectory p) (t'.makeDirectory p) := by
  unfold FileTree.makeDirectory
  rw [h.locate]
  rcases t.locate false (withoutTrailing p) with e | ⟨k, e⟩ | ⟨dir, name, asDirectory⟩
  · exact ⟨rfl, h⟩
  · exact ⟨rfl, h⟩
  · exact ⟨rfl, h.put ..⟩

theorem removalFault (h : t.Agree t') (p : Path) : t'.removalFault p = t.removalFault p := by
  unfold FileTree.removalFault
  rw [h.find?, h.find?]

end Agree
end LintHub.FileTree
