import LintHub.Proofs.FileTree.Places
import LintHub.Walk

/-!
# What a walk finds

Whatever rules hold, a walk finds regular files alone, and each of them below the directory
where it began, under the path that was given with the names on the way behind it.

* `Walk.holdsFile_of_files`: what a walk finds.
-/

namespace LintHub

namespace FileTree

/-- A regular file stands below the directory that a path leads to, and the other path is the
first with the names on the way there. -/
def HoldsFile (t : FileTree) (dir file : Path) : Prop :=
  ∃ k names content mode, t.directoryAt dir = .ok k ∧ names ≠ [] ∧
    file = names.foldl Path.joinText dir ∧ t.get? (k ++ names) = some (.file content mode)

/-- What a directory holds stands in it. -/
theorem get?_of_mem_children {t : FileTree} {k : Place} {name : String} {e : Entry}
    (h : (name, e) ∈ t.children k) : t.get? (k ++ [name]) = some e := by
  unfold children at h
  obtain ⟨⟨l, e'⟩, hmem, hname⟩ := List.mem_filterMap.1 h
  obtain ⟨n, hn, heq⟩ := Option.map_eq_some_iff.1 hname
  cases heq
  unfold nameIn? at hn
  split at hn
  · rename_i hin
    obtain ⟨rest, rfl⟩ := List.isPrefixOf_iff_prefix.1 hin.1
    have hlength : rest.length = 1 := by
      have := hin.2
      rw [List.length_append] at this
      omega
    obtain ⟨n, rfl⟩ := List.length_eq_one_iff.1 hlength
    rw [List.getLast?_concat] at hn
    cases hn
    exact mem_entries_iff.1 hmem
  · cases hn

end FileTree

namespace Walk

/-- Level by level: what is found below a directory is a file of the tree. -/
theorem get?_of_mem_below (w : Walk) (levels : Nat) (dirs : List Ignore.Directory) (path : Path)
    (k : Place) {f : Path} (h : f ∈ w.below levels dirs path k) :
    ∃ names content mode, names ≠ [] ∧ f = names.foldl Path.joinText path ∧
      w.tree.get? (k ++ names) = some (.file content mode) := by
  induction levels generalizing dirs path k with
  | zero => simp [below] at h
  | succ levels ih =>
    rw [below] at h
    obtain ⟨⟨name, e⟩, hmem, hfound⟩ := List.mem_flatMap.1 h
    have hget : w.tree.get? (k ++ [name]) = some e :=
      FileTree.get?_of_mem_children ((List.mergeSort_perm _ _).mem_iff.1 hmem)
    simp only at hfound
    split at hfound
    · simp at hfound
    · cases e with
      | file content mode =>
        obtain rfl := List.mem_singleton.1 hfound
        exact ⟨[name], content, mode, by simp, rfl, hget⟩
      | directory =>
        obtain ⟨names, content, mode, -, rfl, hfile⟩ := ih _ _ _ hfound
        rw [List.append_assoc] at hfile
        exact ⟨name :: names, content, mode, by simp, rfl, hfile⟩
      | link target => simp at hfound

theorem files_of_messages (h : Host) {t : FileTree} {root : Path} {k : Place}
    {messages : List String} (hdir : t.directoryAt root = .ok k)
    (hmessages : ((Place.above k).map (Ignore.Directory.read t)).reverse.flatMap (·.messages) =
      messages) :
    files h t root =
      if messages = [] then .ok ((Walk.mk t (Ignore.UserRules.read t h)).below (levels t)
        ((Place.above k).map (Ignore.Directory.read t)) root k)
      else .error ⟨root, messages⟩ := by
  unfold files
  rw [hdir]
  simp only [hmessages]
  cases messages with
  | nil => rfl
  | cons m ms => rfl

/-- **A walk finds files**, all of them below the directory where it began. -/
theorem holdsFile_of_files {h : Host} {t : FileTree} {root : Path} {found : List Path}
    (hfound : files h t root = .ok found) : ∀ f ∈ found, t.HoldsFile root f := by
  intro f hf
  cases hdir : t.directoryAt root with
  | error e =>
    rw [files, hdir] at hfound
    cases hfound
    cases hf
  | ok k =>
    rw [files_of_messages h hdir rfl] at hfound
    split at hfound
    · cases hfound
      obtain ⟨names, content, mode, hne, heq, hfile⟩ := get?_of_mem_below _ _ _ _ _ hf
      exact ⟨k, names, content, mode, hdir, hne, heq, hfile⟩
    · cases hfound

/-- A directory whose entries are kept in order is walked in this order. -/
theorem entriesOf_of_ordered {t : FileTree} {k : Place}
    (h : (t.children k).Pairwise fun a b => (!decide (b.1 < a.1)) = true) :
    entriesOf t k = t.children k :=
  List.mergeSort_of_pairwise h

end Walk
end LintHub
