import LintHub.Grouping

/-!
# What groups of files look like

* `isGrouping_groupFiles`: the groups stand in running order, none is empty, and each
  file is with the linter that handles it.
* `groupFiles_eq_nil_iff`: there is no group only if no linter handles any of the files.
-/

namespace LintHub

theorem Kind.rank_injective {k l : Kind} (h : k.rank = l.rank) : k = l := by
  cases k <;> cases l <;> first | rfl | exact absurd h (by decide)

theorem Kind.mem_all (k : Kind) : k ∈ Kind.all := by
  cases k <;> decide

/-- Groups in running order, none empty, with each file where it belongs. -/
structure IsGrouping (bs : List Batch) : Prop where
  ordered : bs.Pairwise fun a b => a.kind.rank < b.kind.rank
  filled : ∀ b ∈ bs, b.files ≠ []
  routed : ∀ b ∈ bs, ∀ f ∈ b.files, Kind.ofPath f = some b.kind

namespace Batch

theorem addFile_ne_nil (files : List Path) (file : Path) : addFile files file ≠ [] := by
  cases files with
  | nil => simp [addFile]
  | cons f fs =>
    unfold addFile
    split <;> simp

theorem mem_addFile {files : List Path} {f file : Path} (h : f ∈ addFile files file) :
    f ∈ files ∨ f = file := by
  unfold addFile at h
  split at h
  · exact .inl h
  · simpa using h

/-- A group after a file was added is an old one, or the file's, which has old files and
the new one. -/
theorem mem_add {kind : Kind} {file : Path} {bs : List Batch} {b : Batch}
    (h : b ∈ add kind file bs) :
    b ∈ bs ∨ b.kind = kind ∧ b.files ≠ [] ∧
      ∀ f ∈ b.files, f = file ∨ ∃ b' ∈ bs, b'.kind = kind ∧ f ∈ b'.files := by
  induction bs with
  | nil =>
    simp only [add, List.mem_singleton] at h
    subst h
    exact .inr ⟨rfl, by simp, by simp⟩
  | cons c cs ih =>
    unfold add at h
    split at h
    -- a new group in front of a later one
    · rcases List.mem_cons.1 h with rfl | h
      · exact .inr ⟨rfl, by simp, by simp⟩
      · exact .inl h
    · split at h
      · rename_i hk
        rcases List.mem_cons.1 h with rfl | h
        · refine .inr ⟨hk, addFile_ne_nil _ _, fun f hf => ?_⟩
          rcases mem_addFile hf with hf | hf
          · exact .inr ⟨c, by simp, hk, hf⟩
          · exact .inl hf
        · exact .inl (List.mem_cons_of_mem _ h)
      · rcases List.mem_cons.1 h with rfl | h
        · exact .inl (by simp)
        · rcases ih h with h | ⟨hk, hne, hf⟩
          · exact .inl (List.mem_cons_of_mem _ h)
          · refine .inr ⟨hk, hne, fun f hmem => ?_⟩
            rcases hf f hmem with hf | ⟨b', hb', hrest⟩
            · exact .inl hf
            · exact .inr ⟨b', List.mem_cons_of_mem _ hb', hrest⟩

theorem ordered_add {kind : Kind} {file : Path} {bs : List Batch}
    (h : bs.Pairwise fun a b => a.kind.rank < b.kind.rank) :
    (add kind file bs).Pairwise fun a b => a.kind.rank < b.kind.rank := by
  induction bs with
  | nil => simp [add]
  | cons c cs ih =>
    obtain ⟨hc, hcs⟩ := List.pairwise_cons.1 h
    unfold add
    split
    · rename_i hlt
      refine List.pairwise_cons.2 ⟨fun b hb => ?_, h⟩
      rcases List.mem_cons.1 hb with rfl | hb
      · exact hlt
      · exact Nat.lt_trans hlt (hc b hb)
    · split
      · exact List.pairwise_cons.2 ⟨hc, hcs⟩
      · rename_i hle hne
        refine List.pairwise_cons.2 ⟨fun b hb => ?_, ih hcs⟩
        rcases mem_add hb with hb | ⟨rfl, -, -⟩
        · exact hc b hb
        -- the new group: its rank is not less, and ranks tell kinds apart
        · have : c.kind.rank ≠ b.kind.rank := fun he => hne (Kind.rank_injective he)
          omega

theorem add_ne_nil (kind : Kind) (file : Path) (bs : List Batch) : add kind file bs ≠ [] := by
  cases bs with
  | nil => simp [add]
  | cons c cs =>
    unfold add
    split
    · simp
    · split <;> simp

end Batch

theorem IsGrouping.collect {bs : List Batch} (h : IsGrouping bs) (file : Path) :
    IsGrouping (collect bs file) := by
  unfold LintHub.collect
  split
  · exact h
  · rename_i kind hkind
    refine ⟨Batch.ordered_add h.ordered, fun b hb => ?_, fun b hb f hf => ?_⟩
    · rcases Batch.mem_add hb with hb | ⟨-, hne, -⟩
      · exact h.filled b hb
      · exact hne
    · rcases Batch.mem_add hb with hb | ⟨rfl, -, hfiles⟩
      · exact h.routed b hb f hf
      · rcases hfiles f hf with rfl | ⟨b', hb', hk, hf'⟩
        · exact hkind
        · rw [h.routed b' hb' f hf', hk]

/-- What holds of no groups and survives each file holds of all groups. -/
theorem groupFiles_induction {motive : List Batch → Prop} (empty : motive [])
    (step : ∀ bs file, motive bs → motive (collect bs file)) (files : List Path) :
    motive (groupFiles files) :=
  List.foldlRecOn files collect empty fun bs hbs file _ => step bs file hbs

theorem isGrouping_groupFiles (files : List Path) : IsGrouping (groupFiles files) :=
  groupFiles_induction ⟨by simp, by simp, by simp⟩ (fun _ file h => h.collect file) files

theorem groupFiles_eq_nil_iff {files : List Path} :
    groupFiles files = [] ↔ ∀ f ∈ files, Kind.ofPath f = none := by
  -- the groups that are there already are carried along
  suffices h : ∀ bs, files.foldl collect bs = [] ↔ bs = [] ∧ ∀ f ∈ files, Kind.ofPath f = none by
    simpa [groupFiles] using h []
  induction files with
  | nil => simp
  | cons f fs ih =>
    intro bs
    rw [List.foldl_cons, ih]
    cases hf : Kind.ofPath f with
    | none => simp [collect, hf]
    | some kind => simp [collect, hf, Batch.add_ne_nil]

end LintHub
