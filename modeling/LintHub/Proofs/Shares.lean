import LintHub.Proofs.Lint
import LintHub.Proofs.Names
import Mathlib.Data.List.Pairwise
import Mathlib.Data.List.Sort

/-!
# Each linter's share of the files

What grouping makes of a list of files is said here without its loop: each linter gets its
share, the files that it handles without those that repeat an earlier one, and the groups are
the shares that are not empty, in running order. So files of one linter never matter for
another, and a call of `lint` depends on the shares alone.

* `groupFiles_eq`: the groups are the shares.
* `groupFiles_flatMap_files`: grouping the groups again changes nothing.
* `grouping_faithful`: what is in which group, and what a call of `lint` depends on.
-/

namespace LintHub

/-- Whether a linter handles a file. -/
def Kind.handles (kind : Kind) (file : Path) : Bool := Kind.ofPath file == some kind

/-- The share of a linter: the files that it handles, of those that are the same path the
first, in order. -/
def Kind.share (kind : Kind) (files : List Path) : List Path :=
  (files.filter kind.handles).eraseDupsBy fun later earlier => decide (later.Same earlier)

theorem Kind.handles_iff {kind : Kind} {file : Path} :
    kind.handles file = true ↔ Kind.ofPath file = some kind := by
  unfold Kind.handles
  exact beq_iff_eq

/-- The files that groups hold for a linter. -/
def filesOf (kind : Kind) (bs : List Batch) : List Path :=
  ((bs.find? fun b => b.kind == kind).map (·.files)).getD []

namespace Batch

/-- Adding files one after another adds those that are not there yet, each once. -/
theorem foldl_addFile (acc fs : List Path) :
    fs.foldl addFile acc = acc ++
      (fs.filter fun f => !acc.any (Path.Same f ·)).eraseDupsBy fun f g => decide (f.Same g) := by
  -- along the files, with those that are there already
  induction fs generalizing acc with
  | nil => simp [List.eraseDupsBy, List.eraseDupsBy.loop]
  | cons f fs ih =>
    rw [List.foldl_cons, ih]
    by_cases hf : acc.any (Path.Same f ·) = true
    · have hadd : addFile acc f = acc := by unfold addFile; rw [if_pos hf]
      rw [hadd, List.filter_cons_of_neg (by simp [hf])]
    · have hadd : addFile acc f = acc ++ [f] := by unfold addFile; rw [if_neg hf]
      rw [hadd, List.filter_cons_of_pos (by simp [hf]), List.eraseDupsBy_cons, List.filter_filter,
        List.append_assoc, List.singleton_append]
      -- not among those with one more: not among them, and not the one
      have hfilter : (fs.filter fun g => !(acc ++ [f]).any (Path.Same g ·)) =
          fs.filter fun g => decide (decide (g.Same f) = false) && !acc.any (Path.Same g ·) := by
        apply List.filter_congr
        intro g _
        by_cases hg : g.Same f <;> simp [List.any_append, hg]
      rw [hfilter]

/-- A file that is added is there afterwards, if maybe in another spelling. -/
theorem exists_same_addFile (files : List Path) (file : Path) :
    ∃ g ∈ addFile files file, g.Same file := by
  unfold addFile
  split
  · rename_i h
    obtain ⟨g, hg, hsame⟩ := List.any_eq_true.1 h
    exact ⟨g, hg, (of_decide_eq_true hsame).symm⟩
  · exact ⟨file, by simp, rfl⟩

theorem mem_addFile_of_mem {files : List Path} {g file : Path} (h : g ∈ files) :
    g ∈ addFile files file := by
  unfold addFile
  split
  · exact h
  · exact List.mem_append_left _ h

theorem distinct_addFile {files : List Path} (file : Path)
    (h : files.Pairwise fun f g => ¬ f.Same g) :
    (addFile files file).Pairwise fun f g => ¬ f.Same g := by
  unfold addFile
  split
  · exact h
  · rename_i hnew
    refine List.pairwise_append.2 ⟨h, List.pairwise_singleton _ _, fun f hf g hg hsame => hnew ?_⟩
    obtain rfl := List.mem_singleton.1 hg
    exact List.any_eq_true.2 ⟨f, hf, decide_eq_true hsame.symm⟩

/-- Of files that are added one after another, those that are left out repeat others. -/
theorem exists_same_foldl_addFile {fs : List Path} (acc : List Path) {f : Path} (hf : f ∈ fs) :
    ∃ g ∈ fs.foldl addFile acc, g.Same f := by
  -- along the files, with those that are there already
  suffices h : ∀ acc : List Path, (f ∈ fs ∨ ∃ g ∈ acc, g.Same f) →
      ∃ g ∈ fs.foldl addFile acc, g.Same f from h acc (.inl hf)
  clear hf
  induction fs with
  | nil => simp
  | cons c fs ih =>
    intro acc h
    refine ih _ ?_
    rcases h with h | ⟨g, hg, hsame⟩
    · rcases List.mem_cons.1 h with rfl | h
      · exact .inr (exists_same_addFile acc f)
      · exact .inl h
    · exact .inr ⟨g, mem_addFile_of_mem hg, hsame⟩

theorem mem_of_mem_foldl_addFile {fs : List Path} {f : Path} (h : f ∈ fs.foldl addFile []) :
    f ∈ fs := by
  refine List.foldlRecOn (motive := fun gs => f ∈ gs → f ∈ fs) fs _ (by simp)
    (fun gs ih g hg hf => ?_) h
  rcases mem_addFile hf with hf | rfl
  · exact ih hf
  · exact hg

theorem distinct_foldl_addFile (fs : List Path) :
    (fs.foldl addFile []).Pairwise fun f g => ¬ f.Same g :=
  List.foldlRecOn _ _ List.Pairwise.nil fun _ h f _ => distinct_addFile f h

/-- Files none of which repeats another are added as they are. -/
theorem foldl_addFile_of_distinct {acc fs : List Path}
    (h : (acc ++ fs).Pairwise fun f g => ¬ f.Same g) : fs.foldl addFile acc = acc ++ fs := by
  induction fs generalizing acc with
  | nil => simp
  | cons f fs ih =>
    have hnew : ¬ acc.any (Path.Same f ·) = true := by
      intro hany
      obtain ⟨g, hg, hsame⟩ := List.any_eq_true.1 hany
      exact (List.pairwise_append.1 h).2.2 g hg f (List.mem_cons_self ..)
        (of_decide_eq_true hsame).symm
    have hadd : addFile acc f = acc ++ [f] := by unfold addFile; rw [if_neg hnew]
    have hrest : ((acc ++ [f]) ++ fs).Pairwise fun f g => ¬ f.Same g := by
      rw [List.append_assoc, List.singleton_append]
      exact h
    rw [List.foldl_cons, hadd, ih hrest, List.append_assoc, List.singleton_append]

end Batch

namespace Kind

variable {kind : Kind} {files : List Path}

theorem share_eq_foldl (kind : Kind) (files : List Path) :
    kind.share files = (files.filter kind.handles).foldl Batch.addFile [] := by
  rw [Batch.foldl_addFile]
  simp [share]

theorem mem_of_mem_share {f : Path} (h : f ∈ kind.share files) :
    f ∈ files ∧ ofPath f = some kind := by
  have hmem : f ∈ files.filter kind.handles := by
    rw [share_eq_foldl] at h
    exact Batch.mem_of_mem_foldl_addFile h
  exact ⟨(List.mem_filter.1 hmem).1, handles_iff.1 (List.mem_filter.1 hmem).2⟩

/-- No file of a linter is lost: its path is in the share, as it was spelled first. -/
theorem exists_same_mem_share {f : Path} (hf : f ∈ files) (hkind : ofPath f = some kind) :
    ∃ g ∈ kind.share files, g.Same f := by
  rw [share_eq_foldl]
  exact Batch.exists_same_foldl_addFile [] (List.mem_filter.2 ⟨hf, handles_iff.2 hkind⟩)

theorem distinct_share (kind : Kind) (files : List Path) :
    (kind.share files).Pairwise fun f g => ¬ f.Same g := by
  rw [share_eq_foldl]
  exact Batch.distinct_foldl_addFile _

/-- A share has nothing to lose. -/
theorem share_share (kind : Kind) (files : List Path) :
    (kind.share files).foldl Batch.addFile [] = kind.share files :=
  Batch.foldl_addFile_of_distinct (distinct_share kind files)

end Kind

/-- In running order there is at most one group for a linter. -/
theorem find?_of_mem {bs : List Batch} (h : bs.Pairwise fun a b => a.kind.rank < b.kind.rank)
    {b : Batch} (hb : b ∈ bs) : (bs.find? fun c => c.kind == b.kind) = some b := by
  induction bs with
  | nil => cases hb
  | cons c cs ih =>
    obtain ⟨hc, hcs⟩ := List.pairwise_cons.1 h
    rcases List.mem_cons.1 hb with rfl | hb
    · simp
    · have hne : (c.kind == b.kind) = false := by
        have hlt := hc b hb
        rw [beq_eq_false_iff_ne]
        intro heq
        rw [heq] at hlt
        omega
      rw [List.find?_cons, hne]
      exact ih hcs hb

theorem filesOf_of_mem {bs : List Batch} (h : bs.Pairwise fun a b => a.kind.rank < b.kind.rank)
    {b : Batch} (hb : b ∈ bs) : filesOf b.kind bs = b.files := by
  unfold filesOf
  rw [find?_of_mem h hb]
  rfl

theorem exists_mem_of_filesOf {bs : List Batch} {kind : Kind} (h : filesOf kind bs ≠ []) :
    ∃ b ∈ bs, b.kind = kind ∧ b.files = filesOf kind bs := by
  unfold filesOf at h ⊢
  cases hfind : bs.find? fun b => b.kind == kind with
  | none => simp [hfind] at h
  | some b =>
    have hkind := List.find?_some hfind
    exact ⟨b, List.mem_of_find?_eq_some hfind, eq_of_beq hkind, rfl⟩

/-- Adding a file to its group leaves the other groups alone. -/
theorem filesOf_add {bs : List Batch} (h : bs.Pairwise fun a b => a.kind.rank < b.kind.rank)
    (kind l : Kind) (file : Path) :
    filesOf l (Batch.add kind file bs) =
      if l = kind then Batch.addFile (filesOf l bs) file else filesOf l bs := by
  induction bs with
  | nil =>
    by_cases hl : kind = l
    · simp [filesOf, Batch.add, Batch.addFile, hl]
    · simp [filesOf, Batch.add, hl, Ne.symm hl]
  | cons c cs ih =>
    obtain ⟨hc, hcs⟩ := List.pairwise_cons.1 h
    unfold Batch.add
    split
    -- a new group in front: the linter has none among the later ones
    · rename_i hlt
      by_cases hl : kind = l
      · subst hl
        have hnone : (c :: cs).find? (fun b => b.kind == kind) = none := by
          rw [List.find?_eq_none]
          intro b hb heq
          have hrank : c.kind.rank ≤ b.kind.rank := by
            rcases List.mem_cons.1 hb with rfl | hb
            · exact le_rfl
            · exact (hc b hb).le
          rw [eq_of_beq heq] at hrank
          omega
        simp [filesOf, hnone, Batch.addFile]
      · simp [filesOf, List.find?_cons, hl, Ne.symm hl]
    · split
      · rename_i hk
        by_cases hl : kind = l
        · simp [filesOf, hk, hl]
        · simp [filesOf, hk, hl, Ne.symm hl]
      · rename_i hk
        by_cases hl : c.kind = l
        · have hne : ¬ l = kind := fun he => hk (hl.trans he)
          simp [filesOf, hl, hne]
        · have hl' : (c.kind == l) = false := by simpa using hl
          have hkeep (ds : List Batch) : filesOf l (c :: ds) = filesOf l ds := by
            simp [filesOf, hl']
          rw [hkeep, hkeep, ih hcs]

/-- **What grouping does to one linter's files** is to add them one after another. -/
theorem filesOf_groupFiles (kind : Kind) (files : List Path) :
    filesOf kind (groupFiles files) = kind.share files := by
  -- along the files, with the groups that are there already
  suffices h : ∀ bs, IsGrouping bs → filesOf kind (files.foldl collect bs) =
      (files.filter kind.handles).foldl Batch.addFile (filesOf kind bs) by
    rw [Kind.share_eq_foldl]
    exact h [] ⟨by simp, by simp, by simp⟩
  induction files with
  | nil => intro bs _; rfl
  | cons f fs ih =>
    intro bs hbs
    rw [List.foldl_cons, ih _ (hbs.collect f)]
    unfold collect
    cases hf : Kind.ofPath f with
    | none =>
      have hno : ¬ kind.handles f = true := by
        rw [Kind.handles_iff, hf]
        nofun
      rw [List.filter_cons_of_neg hno]
    | some l =>
      simp only
      rw [filesOf_add hbs.ordered]
      by_cases hl : kind = l
      · have hyes : kind.handles f = true := by rw [Kind.handles_iff, hf, hl]
        rw [if_pos hl, List.filter_cons_of_pos hyes, List.foldl_cons]
      · have hno : ¬ kind.handles f = true := by
          rw [Kind.handles_iff, hf]
          exact fun he => hl (Option.some.inj he).symm
        rw [if_neg hl, List.filter_cons_of_neg hno]

/-- A group is a share that is not empty. -/
theorem mem_groupFiles_iff {files : List Path} {b : Batch} :
    b ∈ groupFiles files ↔ b.files = b.kind.share files ∧ b.files ≠ [] := by
  have hgroup := isGrouping_groupFiles files
  constructor
  · intro hb
    rw [← filesOf_groupFiles, filesOf_of_mem hgroup.ordered hb]
    exact ⟨rfl, hgroup.filled b hb⟩
  · rintro ⟨hshare, hne⟩
    rw [← filesOf_groupFiles] at hshare
    obtain ⟨c, hc, hkind, hfiles⟩ := exists_mem_of_filesOf (hshare ▸ hne)
    have heq : c = b := by
      cases c
      cases b
      simp_all
    exact heq ▸ hc

/-- A group holds files that are there, and that its linter handles. -/
theorem mem_of_mem_groupFiles {files : List Path} {b : Batch} (hb : b ∈ groupFiles files)
    {f : Path} (hf : f ∈ b.files) : f ∈ files ∧ Kind.ofPath f = some b.kind := by
  rw [(mem_groupFiles_iff.1 hb).1] at hf
  exact Kind.mem_of_mem_share hf

/-- The groups are the shares, in running order and without the empty ones. -/
theorem groupFiles_eq (files : List Path) :
    groupFiles files = (Kind.all.map fun kind => ⟨kind, kind.share files⟩).filter
      fun b => !b.files.isEmpty := by
  have : Std.Irrefl fun a b : Batch => a.kind.rank < b.kind.rank := ⟨fun _ => Nat.lt_irrefl _⟩
  have : Std.Antisymm fun a b : Batch => a.kind.rank < b.kind.rank :=
    ⟨fun _ _ h h' => absurd h (Nat.lt_asymm h')⟩
  have hall : (Kind.all.map fun kind => Batch.mk kind (kind.share files)).Pairwise
      fun a b => a.kind.rank < b.kind.rank :=
    List.pairwise_map.2 (by decide : Kind.all.Pairwise fun k l => k.rank < l.rank)
  refine (isGrouping_groupFiles files).ordered.eq_of_mem_iff (hall.filter _) fun b => ?_
  rw [mem_groupFiles_iff, List.mem_filter, List.mem_map]
  constructor
  · rintro ⟨hshare, hne⟩
    exact ⟨⟨b.kind, b.kind.mem_all, by rw [← hshare]⟩, by simpa using hne⟩
  · rintro ⟨⟨kind, -, rfl⟩, hne⟩
    exact ⟨rfl, by simpa using hne⟩

/-- Lists of files with the same shares have the same groups. -/
theorem groupFiles_congr {files files' : List Path}
    (h : ∀ kind : Kind, kind.share files = kind.share files') :
    groupFiles files = groupFiles files' := by
  rw [groupFiles_eq, groupFiles_eq]
  simp only [h]

/-- The groups stand in running order, and no linter has two. -/
theorem kinds_groupFiles_sublist (files : List Path) :
    ((groupFiles files).map (·.kind)).Sublist Kind.all := by
  rw [groupFiles_eq]
  have hkinds := (List.filter_sublist (p := fun b : Batch => !b.files.isEmpty)
    (l := Kind.all.map fun kind => ⟨kind, kind.share files⟩)).map Batch.kind
  rwa [List.map_map, show Batch.kind ∘ (fun kind => Batch.mk kind (kind.share files)) = id from rfl,
    List.map_id] at hkinds

theorem IsGrouping.tail {b : Batch} {bs : List Batch} (h : IsGrouping (b :: bs)) : IsGrouping bs :=
  ⟨(List.pairwise_cons.1 h.ordered).2, fun c hc => h.filled c (List.mem_cons_of_mem _ hc),
    fun c hc => h.routed c (List.mem_cons_of_mem _ hc)⟩

/-- Of the files of all groups, those that a linter handles are the ones of its group. -/
theorem IsGrouping.filter_handles {bs : List Batch} (h : IsGrouping bs) (kind : Kind) :
    (bs.flatMap (·.files)).filter kind.handles = filesOf kind bs := by
  induction bs with
  | nil => rfl
  | cons b bs ih =>
    have hrouted := h.routed b (List.mem_cons_self ..)
    rw [List.flatMap_cons, List.filter_append, ih h.tail]
    by_cases hkind : b.kind = kind
    · have hown : b.files.filter kind.handles = b.files := by
        rw [List.filter_eq_self]
        intro f hf
        rw [Kind.handles_iff, hrouted f hf, hkind]
      have hnone : filesOf kind bs = [] := by
        by_contra hne
        obtain ⟨c, hc, hck, -⟩ := exists_mem_of_filesOf hne
        have hlt := (List.pairwise_cons.1 h.ordered).1 c hc
        rw [hck, hkind] at hlt
        omega
      have hfirst : filesOf kind (b :: bs) = b.files := by simp [filesOf, hkind]
      rw [hown, hnone, hfirst, List.append_nil]
    · have hother : b.files.filter kind.handles = [] := by
        rw [List.filter_eq_nil_iff]
        intro f hf hyes
        rw [Kind.handles_iff, hrouted f hf] at hyes
        exact hkind (Option.some.inj hyes)
      have hlater : filesOf kind (b :: bs) = filesOf kind bs := by simp [filesOf, hkind]
      rw [hother, hlater, List.nil_append]

theorem groupFiles_flatMap_files (files : List Path) :
    groupFiles ((groupFiles files).flatMap (·.files)) = groupFiles files := by
  apply groupFiles_congr
  intro kind
  rw [Kind.share_eq_foldl, (isGrouping_groupFiles files).filter_handles, filesOf_groupFiles,
    Kind.share_share]

/-- There is a group for a linter just if it handles some file. -/
theorem exists_group_iff {files : List Path} {kind : Kind} :
    (∃ g ∈ groupFiles files, g.kind = kind) ↔ ∃ f ∈ files, Kind.ofPath f = some kind := by
  constructor
  · rintro ⟨g, hg, rfl⟩
    obtain ⟨f, hf⟩ := List.exists_mem_of_ne_nil _ (mem_groupFiles_iff.1 hg).2
    exact ⟨f, mem_of_mem_groupFiles hg hf⟩
  · rintro ⟨f, hf, hkind⟩
    obtain ⟨g, hg, -⟩ := Kind.exists_same_mem_share hf hkind
    exact ⟨⟨kind, kind.share files⟩, mem_groupFiles_iff.2 ⟨rfl, List.ne_nil_of_mem hg⟩, rfl⟩

/-- A path stands in one group, and there once. -/
theorem eq_of_same_in_groups {files : List Path} {g g' : Batch} {f f' : Path}
    (hg : g ∈ groupFiles files) (hg' : g' ∈ groupFiles files) (hf : f ∈ g.files)
    (hf' : f' ∈ g'.files) (hsame : f.Same f') : g = g' ∧ f = f' := by
  have hgroup := isGrouping_groupFiles files
  have hkind : g.kind = g'.kind := by
    have h : some g.kind = some g'.kind := by
      rw [← hgroup.routed g hg f hf, ← hgroup.routed g' hg' f' hf', Kind.ofPath_eq_of_same hsame]
    exact Option.some.inj h
  have hfiles : g.files = g'.files := by
    rw [(mem_groupFiles_iff.1 hg).1, (mem_groupFiles_iff.1 hg').1, hkind]
  have heq : g = g' := by
    cases g
    cases g'
    simp_all
  refine ⟨heq, ?_⟩
  subst heq
  have hdistinct : g.files.Pairwise fun a b => ¬ a.Same b := by
    rw [(mem_groupFiles_iff.1 hg).1]
    exact Kind.distinct_share g.kind files
  have : Std.Symm fun a b : Path => ¬ a.Same b := ⟨fun _ _ h h' => h h'.symm⟩
  by_contra hne
  exact hdistinct.forall hf hf' hne hsame

namespace Checker

/-- What a call does, it does to the groups. -/
theorem lint_congr {σ : Type} {files files' : List Path} (h : groupFiles files = groupFiles files')
    (k : Checker) (run : Runner σ) (s : Session σ) : k.lint run files s = k.lint run files' s := by
  unfold lint
  rw [h]

/-- **Grouping is faithful, and `lint` depends on nothing else.** There is a group for each
linter that handles some file, in running order; none is empty, and each is the share of its
linter. So every file that some linter handles is there under its first spelling, no path is
there twice, and grouping the groups again changes nothing. Two lists with the same shares are
linted alike: the same answer, and the same session afterwards, with its files, the events that
were told and the programs that were started. -/
theorem grouping_faithful (files : List Path) :
    let groups := groupFiles files
    (∀ kind, (∃ g ∈ groups, g.kind = kind) ↔ ∃ f ∈ files, Kind.ofPath f = some kind) ∧
    (groups.map (·.kind)).Sublist Kind.all ∧
    (∀ g ∈ groups, g.files ≠ [] ∧ g.files = g.kind.share files) ∧
    (∀ f ∈ files, ∀ kind, Kind.ofPath f = some kind →
      ∃ g ∈ groups, g.kind = kind ∧ ∃ f' ∈ g.files, f'.Same f) ∧
    (∀ g ∈ groups, ∀ g' ∈ groups, ∀ f ∈ g.files, ∀ f' ∈ g'.files, f.Same f' → g = g' ∧ f = f') ∧
    groupFiles (groups.flatMap (·.files)) = groups ∧
    ∀ files', (∀ kind : Kind, kind.share files = kind.share files') →
      ∀ (σ : Type) (k : Checker) (run : Runner σ) (s : Session σ),
        k.lint run files s = k.lint run files' s := by
  intro groups
  refine ⟨fun kind => exists_group_iff, kinds_groupFiles_sublist files, fun g hg => ?_,
    fun f hf kind hkind => ?_, fun g hg g' hg' f hf f' hf' => eq_of_same_in_groups hg hg' hf hf',
    groupFiles_flatMap_files files, fun files' h σ k run s => ?_⟩
  · obtain ⟨hshare, hne⟩ := mem_groupFiles_iff.1 hg
    exact ⟨hne, hshare⟩
  · obtain ⟨f', hf', hsame⟩ := Kind.exists_same_mem_share hf hkind
    exact ⟨⟨kind, kind.share files⟩, mem_groupFiles_iff.2 ⟨rfl, List.ne_nil_of_mem hf'⟩, rfl, f',
      hf', hsame⟩
  · exact lint_congr (groupFiles_congr h) k run s

theorem grouping_faithful_interleaved :
    let files : List Path := [⟨"/b.ts"⟩, ⟨"//a.js"⟩, ⟨"/notes.txt"⟩, ⟨"/./a.js"⟩]
    let files' : List Path := [⟨"//a.js"⟩, ⟨"/b.ts"⟩]
    (∀ kind : Kind, kind.share files = kind.share files') ∧
      ∀ s : Session Unit,
        twoLinters.lint secondMissing files s = twoLinters.lint secondMissing files' s := by
  intro files files'
  have hshares : ∀ kind : Kind, kind.share files = kind.share files' := by
    intro kind
    cases kind <;> decide +kernel
  obtain ⟨-, -, -, -, -, -, hlint⟩ := grouping_faithful files
  exact ⟨hshares, hlint files' hshares Unit twoLinters secondMissing⟩

end Checker
end LintHub
