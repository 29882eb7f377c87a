import LintHub.Proofs.Shares
import LintHub.Run

/-!
# Diagnostics by file

Diagnostics are grouped in one pass, with an index that says where the group of each file stands.
What comes out is said here without the index: the files in the order in which they are first
spoken of, and for each of them its diagnostics. The index says of every file, at every moment,
just where its group is, so it never points behind the groups.

* `Stands.add`: one more diagnostic, with the index in step.
* `groupByFile_eq`: the groups without an index.
* `isGroupedByFile_groupsOf`: what is in these groups.
-/

namespace LintHub

variable {ds : List Diagnostic} {d : Diagnostic} {f : Path}

/-- The files that diagnostics are about: of those that are the same path the first, in order. -/
def filesIn (ds : List Diagnostic) : List Path :=
  (ds.map (·.file)).eraseDupsBy fun later earlier => decide (later.Same earlier)

/-- The diagnostics on a file, however it is spelled, in order. -/
def onFile (f : Path) (ds : List Diagnostic) : List Diagnostic :=
  ds.filter fun d => decide (d.file.Same f)

/-- Each file with its diagnostics. -/
def groupsOf (ds : List Diagnostic) : List FileGroup :=
  (filesIn ds).map fun f => ⟨f, onFile f ds⟩

theorem filesIn_eq_foldl (ds : List Diagnostic) :
    filesIn ds = (ds.map (·.file)).foldl Batch.addFile [] := by
  rw [Batch.foldl_addFile]
  simp [filesIn]

theorem filesIn_append (ds : List Diagnostic) (d : Diagnostic) :
    filesIn (ds ++ [d]) = Batch.addFile (filesIn ds) d.file := by
  rw [filesIn_eq_foldl, filesIn_eq_foldl, List.map_append, List.foldl_append]
  rfl

theorem filesIn_append_of_same (h : ∃ f ∈ filesIn ds, f.Same d.file) :
    filesIn (ds ++ [d]) = filesIn ds := by
  obtain ⟨f, hf, hsame⟩ := h
  rw [filesIn_append]
  exact if_pos (List.any_eq_true.2 ⟨f, hf, decide_eq_true hsame.symm⟩)

theorem filesIn_append_of_new (h : ¬ ∃ f ∈ filesIn ds, f.Same d.file) :
    filesIn (ds ++ [d]) = filesIn ds ++ [d.file] := by
  rw [filesIn_append]
  refine if_neg fun hany => h ?_
  obtain ⟨f, hf, hsame⟩ := List.any_eq_true.1 hany
  exact ⟨f, hf, (of_decide_eq_true hsame).symm⟩

theorem distinct_filesIn (ds : List Diagnostic) :
    (filesIn ds).Pairwise fun f g => ¬ f.Same g := by
  rw [filesIn_eq_foldl]
  exact List.foldlRecOn _ _ List.Pairwise.nil fun _ h f _ => Batch.distinct_addFile f h

/-- A file has one place only. -/
theorem place_unique {i j : Nat} {g : Path} (hf : (filesIn ds)[i]? = some f)
    (hg : (filesIn ds)[j]? = some g) (h : f.Same g) : i = j := by
  have hdistinct := List.pairwise_iff_getElem.1 (distinct_filesIn ds)
  obtain ⟨hi, rfl⟩ := List.getElem?_eq_some_iff.1 hf
  obtain ⟨hj, rfl⟩ := List.getElem?_eq_some_iff.1 hg
  rcases Nat.lt_trichotomy i j with hlt | heq | hlt
  · exact absurd h (hdistinct i j hi hj hlt)
  · exact heq
  · exact absurd h.symm (hdistinct j i hj hi hlt)

/-- The file of every diagnostic is there, in some spelling. -/
theorem exists_same_mem_filesIn (h : d ∈ ds) : ∃ f ∈ filesIn ds, f.Same d.file := by
  induction ds using List.reverseRecOn with
  | nil => cases h
  | append_singleton ds e ih =>
    rw [filesIn_append]
    rcases List.mem_append.1 h with h | h
    · obtain ⟨f, hf, hsame⟩ := ih h
      exact ⟨f, Batch.mem_addFile_of_mem hf, hsame⟩
    · obtain rfl := List.mem_singleton.1 h
      exact Batch.exists_same_addFile (filesIn ds) d.file

/-- It is spelled as in the first diagnostic on it. -/
theorem find?_of_mem_filesIn (h : f ∈ filesIn ds) :
    (ds.find? fun d => decide (d.file.Same f)).map (·.file) = some f := by
  induction ds using List.reverseRecOn with
  | nil => cases h
  | append_singleton ds e ih =>
    rw [List.find?_append]
    have hold (h : f ∈ filesIn ds) : ((ds.find? fun d => decide (d.file.Same f)).or
        ([e].find? fun d => decide (d.file.Same f))).map (·.file) = some f := by
      obtain ⟨d, hd, hfile⟩ := Option.map_eq_some_iff.1 (ih h)
      rw [hd, Option.some_or, Option.map_some, hfile]
    by_cases hseen : ∃ g ∈ filesIn ds, g.Same e.file
    · rw [filesIn_append_of_same hseen] at h
      exact hold h
    · rw [filesIn_append_of_new hseen, List.mem_append, List.mem_singleton] at h
      rcases h with h | rfl
      · exact hold h
      · have hnone : (ds.find? fun d => decide (d.file.Same e.file)) = none := by
          refine List.find?_eq_none.2 fun d hd hsame => hseen ?_
          obtain ⟨g, hg, hsame'⟩ := exists_same_mem_filesIn hd
          exact ⟨g, hg, hsame'.trans (of_decide_eq_true hsame)⟩
        have hself : decide (e.file.Same e.file) = true := decide_eq_true rfl
        rw [hnone, Option.none_or, List.find?_singleton, if_pos hself]
        rfl

/-- Where a file is first spoken of. -/
def placeOf (f : Path) (ds : List Diagnostic) : Nat := ds.findIdx fun d => decide (d.file.Same f)

/-- A file is there because of a diagnostic on it. -/
theorem exists_of_mem_filesIn (h : f ∈ filesIn ds) : ∃ d ∈ ds, d.file.Same f := by
  obtain ⟨d, hd, -⟩ := Option.map_eq_some_iff.1 (find?_of_mem_filesIn h)
  have hsame := List.find?_some hd
  exact ⟨d, List.mem_of_find?_eq_some hd, of_decide_eq_true hsame⟩

theorem placeOf_lt (h : f ∈ filesIn ds) : placeOf f ds < ds.length := by
  obtain ⟨d, hd, hsame⟩ := exists_of_mem_filesIn h
  exact List.findIdx_lt_length.2 ⟨d, hd, decide_eq_true hsame⟩

/-- The files stand in the order in which they are first spoken of. -/
theorem ordered_filesIn (ds : List Diagnostic) :
    (filesIn ds).Pairwise fun f g => placeOf f ds < placeOf g ds := by
  induction ds using List.reverseRecOn with
  | nil => exact .nil
  | append_singleton ds e ih =>
    have hold {f : Path} (h : f ∈ filesIn ds) : placeOf f (ds ++ [e]) = placeOf f ds := by
      have hlt := placeOf_lt h
      unfold placeOf at hlt ⊢
      rw [List.findIdx_append, if_pos hlt]
    have hkept : (filesIn ds).Pairwise fun f g => placeOf f (ds ++ [e]) < placeOf g (ds ++ [e]) :=
      ih.imp_of_mem fun hf hg hlt => by rwa [hold hf, hold hg]
    by_cases hseen : ∃ g ∈ filesIn ds, g.Same e.file
    · rwa [filesIn_append_of_same hseen]
    · rw [filesIn_append_of_new hseen]
      refine List.pairwise_append.2 ⟨hkept, List.pairwise_singleton _ _, fun f hf g hg => ?_⟩
      obtain rfl := List.mem_singleton.1 hg
      -- nobody spoke of the new file before
      have hnew : ds.length ≤ placeOf e.file (ds ++ [e]) := by
        unfold placeOf
        rw [List.findIdx_append, if_neg]
        · exact Nat.le_add_left _ _
        · intro hlt
          obtain ⟨d, hd, hsame⟩ := List.findIdx_lt_length.1 hlt
          obtain ⟨g, hg, hsame'⟩ := exists_same_mem_filesIn hd
          exact hseen ⟨g, hg, hsame'.trans (of_decide_eq_true hsame)⟩
      rw [hold hf]
      exact Nat.lt_of_lt_of_le (placeOf_lt hf) hnew

theorem onFile_append_of_same (h : d.file.Same f) (ds : List Diagnostic) :
    onFile f (ds ++ [d]) = onFile f ds ++ [d] := by
  unfold onFile
  rw [List.filter_append, List.filter_singleton, decide_eq_true h, cond_true]

theorem onFile_append_of_not_same (h : ¬ d.file.Same f) (ds : List Diagnostic) :
    onFile f (ds ++ [d]) = onFile f ds := by
  unfold onFile
  rw [List.filter_append, List.filter_singleton, decide_eq_false h, cond_false, List.append_nil]

/-- **A file that is there already** gets one more diagnostic at its place. -/
theorem groupsOf_append_of_place {i : Nat} (hi : (filesIn ds)[i]? = some f)
    (hsame : f.Same d.file) : groupsOf (ds ++ [d]) =
      (groupsOf ds).modify i fun g => { g with diagnostics := g.diagnostics ++ [d] } := by
  unfold groupsOf
  rw [filesIn_append_of_same ⟨f, List.mem_of_getElem? hi, hsame⟩]
  refine List.ext_getElem? fun j => ?_
  rw [List.getElem?_modify, List.getElem?_map, List.getElem?_map]
  cases hj : (filesIn ds)[j]? with
  | none => rfl
  | some g =>
    simp only [Option.map_some, Option.map_eq_map]
    by_cases hij : i = j
    · subst hij
      obtain rfl := Option.some.inj (hi.symm.trans hj)
      rw [if_pos rfl, onFile_append_of_same hsame.symm]
    · have hother : ¬ d.file.Same g := fun h => hij (place_unique hi hj (hsame.trans h))
      rw [if_neg hij, onFile_append_of_not_same hother]

/-- **A new file** comes last. -/
theorem groupsOf_append_of_new (h : ¬ ∃ f ∈ filesIn ds, f.Same d.file) :
    groupsOf (ds ++ [d]) = groupsOf ds ++ [⟨d.file, [d]⟩] := by
  have hnone : onFile d.file ds = [] := by
    refine List.filter_eq_nil_iff.2 fun e he hsame => h ?_
    obtain ⟨f, hf, hsame'⟩ := exists_same_mem_filesIn he
    exact ⟨f, hf, hsame'.trans (of_decide_eq_true hsame)⟩
  have hold : ∀ f ∈ filesIn ds, onFile f (ds ++ [d]) = onFile f ds := by
    exact fun f hf => onFile_append_of_not_same (fun hsame => h ⟨f, hf, hsame.symm⟩) ds
  unfold groupsOf
  rw [filesIn_append_of_new h, List.map_append, List.map_singleton, onFile_append_of_same rfl,
    hnone, List.nil_append]
  congr 1
  exact List.map_congr_left fun f hf => by rw [hold f hf]

/-- Adding a diagnostic to one of several groups adds it to the whole. -/
theorem flatMap_modify_perm (d : Diagnostic) {groups : List FileGroup} {i : Nat}
    (hi : i < groups.length) :
    ((groups.modify i fun g => { g with diagnostics := g.diagnostics ++ [d] }).flatMap
      (·.diagnostics)).Perm (groups.flatMap (·.diagnostics) ++ [d]) := by
  induction groups generalizing i with
  | nil => cases hi
  | cons g gs ih =>
    cases i with
    | zero =>
      rw [List.modify_zero_cons, List.flatMap_cons, List.flatMap_cons, List.append_assoc,
        List.append_assoc]
      exact List.perm_append_comm.append_left g.diagnostics
    | succ i =>
      rw [List.modify_succ_cons, List.flatMap_cons, List.flatMap_cons, List.append_assoc]
      exact (ih (Nat.lt_of_succ_lt_succ hi)).append_left g.diagnostics

/-- **The groups hold the diagnostics**, each once. -/
theorem groupsOf_perm (ds : List Diagnostic) : ((groupsOf ds).flatMap (·.diagnostics)).Perm ds := by
  induction ds using List.reverseRecOn with
  | nil => exact .nil
  | append_singleton ds d ih =>
    by_cases hseen : ∃ f ∈ filesIn ds, f.Same d.file
    · obtain ⟨f, hf, hsame⟩ := hseen
      obtain ⟨i, hi⟩ := List.mem_iff_getElem?.1 hf
      have hlength : i < (groupsOf ds).length := by
        rw [groupsOf, List.length_map]
        exact (List.getElem?_eq_some_iff.1 hi).1
      rw [groupsOf_append_of_place hi hsame]
      exact (flatMap_modify_perm d hlength).trans (ih.append_right [d])
    · rw [groupsOf_append_of_new hseen, List.flatMap_append]
      exact ih.append_right [d]

theorem getElem?_concat_iff {α : Type} {as : List α} {a b : α} {i : Nat} :
    (as ++ [a])[i]? = some b ↔ as[i]? = some b ∨ (i = as.length ∧ a = b) := by
  rw [List.getElem?_append]
  split
  · rename_i hlt
    simp [Nat.ne_of_lt hlt]
  · rename_i hge
    have hnone : as[i]? = none := List.getElem?_eq_none (Nat.le_of_not_lt hge)
    have hzero : i - as.length = 0 ↔ i = as.length := by omega
    rw [hnone, List.getElem?_singleton]
    simp [hzero]

namespace GroupIndex

/-- The groups of these diagnostics, and of each file the place of its group. -/
structure Stands (g : GroupIndex) (ds : List Diagnostic) : Prop where
  groups : g.groups = groupsOf ds
  places : ∀ key i, g.places.lookup key = some i ↔
    ∃ f, (filesIn ds)[i]? = some f ∧ f.components = key

/-- A file that is not in the index is not there. -/
theorem Stands.not_exists {g : GroupIndex} (h : g.Stands ds)
    (hnone : g.places.lookup d.file.components = none) : ¬ ∃ f ∈ filesIn ds, f.Same d.file := by
  rintro ⟨f, hf, hsame⟩
  obtain ⟨i, hi⟩ := List.mem_iff_getElem?.1 hf
  rw [(h.places d.file.components i).2 ⟨f, hi, hsame⟩] at hnone
  cases hnone

/-- **One more diagnostic** leaves the index in step. -/
theorem Stands.add {g : GroupIndex} (h : g.Stands ds) (d : Diagnostic) :
    (g.add d).Stands (ds ++ [d]) := by
  unfold GroupIndex.add
  split
  · rename_i i hi
    obtain ⟨f, hf, hsame⟩ := (h.places d.file.components i).1 hi
    refine ⟨?_, ?_⟩
    · simp only [h.groups]
      exact (groupsOf_append_of_place hf hsame).symm
    · rw [filesIn_append_of_same ⟨f, List.mem_of_getElem? hf, hsame⟩]
      exact h.places
  · rename_i hnone
    have hnew := h.not_exists hnone
    have hlength : g.groups.length = (filesIn ds).length := by
      rw [h.groups, groupsOf, List.length_map]
    refine ⟨?_, fun key i => ?_⟩
    · simp only [h.groups]
      exact (groupsOf_append_of_new hnew).symm
    · simp only [filesIn_append_of_new hnew, getElem?_concat_iff, List.lookup_cons]
      by_cases hkey : key = d.file.components
      -- the new file is the last one
      · rw [beq_iff_eq.2 hkey]
        constructor
        · rintro ⟨⟩
          exact ⟨d.file, .inr ⟨hlength, rfl⟩, hkey.symm⟩
        · rintro ⟨f, hf | ⟨hi, rfl⟩, hsame⟩
          · exact absurd ⟨f, List.mem_of_getElem? hf, hsame.trans hkey⟩ hnew
          · rw [hi, hlength]
      · rw [beq_false_of_ne hkey]
        simp only
        rw [h.places]
        constructor
        · rintro ⟨f, hf, hsame⟩
          exact ⟨f, .inl hf, hsame⟩
        · rintro ⟨f, hf | ⟨-, rfl⟩, hsame⟩
          · exact ⟨f, hf, hsame⟩
          · exact absurd hsame.symm hkey

/-- **At every moment** the index is in step with the groups. -/
theorem stands_foldl (ds : List Diagnostic) : (ds.foldl GroupIndex.add empty).Stands ds := by
  induction ds using List.reverseRecOn with
  | nil => exact ⟨rfl, by simp [empty, filesIn]⟩
  | append_singleton ds d ih =>
    rw [List.foldl_append]
    exact ih.add d

end GroupIndex

/-- **Grouping by file** gives each file with its diagnostics. -/
theorem groupByFile_eq (ds : List Diagnostic) : groupByFile ds = groupsOf ds :=
  (GroupIndex.stands_foldl ds).groups

/-- A place in the index is that of the file's group. -/
theorem GroupIndex.lookup_foldl_iff (ds : List Diagnostic) (key : List Path.Component) (i : Nat) :
    let g := ds.foldl GroupIndex.add empty
    g.places.lookup key = some i ↔ ∃ group, g.groups[i]? = some group ∧
      group.file.components = key := by
  intro g
  have h : g.Stands ds := stands_foldl ds
  rw [h.places, h.groups, groupsOf]
  simp only [List.getElem?_map, Option.map_eq_some_iff]
  constructor
  · rintro ⟨f, hf, hkey⟩
    exact ⟨_, ⟨f, hf, rfl⟩, hkey⟩
  · rintro ⟨group, ⟨f, hf, rfl⟩, hkey⟩
    exact ⟨f, hf, hkey⟩

/-- These are the groups of these diagnostics. -/
structure IsGroupedByFile (ds : List Diagnostic) (gs : List FileGroup) : Prop where
  /-- A group holds the diagnostics on its file, in order. -/
  held : ∀ g ∈ gs, g.diagnostics = onFile g.file ds
  filled : ∀ g ∈ gs, g.diagnostics ≠ []
  /-- It is headed by the spelling seen first. -/
  spelled : ∀ g ∈ gs, (ds.find? fun d => decide (d.file.Same g.file)).map (·.file) = some g.file
  ordered : gs.Pairwise fun g h => placeOf g.file ds < placeOf h.file ds
  distinct : gs.Pairwise fun g h => ¬ g.file.Same h.file
  kept : (gs.flatMap (·.diagnostics)).Perm ds

theorem isGroupedByFile_groupsOf (ds : List Diagnostic) : IsGroupedByFile ds (groupsOf ds) where
  held := by
    intro g hg
    obtain ⟨f, -, rfl⟩ := List.mem_map.1 hg
    rfl
  filled := by
    intro g hg hempty
    obtain ⟨f, hf, rfl⟩ := List.mem_map.1 hg
    obtain ⟨d, hd, hsame⟩ := exists_of_mem_filesIn hf
    exact List.filter_eq_nil_iff.1 hempty d hd (decide_eq_true hsame)
  spelled := by
    intro g hg
    obtain ⟨f, hf, rfl⟩ := List.mem_map.1 hg
    exact find?_of_mem_filesIn hf
  ordered := List.pairwise_map.2 (ordered_filesIn ds)
  distinct := List.pairwise_map.2 (distinct_filesIn ds)
  kept := groupsOf_perm ds

end LintHub
