import LintHub.Proofs.FileTree.Along

/-!
# Directories that are removed and made again

If a path leads to a real directory, the directory can be removed and made again, and then it
is empty and nothing else has changed (`agree_of_renewed`): each beginning of the path leads
somewhere while the directory is there, so it is all that can be missing.

In two trees that differ only in this directory, both steps end alike (`removeAll_alike`,
`Agree.makeDirectories`).
-/

namespace LintHub.FileTree

variable {t t' : FileTree} {follow asDirectory : Bool} {n : Nat} {p q : Path} {dir k l : Place}
  {ms : List Move} {s : String}

/-- A walk that ended at a missing name does so in a larger tree where the name is missing. -/
theorem walk_vacant_of_grows (hgrows : t.Grows t')
    (h : t.walk follow n dir ms = .ok (.vacant k s asDirectory))
    (hnone : t'.get? (k ++ [s]) = none) :
    t'.walk follow n dir ms = .ok (.vacant k s asDirectory) := by
  induction n, dir, ms using walk_induction with
  | nil => simp at h
  | nothing n dir ms ih => simpa using ih (by simpa using h)
  | stay n dir ms ih => simpa using ih (by simpa using h)
  | up n dir ms ih => simpa using ih (by simpa using h)
  | name n dir s' ms ih ihlink =>
    rw [walk_name] at h ⊢
    split at h
    · cases h
    · rename_i size
      rw [if_neg size]
      split at h
      · split at h
        · rename_i hall
          cases h
          rw [hnone]
          simp only [hall, if_true]
        · cases h
      · rename_i there
        rw [hgrows.directory there]
        exact ih _ h
      · split at h <;> cases h
      · rename_i target there
        rw [hgrows.link there]
        split at h
        · cases h
        · rename_i hlast
          simp only [hlast, Bool.false_eq_true, if_false]
          split at h
          · cases h
          · exact ihlink _ (Nat.lt_succ_self _) _ _ h

theorem locate_vacant_of_grows (hgrows : t.Grows t')
    (h : t.locate follow p = .ok (.vacant k s asDirectory)) (hnone : t'.get? (k ++ [s]) = none) :
    t'.locate follow p = .ok (.vacant k s asDirectory) := by
  obtain ⟨htakes, dir, hstart, hw⟩ := takes_of_locate h
  rw [locate_of_takes htakes (hgrows.keepsWays.start? hstart)]
  exact walk_vacant_of_grows hgrows hw hnone

theorem get?_eraseBelow_self (t : FileTree) (k : Place) : (t.eraseBelow k).get? k = t.get? k := by
  rw [get?_eraseBelow]
  simp [Place.isBelow]

/-- Elsewhere it makes no difference whether the place itself is removed. -/
theorem get?_erase_of_ne (t : FileTree) (hl : l ≠ k) :
    (t.erase k).get? l = (t.eraseBelow k).get? l := by
  rw [get?_erase, get?_eraseBelow]
  by_cases hpre : k <+: l
  · rw [if_pos hpre, Place.isBelow_iff.2 ⟨hpre, hl⟩]
    rfl
  · rw [if_neg hpre, Place.isBelow_eq_false_iff.2 fun h => absurd h hpre]
    rfl

/-- A directory that has been emptied is all that its removal takes away. -/
theorem erase_adds_eraseBelow (hk : t.get? k = some .directory) :
    (t.erase k).AddsDirectories (t.eraseBelow k) := by
  refine ⟨rfl, fun l => ?_⟩
  by_cases hl : l = k
  · subst hl
    refine .inr ⟨?_, (get?_eraseBelow_self t l).trans hk⟩
    rw [get?_erase, if_pos (List.prefix_refl l)]
  · exact .inl (get?_erase_of_ne t hl).symm

/-- **Along the path of a directory that has been removed** nothing is made, or the directory. -/
theorem MadeAlong.agree_of_erased (h : (t.erase k).MadeAlong p t') (hp : Takes p)
    (hk : t.get? k = some .directory) (hlead : (t.eraseBelow k).LeadsTo p k) :
    (t.erase k).Agree t' ∨ (t.eraseBelow k).Agree t' := by
  have hadds := erase_adds_eraseBelow hk
  induction h with
  | nothing => exact .inl (.refl _)
  | @one t₁ t₂ q before begins made ih =>
    -- while the directory is there, the beginning of its path leads somewhere
    have hne := text_ne_of_makeDirectory made
    have hstart := start?_of_front (t.eraseBelow k) begins.chars hne
    obtain ⟨l, hleadq⟩ := hlead.of_counting hstart begins.moves
    have hthere := makeDirectory_of_leadsTo (hp.of_front begins.chars hne) hleadq
    rcases ih with hagree | hagree
    · obtain ⟨dir, s, asDirectory, hloc, rfl⟩ := makeDirectory_eq_ok made
      rw [hagree.locate] at hloc
      obtain ⟨hdir, hnone⟩ := vacant_of_locate hloc
      -- so it is what was missing
      have hplace : dir ++ [s] = k := by
        by_contra hother
        have hstill := (get?_erase_of_ne t hother).symm.trans hnone
        have hvacant := locate_vacant_of_grows hadds.grows hloc hstill
        unfold makeDirectory at hthere
        rw [hvacant] at hthere
        cases hthere
      subst hplace
      refine .inr ⟨by rw [here_put, hagree.here]; rfl, fun l => ?_⟩
      have hadmits := admits_of_vacant ((hagree.hasDirectory dir).trans hdir)
        ((hagree.get? _).trans hnone) .directory
      rw [get?_put hadmits, hagree.get?]
      by_cases hl : l = dir ++ [s]
      · rw [if_pos hl, hl, get?_eraseBelow_self, hk]
      · rw [if_neg hl, get?_erase_of_ne t hl]
    · have hsame := (hagree.makeDirectory q).result
      rw [hthere, made] at hsame
      cases hsame

/-- What can be removed by its path is led to as long as it is there. -/
theorem leadsTo_of_removalFault (hfind : t.find? false p = .ok (k, .directory))
    (hfault : (t.eraseBelow k).removalFault p = none) :
    (t.eraseBelow k).LeadsTo p k ∧ t.get? k = some .directory := by
  have hloc := find?_eq_ok_iff.1 hfind
  have hne : p.text ≠ "" := by simpa using (takes_of_locate hloc).1.nonempty
  unfold removalFault at hfault
  split at hfault
  · rename_i s hlast
    split at hfault
    · rename_i k' hfind'
      have hlead' := leadsTo_of_locate (find?_eq_ok_iff.1 hfind')
      have hlead := (leadsTo_withoutTrailing hne).1 hlead'
      obtain rfl := (leadsTo_of_locate hloc).unique
        ((eraseBelow_grows t k).keepsWays.leadsTo hlead)
      refine ⟨hlead, ?_⟩
      rcases hasDirectory_iff.1 hlead.hasDirectory with rfl | hget
      -- the root is never led to by a name in an empty tree
      · refine absurd hlead' (not_leadsTo_of_empty (fun l => ?_) hlast)
        cases l with
        | nil => exact get?_root
        | cons s l =>
          rw [get?_eraseBelow, if_pos (Place.isBelow_iff.2 ⟨List.nil_prefix, by simp⟩)]
      · rwa [get?_eraseBelow_self] at hget
    · cases hfault
    · cases hfault
  · split at hfault <;> cases hfault

/-- **A real directory that is removed and made again** is empty, and all else is as it was. -/
theorem agree_of_renewed (hfind : t.find? false p = .ok (k, .directory))
    (hremove : (t.removeAll p).1 = .ok ())
    (hmake : (t.removeAll p).2.makeDirectories p = (.ok (), t')) :
    (t.eraseBelow k).Agree t' ∧ t'.LeadsTo p k := by
  have hloc := find?_eq_ok_iff.1 hfind
  have hp := (takes_of_locate hloc).1
  have hne : p.text ≠ "" := by simpa using hp.nonempty
  have hnot := not_leadsTo_of_removeAll_ok hp hremove
  obtain ⟨hfault, herase⟩ : (t.eraseBelow k).removalFault p = none ∧
      (t.removeAll p).2 = t.erase k := by
    unfold removeAll at hremove ⊢
    simp only [hfind] at hremove ⊢
    split at hremove
    · cases hremove
    · rename_i hfault
      rw [hfault]
      exact ⟨rfl, rfl⟩
  obtain ⟨hlead, hk⟩ := leadsTo_of_removalFault hfind hfault
  rw [herase] at hmake hnot
  have hmade := madeAlong_makeDirectories (t.erase k) p
  rw [hmake] at hmade
  obtain ⟨l, hleadl⟩ := leadsTo_of_makeDirectories_ok hne hmake
  rcases hmade.agree_of_erased hp hk hlead with hagree | hagree
  · exact absurd (hagree.symm.grows.keepsWays.leadsTo hleadl) (hnot l)
  · exact ⟨hagree, hagree.grows.keepsWays.leadsTo hlead⟩

/-- Trees that differ only in a directory agree when it is emptied. -/
theorem SameOutside.agree (h : SameOutside k t t') : (t.eraseBelow k).Agree (t'.eraseBelow k) := by
  refine ⟨h.here, fun l => ?_⟩
  rw [get?_eraseBelow, get?_eraseBelow]
  cases hl : Place.isBelow l k with
  | true => rfl
  | false => exact h.get? l hl

/-- **Removing a directory** ends alike in trees that differ only in what is in it. -/
theorem removeAll_alike (h : SameOutside k t t') (hfind : t.find? false p = .ok (k, .directory))
    (hfind' : t'.find? false p = .ok (k, .directory)) :
    SameChange (t.removeAll p) (t'.removeAll p) := by
  have hagree := h.agree
  unfold removeAll
  simp only [hfind, hfind']
  rw [hagree.removalFault]
  cases (t.eraseBelow k).removalFault p with
  | some e => exact ⟨rfl, hagree⟩
  | none =>
    refine ⟨rfl, h.here, fun l => ?_⟩
    by_cases hl : l = k
    · rw [get?_erase, get?_erase, hl, if_pos (List.prefix_refl k), if_pos (List.prefix_refl k)]
    · rw [get?_erase_of_ne t hl, get?_erase_of_ne t' hl, hagree.get?]

/-- **Making directories** ends alike in trees that agree. -/
theorem Agree.makeDirectories (h : t.Agree t') (p : Path) :
    SameChange (t.makeDirectories p) (t'.makeDirectories p) := by
  unfold FileTree.makeDirectories
  generalize p.chars.length + 1 = n
  induction n generalizing t t' p with
  | zero => exact ⟨rfl, h⟩
  | succ n ih =>
    have hthere {t t' : FileTree} (h : t.Agree t') (cause : FileError) :
        SameChange (if t.isDirectory p then (.ok (), t) else (.error cause, t) : Change Unit)
          (if t'.isDirectory p then (.ok (), t') else (.error cause, t')) := by
      rw [h.isDirectory]
      split
      · exact ⟨rfl, h⟩
      · exact ⟨rfl, h⟩
    rw [makeDirectoriesWithin, makeDirectoriesWithin]
    split
    · exact ⟨rfl, h⟩
    obtain ⟨e, s, s', hx, hy, hs⟩ | ⟨_, s, s', hx, hy, hs⟩ := (h.makeDirectory p).cases_eq
    · rw [hx, hy]
      cases e with
      | notFound =>
        simp only
        cases p.parent? with
        | none => exact ⟨rfl, hs⟩
        | some q =>
          simp only
          obtain ⟨e, u, u', hx, hy, hu⟩ | ⟨_, u, u', hx, hy, hu⟩ := (ih hs q).cases_eq
          · rw [hx, hy]
            exact ⟨rfl, hu⟩
          · rw [hx, hy]
            simp only
            obtain ⟨e, w, w', hx, hy, hw⟩ | ⟨_, w, w', hx, hy, hw⟩ := (hu.makeDirectory p).cases_eq
            · rw [hx, hy]
              exact hthere hw e
            · rw [hx, hy]
              exact ⟨rfl, hw⟩
      | _ => exact hthere hs _
    · rw [hx, hy]
      exact ⟨rfl, hs⟩

end LintHub.FileTree
