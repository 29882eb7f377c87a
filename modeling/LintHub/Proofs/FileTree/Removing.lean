import LintHub.Proofs.FileTree.Making

/-!
# Removing directories

A removal takes entries away and adds none. After one that succeeded the path leads nowhere
(`not_leadsTo_of_removeAll_ok`); after one that failed the directory that the path still leads
to is empty (`empty_of_removeAll_error`).
-/

namespace LintHub.FileTree

variable {t t' : FileTree} {p : Path} {k : Place}

theorem grows_of_sub (hhere : t'.here = t.here) (h : ∀ l, t'.get? l = none ∨ t'.get? l = t.get? l) :
    t'.Grows t := by
  refine ⟨hhere.symm, fun l e hl => ?_⟩
  rcases h l with hnone | heq
  · rw [hnone] at hl
    cases hl
  · exact ⟨e, heq ▸ hl, .refl e⟩

theorem erase_grows (t : FileTree) (k : Place) : (t.erase k).Grows t := by
  refine grows_of_sub rfl fun l => ?_
  rw [get?_erase]
  by_cases h : k <+: l
  · exact .inl (if_pos h)
  · exact .inr (if_neg h)

theorem eraseBelow_grows (t : FileTree) (k : Place) : (t.eraseBelow k).Grows t := by
  refine grows_of_sub rfl fun l => ?_
  rw [get?_eraseBelow]
  cases Place.isBelow l k
  · exact .inr rfl
  · exact .inl rfl

theorem removeAll_grows (t : FileTree) (p : Path) : (t.removeAll p).2.Grows t := by
  unfold removeAll
  split
  · exact .refl t
  · exact erase_grows t _
  · exact .refl t
  · split
    · exact eraseBelow_grows t _
    · exact erase_grows t _

/-- What is at the end of a path without its last link followed, if the path leads to a
directory. -/
theorem find?_false_of_leadsTo (hp : Takes p) (h : t.LeadsTo p k) :
    t.find? false p = .ok (k, .directory) ∨
      ∃ l target, t.find? false p = .ok (l, .link target) := by
  have hloc := h.locate hp
  obtain ⟨-, dir, hstart, hw⟩ := takes_of_locate hloc
  rcases walk_false t linkLimit dir (moves p) with heq | ⟨l, target, hlink⟩
  · refine .inl (find?_eq_ok_iff.2 ?_)
    rw [locate_of_takes hp hstart, heq, hw]
  · refine .inr ⟨l, target, find?_eq_ok_iff.2 ?_⟩
    rw [locate_of_takes hp hstart, hlink]

/-- A way that goes on in a smaller tree does so through the link at its end. -/
theorem Goes.link_there {n m : Nat} {dir l : Place} {ms : List Move} {target : String}
    (h : t'.Goes n dir ms m k) (hgrows : t'.Grows t)
    (hw : t.walk false n dir ms = .ok (.taken l (.link target))) :
    (t'.get? l).isSome = true := by
  induction h with
  | here => simp at hw
  | nothing _ ih => exact ih (by simpa using hw)
  | stay _ ih => exact ih (by simpa using hw)
  | up _ ih => exact ih (by simpa using hw)
  | into size there _ ih =>
    rw [walk_name, if_neg (Nat.not_lt.2 size), hgrows.directory there] at hw
    exact ih hw
  | via size there _ ih =>
    rw [walk_name, if_neg (Nat.not_lt.2 size), hgrows.link there] at hw
    simp only at hw
    split at hw
    · cases hw
      rw [there]
      rfl
    · exact ih hw

/-- A path whose last move is a name leads nowhere in an empty tree. -/
theorem not_leadsTo_of_empty (h : ∀ l, t.get? l = none) {s : String}
    (hlast : lastMove p = some (.name s)) : ¬ t.LeadsTo (withoutTrailing p) k := by
  rintro ⟨dir, m, -, hgo⟩
  obtain ⟨init, hinit⟩ := List.getLast?_eq_some_iff.1 hlast
  rw [hinit] at hgo
  obtain ⟨n, d, -, hend⟩ := hgo.split
  exact Goes.not_of_empty (fun l _ => h l) hend

/-- **After a removal** the path leads nowhere. -/
theorem not_leadsTo_of_removeAll_ok (hp : Takes p) (h : (t.removeAll p).1 = .ok ()) (k : Place) :
    ¬ (t.removeAll p).2.LeadsTo p k := by
  unfold removeAll at h ⊢
  intro hlead
  split at h
  · cases h
  · rename_i l target hfind
    -- a link is gone, and every way there led through it
    obtain ⟨-, dir, hstart, hw⟩ := takes_of_locate (find?_eq_ok_iff.1 hfind)
    simp only [hfind] at hlead
    obtain ⟨dir', m, hstart', hgo⟩ := hlead
    have hsame := (erase_grows t l).keepsWays.start? hstart'
    rw [hstart] at hsame
    cases hsame
    have hthere := hgo.link_there (erase_grows t l) hw
    rw [get?_erase, if_pos (List.prefix_refl l)] at hthere
    cases hthere
  · cases h
  · rename_i l hfind
    simp only [hfind] at hlead
    split at h
    · cases h
    · rename_i hfault
      simp only [hfault] at hlead
      -- the last move is a name, and it leads to the directory that is now gone
      have hne : p.text ≠ "" := by simpa using hp.nonempty
      have hleadt := (erase_grows t l).keepsWays.leadsTo hlead
      have hlt : t.LeadsTo p l := leadsTo_of_locate (find?_eq_ok_iff.1 hfind)
      obtain rfl := hlt.unique hleadt
      unfold removalFault at hfault
      split at hfault
      · rename_i s hlast
        by_cases hroot : l = []
        · refine not_leadsTo_of_empty (fun l' => ?_) hlast ((leadsTo_withoutTrailing hne).2 hlead)
          rw [get?_erase, hroot, if_pos List.nil_prefix]
        · rcases hasDirectory_iff.1 hlead.hasDirectory with h | h
          · exact hroot h
          · rw [get?_erase, if_pos (List.prefix_refl l)] at h
            cases h
      · split at hfault <;> cases hfault

/-- After a removal that failed, what the path leads to is an empty directory. -/
theorem empty_of_removeAll_error {cause : FileError} (hp : Takes p)
    (h : (t.removeAll p).1 = .error cause) (hlead : (t.removeAll p).2.LeadsTo p k) {l : Place}
    (hl : Place.isBelow l k = true) : (t.removeAll p).2.get? l = none := by
  have hleadt := (removeAll_grows t p).keepsWays.leadsTo hlead
  have hfind := find?_false_of_leadsTo hp hleadt
  unfold removeAll at h hlead ⊢
  -- a link at the end is removed without fail
  rcases hfind with hfind | ⟨l, target, hfind⟩
  · simp only [hfind] at h hlead ⊢
    split at h
    · simp only
      rw [get?_eraseBelow, hl]
      rfl
    · cases h
  · simp only [hfind] at h
    cases h

end LintHub.FileTree
