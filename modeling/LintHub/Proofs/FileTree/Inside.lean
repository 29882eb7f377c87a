import LintHub.Proofs.FileTree.Again

/-!
# Files in a directory

A file whose path is that of a directory with a name behind it goes into that directory
(`WritesAt.place_eq`), unless a link stands by that name. Writing it comes to that and nothing
else (`write_joinText_cases`), and it can be written there when nothing stands by that name
(`write_joinText_ok`).
-/

namespace LintHub.FileTree

variable {t t' : FileTree} {p : Path} {k l : Place} {s : String}

/-- A file written at a name in a directory goes there, unless a link is in the way. -/
theorem WritesAt.place_eq (hs : IsName s) (h : t.WritesAt (p.joinText s) l) :
    ∃ k, t.LeadsTo p k ∧
      (l = k ++ [s] ∨ ∃ target, t.get? (k ++ [s]) = some (.link target)) := by
  -- behind the directory there is one move to go, so the walk ends at once
  have hend {spot : Spot} (hloc : t.locate true (p.joinText s) = .ok spot) :
      ∃ k, t.LeadsTo p k ∧ ((∃ content mode, spot = .taken (k ++ [s]) (.file content mode)) ∨
        spot = .vacant k s false ∨ (∃ k', spot = .taken k' .directory) ∨
        ∃ target, t.get? (k ++ [s]) = some (.link target)) := by
    obtain ⟨dir, m, k, hstart, hgo, hw⟩ := leadsTo_of_locate_joinText hs hloc
    refine ⟨k, ⟨dir, m, hstart, hgo⟩, ?_⟩
    rw [walk_name] at hw
    split at hw
    · cases hw
    · split at hw
      · cases hw
        exact .inr (.inl rfl)
      · rw [walk_nil] at hw
        cases hw
        exact .inr (.inr (.inl ⟨_, rfl⟩))
      · cases hw
        exact .inl ⟨_, _, rfl⟩
      · rename_i target there
        exact .inr (.inr (.inr ⟨target, there⟩))
  cases h with
  | existing there =>
    obtain ⟨k, hlead, ⟨_, _, heq⟩ | heq | ⟨_, heq⟩ | hlink⟩ := hend there
    · cases heq
      exact ⟨_, hlead, .inl rfl⟩
    · cases heq
    · cases heq
    · exact ⟨k, hlead, .inr hlink⟩
  | fresh missing =>
    obtain ⟨k, hlead, ⟨_, _, heq⟩ | heq | ⟨_, heq⟩ | hlink⟩ := hend missing
    · cases heq
    · cases heq
      exact ⟨_, hlead, .inl rfl⟩
    · cases heq
    · exact ⟨k, hlead, .inr hlink⟩

theorem takes_of_exists (h : t.exists? p = true) : Takes p := by
  unfold exists? at h
  cases hfind : t.find? true p with
  | error e => rw [hfind] at h; cases h
  | ok x => exact (takes_of_locate (find?_eq_ok_iff.1 hfind)).1

theorem exists?_of_leadsTo (hp : Takes p) (h : t.LeadsTo p k) : t.exists? p = true := by
  unfold exists?
  rw [find?_eq_ok_iff.2 (h.locate hp)]
  rfl

theorem isDirectory_eq_false_of_not_exists (h : t.exists? p = false) : t.isDirectory p = false := by
  unfold exists? at h
  unfold isDirectory
  cases hfind : t.find? true p with
  | error e => rfl
  | ok x => rw [hfind] at h; cases h

/-- What a path leads to is known by the path, and so is what leads on from it. -/
theorem Takes.of_joinText {s : String} (h : Takes (p.joinText s)) (hs : IsName s)
    (hp : p.text ≠ "") : Takes p := by
  refine h.of_front ?_ hp
  unfold Path.joinText Path.join
  rw [hs.not_isAbsolute, if_neg Bool.false_ne_true]
  split
  · rename_i hlast
    rw [List.getLast?_eq_none_iff.1 hlast]
    exact List.nil_prefix
  · rw [Path.chars_ofChars]
    exact List.prefix_append _ _
  · rw [Path.chars_ofChars]
    exact List.prefix_append _ _

/-- Outside of the directory nothing changes for it. -/
theorem Writes.sameOutside (hs : IsName s) (h : t.Writes (p.joinText s) t') (hlead : t.LeadsTo p k)
    (hlink : ∀ target, t.get? (k ++ [s]) ≠ some (.link target)) : SameOutside k t t' := by
  cases h with
  | nothing => exact .refl k t
  | @file place hplace content mode =>
    obtain ⟨k', hlead', hk⟩ := hplace.place_eq hs
    obtain rfl := hlead.unique hlead'
    rcases hk with rfl | ⟨target, hget⟩
    · exact .put (hplace.admits _)
    · exact absurd hget (hlink target)

theorem chars_joinText (p : Path) (hs : IsName s) :
    ∃ front, (p.joinText s).chars = front ++ s.toList := by
  unfold Path.joinText Path.join
  rw [hs.not_isAbsolute, if_neg Bool.false_ne_true]
  split
  · exact ⟨[], rfl⟩
  · exact ⟨p.chars, by rw [Path.chars_ofChars]; rfl⟩
  · exact ⟨p.chars ++ ['/'], by rw [Path.chars_ofChars, List.append_assoc]; rfl⟩

/-- A name is the end of a path. -/
theorem withoutTrailing_joinText (p : Path) (hs : IsName s) :
    withoutTrailing (p.joinText s) = p.joinText s := by
  obtain ⟨front, hfront⟩ := chars_joinText p hs
  have hne : s.toList ≠ [] := by
    intro hnil
    have hmove := hs.isMove
    rw [hnil] at hmove
    cases hmove
  -- the last character is that of the name, which is no separator
  have hend : (p.joinText s).chars.getLast? = some (s.toList.getLast hne) := by
    rw [hfront, List.getLast?_append_of_ne_nil _ hne, List.getLast?_eq_some_getLast hne]
  obtain ⟨-, heq⟩ | ⟨cs, c, back, hc, hback, hp, heq⟩ := withoutTrailing_cases (p.joinText s)
  · exact heq
  · rw [heq, hp]
    cases back using List.reverseRecOn with
    | nil => rw [List.append_nil]
    | append_singleton back d =>
      rw [hp, Path.chars_ofChars, ← List.append_assoc, List.getLast?_concat] at hend
      have hd : d = '/' := hback d (by simp)
      rw [Option.some.inj hend] at hd
      exact absurd (hd ▸ List.getLast_mem hne) hs.noSeparator

/-- A path that ends in a name is written to where it leads. -/
theorem locateForWriting_joinText (t : FileTree) (p : Path) (hs : IsName s) :
    t.locateForWriting (p.joinText s) = t.locate true (p.joinText s) := by
  unfold locateForWriting endsInSeparator
  rw [withoutTrailing_joinText p hs, bne_self_eq_false]
  simp only [Bool.false_eq_true, if_false]
  split <;> rfl

/-- **Writing at a path that ends in a name** puts the file where the path leads, or there is no
such place and nothing happens. -/
theorem write_joinText_cases (t : FileTree) (p : Path) (hs : IsName s) (content : Bytes) :
    (∃ k mode, t.WritesAt (p.joinText s) k ∧
      t.write (p.joinText s) content = (.ok (), t.put k (.file content mode))) ∨
    ((∀ k, ¬ t.WritesAt (p.joinText s) k) ∧
      ∃ cause, t.write (p.joinText s) content = (.error cause, t)) := by
  have hnowhere {r : Except FileError Spot} (hr : t.locate true (p.joinText s) = r)
      (hfile : ∀ k content mode, r ≠ .ok (.taken k (.file content mode)))
      (hname : ∀ dir s, r ≠ .ok (.vacant dir s false)) :
      ∀ k, ¬ t.WritesAt (p.joinText s) k := by
    rintro k (there | missing)
    · exact hfile _ _ _ (hr.symm.trans there)
    · exact hname _ _ (hr.symm.trans missing)
  unfold write writeWithMode
  rw [locateForWriting_joinText t p hs]
  cases hloc : t.locate true (p.joinText s) with
  | error cause => exact .inr ⟨hnowhere hloc nofun nofun, cause, rfl⟩
  | ok spot =>
    cases spot with
    | taken k e =>
      cases e with
      | file old mode => exact .inl ⟨k, mode, .existing hloc, rfl⟩
      | directory => exact .inr ⟨hnowhere hloc nofun nofun, _, rfl⟩
      | link target => exact .inr ⟨hnowhere hloc nofun nofun, _, rfl⟩
    | vacant dir name asDirectory =>
      cases asDirectory with
      | false => exact .inl ⟨dir ++ [name], plainMode, .fresh hloc, rfl⟩
      | true => exact .inr ⟨hnowhere hloc nofun nofun, _, rfl⟩

theorem write_joinText_ok (hs : IsName s) (hp : Takes (p.joinText s)) (hlead : t.LeadsTo p k)
    (hsize : s.utf8ByteSize ≤ longestName) (hnone : t.get? (k ++ [s]) = none) (content : Bytes) :
    (t.write (p.joinText s) content).1 = .ok () := by
  obtain ⟨dir, m, hstart, hgo⟩ := hlead
  have hloc : t.locate true (p.joinText s) = .ok (.vacant k s false) := by
    rw [locate_joinText hs hp hstart hgo, walk_name, if_neg (Nat.not_lt.2 hsize), hnone]
    rfl
  obtain ⟨k', mode, -, hwrite⟩ | ⟨hnowhere, -⟩ := write_joinText_cases t p hs content
  · rw [hwrite]
  · exact absurd (.fresh hloc) (hnowhere (k ++ [s]))

end LintHub.FileTree
