import LintHub.Proofs.FileTree.Agree
import LintHub.Proofs.FileTree.Removing

/-!
# Making a directory again

A directory that has been made may be removed and made again, whatever is in it by then, and
the tree is as it was after the first time, as long as nothing has changed outside of the
directory (`SameOutside`).

* `removeAll_again`, `makeDirectories_again`: the two steps.
-/

namespace LintHub.Text

/-- The last piece of a text ends as the text does. -/
theorem getLast?_fields {sep c : Char} (hc : c ≠ sep) (cs : List Char) :
    ∃ f, (fields sep (cs ++ [c])).getLast? = some (f ++ [c]) := by
  induction cs with
  | nil => exact ⟨[], by simp [fields, hc]⟩
  | cons d cs ih =>
    obtain ⟨f, hf⟩ := ih
    rw [List.cons_append, fields]
    split
    · exact ⟨f, by rw [List.getLast?_cons, hf]; rfl⟩
    · cases hfields : fields sep (cs ++ [c]) with
      | nil => exact absurd hfields (fields_ne_nil sep _)
      | cons g gs =>
        rw [hfields] at hf
        cases gs with
        | nil =>
          simp only [List.getLast?_singleton, Option.some.injEq] at hf
          exact ⟨d :: f, by simp [hf]⟩
        | cons g' gs =>
          rw [List.getLast?_cons_cons] at hf
          exact ⟨f, by rw [List.getLast?_cons_cons, hf]⟩

end LintHub.Text

namespace LintHub.FileTree

variable {t t' t'' t₀ : FileTree} {p : Path} {k : Place}

/-- A path that ends at a missing name has that name, or a link to it, as its last piece. -/
theorem lastMove_of_vacant {dir : Place} {s : String} {asDirectory : Bool}
    (h : t.locate false (withoutTrailing p) = .ok (.vacant dir s asDirectory)) :
    ∃ name, lastMove p = some (.name name) := by
  obtain ⟨-, start, -, hw⟩ := takes_of_locate h
  unfold lastMove
  obtain ⟨hall, heq⟩ | ⟨cs, c, -, hc, -, -, heq⟩ := withoutTrailing_cases p
  · have hmoves := moves_trailing [] hall
    rw [List.nil_append, Path.ofChars_chars] at hmoves
    -- separators alone lead to the root
    rw [heq, hmoves, walk_of_all_nothing (by simp [moves, Text.fields, Move.ofPiece])] at hw
    cases hw
  · obtain ⟨f, hlast⟩ := Text.getLast?_fields hc cs
    obtain ⟨init, hinit⟩ := List.getLast?_eq_some_iff.1 hlast
    have hmoves : moves (withoutTrailing p) =
        init.map Move.ofPiece ++ [Move.ofPiece (f ++ [c])] := by
      rw [heq, moves, Path.chars_ofChars, hinit, List.map_append, List.map_singleton]
    rw [hmoves] at hw ⊢
    rw [List.getLast?_concat]
    -- dots at the end lead to a directory, never to a missing name
    cases hmv : Move.ofPiece (f ++ [c]) with
    | name name => exact ⟨name, rfl⟩
    | nothing =>
      unfold Move.ofPiece at hmv
      split at hmv <;> simp_all
    | stay =>
      rw [hmv] at hw
      obtain ⟨m, l, -, hend⟩ := goes_of_walk_append (by rfl) hw
      simp at hend
    | up =>
      rw [hmv] at hw
      obtain ⟨m, l, -, hend⟩ := goes_of_walk_append (by rfl) hw
      simp at hend

/-- A separator at the end changes nothing for a directory. -/
theorem locate_of_withoutTrailing {follow : Bool} (hp : Takes p)
    (h : t.locate follow (withoutTrailing p) = .ok (.taken k .directory)) :
    t.locate follow p = .ok (.taken k .directory) := by
  obtain ⟨hpre, hempty, n, hmoves⟩ := withoutTrailing_spec p
  obtain ⟨htakes, dir, hstart, hw⟩ := takes_of_locate h
  have hne : (withoutTrailing p).text ≠ "" := by simpa using htakes.nonempty
  rw [start?_of_front t hpre hne] at hstart
  rw [locate_of_takes hp hstart, hmoves]
  cases n with
  | zero => rw [List.replicate_zero, List.append_nil, hw]
  | succ n =>
    obtain ⟨m, hgo⟩ := goes_of_walk hw
    rw [hgo.walk_append (.inr (by simp)), walk_of_all_nothing (by simp)]

/-- What has been made is a directory, not a link to one, and it is all that is new. -/
theorem place_of_makeDirectory (hp : p.text ≠ "") (hmade : t₀.makeDirectory p = (.ok (), t))
    (hlead : t.LeadsTo p k) :
    t.locate false (withoutTrailing p) = .ok (.taken k .directory) ∧
      t₀.hasDirectory k = false ∧ t₀.get? k = none ∧ ∀ l, l ≠ k → t.get? l = t₀.get? l := by
  obtain ⟨k', hmakes⟩ := makes_of_makeDirectory hp hmade
  obtain ⟨dir, s, asDirectory, hloc, rfl⟩ := makeDirectory_eq_ok hmade
  obtain ⟨hdir, hnone⟩ := vacant_of_locate hloc
  have hadmits := admits_of_vacant hdir hnone .directory
  have hnew : (t₀.put (dir ++ [s]) .directory).get? (dir ++ [s]) = some .directory := by
    rw [get?_put hadmits, if_pos rfl]
  have hthere := locate_of_vacant hmakes.adds.grows hloc hnew (.inl rfl)
  obtain rfl := hlead.unique ((leadsTo_withoutTrailing hp).1 (leadsTo_of_locate hthere))
  refine ⟨hthere, ?_, hnone, fun l hl => by rw [get?_put hadmits, if_neg hl]⟩
  rw [← Bool.not_eq_true, hasDirectory_iff]
  simp [hnone]

/-- The same stands everywhere but below a place. -/
structure SameOutside (k : Place) (t t' : FileTree) : Prop where
  here : t'.here = t.here
  get? : ∀ l, Place.isBelow l k = false → t'.get? l = t.get? l

namespace SameOutside

theorem refl (k : Place) (t : FileTree) : SameOutside k t t := ⟨rfl, fun _ _ => rfl⟩

theorem trans (h : SameOutside k t t') (h' : SameOutside k t' t'') : SameOutside k t t'' :=
  ⟨h'.here.trans h.here, fun l hl => (h'.get? l hl).trans (h.get? l hl)⟩

theorem symm (h : SameOutside k t t') : SameOutside k t' t :=
  ⟨h.here.symm, fun l hl => (h.get? l hl).symm⟩

/-- What is put into a directory. -/
theorem put {s : String} {e : Entry} (hadmits : t.admits (k ++ [s]) e = true) :
    SameOutside k t (t.put (k ++ [s]) e) := by
  refine ⟨here_put .., fun l hl => ?_⟩
  rw [get?_put hadmits, if_neg]
  rintro rfl
  rw [isBelow_append_singleton] at hl
  cases hl

/-- What fills an empty directory. -/
theorem grows (h : SameOutside k t t')
    (hempty : ∀ l, Place.isBelow l k = true → t.get? l = none) : t.Grows t' := by
  refine ⟨h.here, fun l e hl => ?_⟩
  cases hb : Place.isBelow l k with
  | true =>
    rw [hempty l hb] at hl
    cases hl
  | false => exact ⟨e, (h.get? l hb).trans hl, .refl e⟩

/-- What fills an empty directory can be removed again. -/
theorem agree_eraseBelow (h : SameOutside k t t')
    (hempty : ∀ l, Place.isBelow l k = true → t.get? l = none) : t.Agree (t'.eraseBelow k) := by
  refine ⟨h.here, fun l => ?_⟩
  rw [get?_eraseBelow]
  cases hb : Place.isBelow l k with
  | true => exact (hempty l hb).symm
  | false => exact h.get? l hb

end SameOutside

/-- **A directory that has been made can be removed**, whatever is in it by now. -/
theorem removeAll_again (hp : Takes p) (hmade : t₀.makeDirectory p = (.ok (), t))
    (hlead : t.LeadsTo p k) (hempty : ∀ l, Place.isBelow l k = true → t.get? l = none)
    (h : SameOutside k t t') : t'.exists? p = true ∧ t'.removeAll p = (.ok (), t'.erase k) := by
  have hne : p.text ≠ "" := by simpa using hp.nonempty
  obtain ⟨hloc, -, -, -⟩ := place_of_makeDirectory hne hmade hlead
  obtain ⟨e, rfl, hloc'⟩ := (h.grows hempty).locate (locate_of_withoutTrailing hp hloc)
  have hlead' := (h.grows hempty).keepsWays.leadsTo hlead
  obtain ⟨dir, s, asDirectory, hvacant, -⟩ := makeDirectory_eq_ok hmade
  obtain ⟨name, hlast⟩ := lastMove_of_vacant hvacant
  -- once it is empty, nothing stops its removal
  have hfault : (t'.eraseBelow k).removalFault p = none := by
    unfold removalFault
    rw [hlast]
    simp only
    rw [(h.agree_eraseBelow hempty).find?, find?_eq_ok_iff.2 hloc]
  constructor
  · unfold exists?
    rw [find?_eq_ok_iff.2 (hlead'.locate hp)]
    rfl
  · unfold removeAll
    rw [find?_eq_ok_iff.2 hloc']
    simp only
    rw [hfault]

/-- **Making it again** leads to the same tree. -/
theorem makeDirectories_again (hne : p.text ≠ "") (hmade : t₀.makeDirectory p = (.ok (), t))
    (hlead : t.LeadsTo p k) (h : SameOutside k t t') :
    ∃ t'', t.Agree t'' ∧ (t'.erase k).makeDirectories p = (.ok (), t'') := by
  obtain ⟨k', hmakes⟩ := makes_of_makeDirectory hne hmade
  obtain ⟨-, hnot, hnone, hold⟩ := place_of_makeDirectory hne hmade hlead
  -- removing it takes the tree back to where it was missing
  have hbefore : t₀.Agree (t'.erase k) := by
    refine ⟨h.here.trans hmakes.adds.here, fun l => ?_⟩
    rw [get?_erase]
    by_cases hl : k <+: l
    · rw [if_pos hl]
      by_cases heq : l = k
      · rw [heq, hnone]
      · rw [get?_below hnot (Place.isBelow_iff.2 ⟨hl, heq⟩)]
    · rw [if_neg hl, h.get? l (Place.isBelow_eq_false_iff.2 fun hpre => absurd hpre hl)]
      exact hold l fun heq => hl (heq ▸ List.prefix_refl k)
  have hsame := hbefore.makeDirectory p
  rw [hmade] at hsame
  obtain ⟨t'', hdone, hagree⟩ := hsame.of_ok
  refine ⟨t'', hagree, ?_⟩
  unfold makeDirectories
  rw [makeDirectoriesWithin, if_neg (by simpa using hne), hdone]

end LintHub.FileTree
