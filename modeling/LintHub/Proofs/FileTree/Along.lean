import LintHub.Proofs.FileTree.Again

/-!
# Where directories are made

All directories that are made for a path are made for paths that it begins with (`MadeAlong`),
and so they stand where beginnings of the path lead (`MadeAlong.new`). In a directory without
links in it, a path of names behind that of the directory leads straight down, and so all that
is made on the way stands there (`MadeAlong.places`).
-/

namespace LintHub.FileTree

variable {t t' t'' : FileTree} {p q q' : Path} {dir k l : Place}

/-- The first path is a beginning of the second, in its text and in its moves. -/
structure Begins (q p : Path) : Prop where
  chars : q.chars <+: p.chars
  moves : counting (moves q) <+: counting (moves p)

theorem Begins.refl (p : Path) : Begins p p := ⟨List.prefix_refl _, List.prefix_refl _⟩

theorem Begins.trans (h : Begins q' q) (h' : Begins q p) : Begins q' p :=
  ⟨h.chars.trans h'.chars, h.moves.trans h'.moves⟩

theorem begins_of_parent (h : p.parent? = some q) : q.text = "" ∨ Begins q p := by
  obtain ⟨hpre, -, hempty | ⟨mv, hmoves⟩⟩ := parent?_eq_some h
  · exact .inl hempty
  · exact .inr ⟨hpre, by rw [hmoves]; exact List.prefix_append _ _⟩

/-- A name behind a path is one move more that counts. -/
theorem counting_joinText (p : Path) {s : String} (hs : IsName s) :
    counting (moves (p.joinText s)) = counting (moves p) ++ [.name s] := by
  obtain ⟨-, ms, hms, hjoin⟩ := moves_joinText p hs
  rw [hjoin, counting_append]
  rcases hms with hms | hms
  · rw [hms]
    rfl
  · rw [hms, counting_append]
    simp [counting, Move.counts]

/-- One tree comes out of the other by making directories for beginnings of a path. -/
inductive MadeAlong (t : FileTree) (p : Path) : FileTree → Prop
  | nothing : MadeAlong t p t
  | one {t' t'' : FileTree} {q : Path} (before : MadeAlong t p t') (begins : Begins q p)
    (made : t'.makeDirectory q = (.ok (), t'')) : MadeAlong t p t''

theorem MadeAlong.mono (h : t.MadeAlong q t') (hq : Begins q p) : t.MadeAlong p t' := by
  induction h with
  | nothing => exact .nothing
  | one _ begins made ih => exact .one ih (begins.trans hq) made

theorem makeDirectoriesWithin_of_empty (n : Nat) (t : FileTree) (hp : p.text = "") :
    (makeDirectoriesWithin n t p).2 = t := by
  cases n with
  | zero => rfl
  | succ n => rw [makeDirectoriesWithin, if_pos (by simpa using hp)]

theorem madeAlong_within (n : Nat) (t : FileTree) (p : Path) :
    t.MadeAlong p (makeDirectoriesWithin n t p).2 := by
  induction n generalizing t p with
  | zero => exact .nothing
  | succ n ih =>
    rw [makeDirectoriesWithin]
    split
    · exact .nothing
    rcases hfirst : t.makeDirectory p with ⟨cause | _, t₁⟩
    · obtain rfl := eq_of_makeDirectory_error hfirst
      cases cause with
      | notFound =>
        simp only
        cases hparent : p.parent? with
        | none => exact .nothing
        | some q =>
          -- the parent is a beginning of the path, or it is empty and nothing is made
          have hq : t₁.MadeAlong p (makeDirectoriesWithin n t₁ q).2 := by
            rcases begins_of_parent hparent with hempty | hbegins
            · rw [makeDirectoriesWithin_of_empty n t₁ hempty]
              exact .nothing
            · exact (ih t₁ q).mono hbegins
          simp only
          rcases hrec : makeDirectoriesWithin n t₁ q with ⟨cause | _, t₂⟩
          · rw [hrec] at hq
            exact hq
          · rw [hrec] at hq
            simp only at hq ⊢
            rcases hsecond : t₂.makeDirectory p with ⟨cause | _, t₃⟩
            · obtain rfl := eq_of_makeDirectory_error hsecond
              simp only
              split <;> exact hq
            · exact hq.one (.refl p) hsecond
      | _ =>
        simp only
        split <;> exact .nothing
    · exact MadeAlong.nothing.one (.refl p) hfirst

theorem madeAlong_makeDirectories (t : FileTree) (p : Path) :
    t.MadeAlong p (t.makeDirectories p).2 :=
  madeAlong_within _ t p

/-- There are no links below a place. -/
def Unlinked (t : FileTree) (k : Place) : Prop :=
  ∀ l target, Place.isBelow l k = true → t.get? l ≠ some (.link target)

/-- Where there are no links, names lead straight down. -/
theorem Unlinked.goes (h : t.Unlinked k) {n m : Nat} {names : List String} (hdir : k <+: dir)
    (hgo : t.Goes n dir (names.map .name) m l) : l = dir ++ names := by
  induction names generalizing dir with
  | nil =>
    cases hgo
    simp
  | cons s names ih =>
    rw [List.map_cons] at hgo
    have hbelow : Place.isBelow (dir ++ [s]) k = true := by
      refine Place.isBelow_iff.2 ⟨hdir.trans (List.prefix_append _ _), ?_⟩
      intro heq
      have hlen := hdir.length_le
      rw [← heq, List.length_append, List.length_singleton] at hlen
      omega
    cases hgo with
    | into _ _ rest =>
      have hrest := ih (hdir.trans (List.prefix_append _ _)) rest
      rw [hrest, List.append_assoc]
      rfl
    | via _ there => exact absurd there (h _ _ hbelow)

theorem Unlinked.addsDirectories (h : t.Unlinked k) (hadds : t.AddsDirectories t') :
    t'.Unlinked k := by
  intro l target hl hget
  rcases hadds.get? l with heq | ⟨-, hnew⟩
  · exact h l target hl (heq ▸ hget)
  · rw [hnew] at hget
    cases hget

theorem text_ne_of_makeDirectory (h : t.makeDirectory p = (.ok (), t')) : p.text ≠ "" := by
  obtain ⟨dir, s, asDirectory, hloc, -⟩ := makeDirectory_eq_ok h
  intro hempty
  have hnonempty := (takes_of_locate hloc).1.nonempty
  obtain ⟨text⟩ := p
  cases hempty
  exact absurd hnonempty (by decide)

/-- What has been made is all that is new. -/
theorem leadsTo_of_new (hp : p.text ≠ "") (h : t.makeDirectory p = (.ok (), t'))
    (hnew : t'.get? l ≠ t.get? l) : t'.LeadsTo p l := by
  obtain ⟨k, hmakes⟩ := makes_of_makeDirectory hp h
  obtain ⟨-, -, -, hold⟩ := place_of_makeDirectory hp h hmakes.leads
  by_cases hl : l = k
  · rw [hl]
    exact hmakes.leads
  · exact absurd (hold l hl) hnew

/-- What leads to a directory leads to directories on the way. -/
theorem LeadsTo.of_counting (h : t.LeadsTo p k) (hstart : t.start? q = t.start? p)
    (hcount : counting (moves q) <+: counting (moves p)) : ∃ l, t.LeadsTo q l := by
  obtain ⟨dir, m, hdir, hgo⟩ := h
  obtain ⟨rest, hrest⟩ := hcount
  have hsplit : counting (counting (moves q) ++ rest) = counting (moves p) := by
    rw [hrest]
    simp [counting]
  obtain ⟨n, l, hfirst, -⟩ := (hgo.of_counting_eq hsplit).split
  exact ⟨l, dir, n, hstart.trans hdir, hfirst.of_counting_eq (by simp [counting])⟩

/-- Where a path leads whose moves go on from those of another by names. -/
theorem LeadsTo.place_eq_of_names (hlead : t.LeadsTo p k) (hlinks : t.Unlinked k)
    {names : List String} (hstart : t.start? q = t.start? p)
    (hcount : counting (moves q) = counting (moves p) ++ names.map .name) (h : t.LeadsTo q l) :
    l = k ++ names := by
  obtain ⟨dir, m, hdir, hgo⟩ := h
  have hsplit : counting (counting (moves p) ++ names.map .name) = counting (moves q) := by
    rw [← hcount]
    simp [counting]
  obtain ⟨n, k', hfirst, hrest⟩ := (hgo.of_counting_eq hsplit).split
  have hp : t.LeadsTo p k' :=
    ⟨dir, n, hstart.symm.trans hdir, hfirst.of_counting_eq (by simp [counting])⟩
  obtain rfl := hlead.unique hp
  exact hlinks.goes (List.prefix_refl _) hrest

namespace MadeAlong

theorem adds (h : t.MadeAlong p t') : t.AddsDirectories t' := by
  induction h with
  | nothing => exact .refl t
  | one _ _ made ih =>
    obtain ⟨k, hmakes⟩ := makes_of_makeDirectory (text_ne_of_makeDirectory made) made
    exact ih.trans hmakes.adds

/-- **What is new** stands where a beginning of the path leads. -/
theorem new (h : t.MadeAlong p t') (hnew : t'.get? l ≠ t.get? l) :
    ∃ q, q.text ≠ "" ∧ Begins q p ∧ t'.LeadsTo q l := by
  induction h with
  | nothing => exact absurd rfl hnew
  | @one t₁ t₂ q _ begins made ih =>
    have hne := text_ne_of_makeDirectory made
    obtain ⟨k, hmakes⟩ := makes_of_makeDirectory hne made
    -- what the last step left alone is known from the steps before it
    by_cases hsame : t₂.get? l = t₁.get? l
    · obtain ⟨q', hne', hq', hlead⟩ := ih (hsame ▸ hnew)
      exact ⟨q', hne', hq', hmakes.adds.grows.keepsWays.leadsTo hlead⟩
    · exact ⟨q, hne, begins, leadsTo_of_new hne made hsame⟩

/-- **Behind a path that leads to a directory** without links in it, all that is made for
names stands straight below the directory. -/
theorem places (h : t.MadeAlong q t') (hlead : t.LeadsTo p k) (hlinks : t.Unlinked k)
    {names : List String} (hstart : ∀ t : FileTree, t.start? q = t.start? p)
    (hcount : counting (moves q) = counting (moves p) ++ names.map .name) :
    t.AddsDirectories t' ∧
      ∀ l, t'.get? l ≠ t.get? l → ∃ ns, ns ≠ [] ∧ ns <+: names ∧ l = k ++ ns := by
  refine ⟨h.adds, fun l hnew => ?_⟩
  have hways := h.adds.grows.keepsWays
  have hnot := h.adds.hasDirectory_eq_false hnew
  obtain ⟨q', hne, begins, hleadq⟩ := h.new hnew
  have hstart' (t : FileTree) : t.start? q' = t.start? p :=
    (start?_of_front t begins.chars hne).trans (hstart t)
  have hpre := begins.moves
  rw [hcount] at hpre
  -- its path is shorter than that of the directory, or it goes on from it
  rcases List.prefix_or_prefix_of_prefix hpre (List.prefix_append _ _) with hshort | ⟨mvs, hlong⟩
  · -- The directory would have been there.
    obtain ⟨l', hlead'⟩ := hlead.of_counting (hstart' t) hshort
    obtain rfl := hleadq.unique (hways.leadsTo hlead')
    rw [hlead'.hasDirectory] at hnot
    cases hnot
  · rw [← hlong, List.prefix_append_right_inj] at hpre
    obtain ⟨ns, hns, rfl⟩ := List.prefix_map_iff.1 hpre
    have heq := (hways.leadsTo hlead).place_eq_of_names (hlinks.addsDirectories h.adds)
      (hstart' t') hlong.symm hleadq
    refine ⟨ns, ?_, hns, heq⟩
    rintro rfl
    rw [heq, List.append_nil, hlead.hasDirectory] at hnot
    cases hnot

end MadeAlong

end LintHub.FileTree
