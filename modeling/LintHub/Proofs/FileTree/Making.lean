import LintHub.Proofs.FileTree.Parent
import LintHub.Proofs.FileTree.Writing

/-!
# Making directories

A directory is made together with the missing ones above it. This adds directories where
nothing was, and it succeeds just when the path leads to a directory afterwards.

* `makeDirectories_spec`: both, and that a new directory has nothing in it, unless the path
  has a `..` that leads out of a new directory to an old one.
-/

namespace LintHub.FileTree

variable {t t' t'' : FileTree} {p q : Path} {dir k : Place}

theorem Takes.of_front (hp : Takes p) (h : q.chars <+: p.chars) (hq : q.text ≠ "") : Takes q where
  noNul := by
    have := hp.noNul
    rw [← Bool.not_eq_true, List.contains_iff_mem] at this ⊢
    exact fun hmem => this (h.subset hmem)
  nonempty := by simpa using hq
  size := by
    obtain ⟨rest, hrest⟩ := h
    have htext : p.text = q.text ++ String.ofList rest := by
      rw [← String.toList_inj, String.toList_append, String.toList_ofList]
      exact hrest.symm
    have := hp.size
    rw [htext, String.utf8ByteSize_append] at this
    omega

theorem isAbsolute_of_front (h : q.chars <+: p.chars) (hq : q.text ≠ "") :
    q.isAbsolute = p.isAbsolute := by
  obtain ⟨rest, hrest⟩ := h
  unfold Path.isAbsolute
  rw [← hrest]
  cases hc : q.chars with
  | nil => exact absurd (by simpa [Path.chars] using hc) hq
  | cons c cs => rfl

theorem start?_of_front (t : FileTree) (h : q.chars <+: p.chars) (hq : q.text ≠ "") :
    t.start? q = t.start? p := by
  unfold start?
  rw [isAbsolute_of_front h hq]

/-- A path leads on from where a prefix of it leads. -/
theorem LeadsTo.of_front {mvs : List Move} (h : t.LeadsTo p k) (hpre : q.chars <+: p.chars)
    (hq : q.text ≠ "") (hmoves : counting (moves p) = counting (moves q) ++ mvs) :
    ∃ dir n m, t.LeadsTo q dir ∧ t.Goes n dir mvs m k := by
  obtain ⟨start, m, hstart, hgo⟩ := h
  have hcount : counting (counting (moves q) ++ mvs) = counting (moves p) := by
    rw [← hmoves]
    simp [counting]
  obtain ⟨l, dir, hfirst, hrest⟩ := (hgo.of_counting_eq hcount).split
  refine ⟨dir, l, m, ⟨start, l, ?_, hfirst.of_counting_eq ?_⟩, hrest⟩
  · rw [start?_of_front t hpre hq, hstart]
  · simp [counting]

/-- Separators at the end are moves that do nothing. -/
theorem moves_trailing (front : List Char) {back : List Char} (h : ∀ c ∈ back, c = '/') :
    moves (.ofChars (front ++ back)) =
      moves (.ofChars front) ++ List.replicate back.length .nothing := by
  induction back generalizing front with
  | nil => simp
  | cons c back ih =>
    obtain rfl := h c (List.mem_cons_self ..)
    have hrest := ih [] fun c hc => h c (List.mem_cons_of_mem _ hc)
    rw [List.nil_append] at hrest
    rw [moves_ofChars_append, hrest, List.length_cons, List.replicate_succ]
    rfl

/-- A path is made of separators only, or it loses those behind its last other character. -/
theorem withoutTrailing_cases (p : Path) :
    (∀ c ∈ p.chars, c = '/') ∧ withoutTrailing p = p ∨
      ∃ cs c back, c ≠ '/' ∧ (∀ c ∈ back, c = '/') ∧ p = .ofChars (cs ++ [c] ++ back) ∧
        withoutTrailing p = .ofChars (cs ++ [c]) := by
  have hfront : (p.chars.reverse.dropWhile fun c => c == '/').reverse =
    p.chars.rdropWhile fun c => c == '/' := rfl
  unfold withoutTrailing
  rw [hfront]
  split
  · rename_i hnil
    rw [List.rdropWhile_eq_nil_iff] at hnil
    exact .inl ⟨fun c hc => by simpa using hnil c hc, rfl⟩
  -- the text is what is kept and the separators behind it
  · rename_i hne
    have hlast := List.rdropWhile_last_not (fun c => c == '/') p.chars hne
    have hsplit : (p.chars.rdropWhile fun c => c == '/') ++ (p.chars.rtakeWhile fun c => c == '/') =
      p.chars := List.rdropWhile_append_rtakeWhile
    have hconcat := List.dropLast_append_getLast hne
    refine .inr ⟨_, _, p.chars.rtakeWhile fun c => c == '/', by simpa using hlast, fun c hc => ?_,
      ?_, congrArg Path.ofChars hconcat.symm⟩
    · simpa using List.mem_rtakeWhile_imp hc
    · rw [hconcat, hsplit, Path.ofChars_chars]

theorem withoutTrailing_spec (p : Path) :
    (withoutTrailing p).chars <+: p.chars ∧ ((withoutTrailing p).text = "" → p.text = "") ∧
      ∃ n, moves p = moves (withoutTrailing p) ++ List.replicate n .nothing := by
  obtain ⟨-, heq⟩ | ⟨cs, c, back, -, hback, hp, heq⟩ := withoutTrailing_cases p
  · rw [heq]
    exact ⟨List.prefix_refl _, id, 0, by simp⟩
  · rw [heq]
    refine ⟨?_, fun hempty => ?_, back.length, ?_⟩
    · rw [hp, Path.chars_ofChars, Path.chars_ofChars]
      exact List.prefix_append _ _
    · exact absurd hempty (by simp [Path.ofChars])
    · rw [hp]
      exact moves_trailing _ hback

theorem counting_withoutTrailing (p : Path) :
    counting (moves (withoutTrailing p)) = counting (moves p) := by
  obtain ⟨-, -, n, hmoves⟩ := withoutTrailing_spec p
  rw [hmoves, counting_append]
  simp [counting, Move.counts]

theorem takes_withoutTrailing (hp : Takes p) : Takes (withoutTrailing p) := by
  obtain ⟨hpre, hempty, -⟩ := withoutTrailing_spec p
  exact hp.of_front hpre fun h => by simpa [hempty h] using hp.nonempty

theorem leadsTo_withoutTrailing (hp : p.text ≠ "") :
    t.LeadsTo (withoutTrailing p) k ↔ t.LeadsTo p k := by
  obtain ⟨hpre, hempty, -⟩ := withoutTrailing_spec p
  have hcount := counting_withoutTrailing p
  have hstart := start?_of_front t hpre fun h => hp (hempty h)
  unfold LeadsTo
  rw [hstart]
  constructor
  · rintro ⟨dir, m, h, hgo⟩
    exact ⟨dir, m, h, hgo.of_counting_eq hcount.symm⟩
  · rintro ⟨dir, m, h, hgo⟩
    exact ⟨dir, m, h, hgo.of_counting_eq hcount⟩

/-- Directories have been added where nothing was. -/
structure AddsDirectories (t t' : FileTree) : Prop where
  here : t'.here = t.here
  get? : ∀ l, t'.get? l = t.get? l ∨ t.get? l = none ∧ t'.get? l = some .directory

namespace AddsDirectories

theorem refl (t : FileTree) : t.AddsDirectories t := ⟨rfl, fun _ => .inl rfl⟩

theorem trans (h : t.AddsDirectories t') (h' : t'.AddsDirectories t'') :
    t.AddsDirectories t'' := by
  refine ⟨h'.here.trans h.here, fun l => ?_⟩
  rcases h'.get? l with heq | ⟨hnone, hnew⟩
  · rw [heq]
    exact h.get? l
  · rcases h.get? l with heq | ⟨hnone', -⟩
    · exact .inr ⟨heq ▸ hnone, hnew⟩
    · exact .inr ⟨hnone', hnew⟩

theorem grows (h : t.AddsDirectories t') : t.Grows t' := by
  refine ⟨h.here, fun l e hl => ?_⟩
  rcases h.get? l with heq | ⟨hnone, -⟩
  · exact ⟨e, heq.trans hl, .refl e⟩
  · rw [hnone] at hl
    cases hl

/-- What is new was no directory before. -/
theorem hasDirectory_eq_false (h : t.AddsDirectories t') (hnew : t'.get? l ≠ t.get? l) :
    t.hasDirectory l = false := by
  rw [← Bool.not_eq_true]
  intro hdir
  rcases hasDirectory_iff.1 hdir with rfl | hget
  · simp at hnew
  · rcases h.get? l with heq | ⟨hnone, -⟩
    · exact hnew heq
    · rw [hget] at hnone
      cases hnone

end AddsDirectories

/-- A directory that has been made: the path leads there, nothing was there before, and there
is nothing in it. -/
structure Makes (t : FileTree) (p : Path) (t' : FileTree) (k : Place) : Prop where
  adds : t.AddsDirectories t'
  leads : t'.LeadsTo p k
  empty : ∀ l, Place.isBelow l k = true → t'.get? l = none
  /-- The last step is to make it where the ones above it are. -/
  last : ∃ t₀ : FileTree, t₀.makeDirectory p = (.ok (), t')

/-- A new directory stands where a name was missing. -/
theorem makeDirectory_eq_ok (h : t.makeDirectory p = (.ok (), t')) :
    ∃ dir s asDirectory, t.locate false (withoutTrailing p) = .ok (.vacant dir s asDirectory) ∧
      t' = t.put (dir ++ [s]) .directory := by
  unfold makeDirectory at h
  split at h
  · cases h
  · cases h
  · rename_i dir s asDirectory hloc
    cases h
    exact ⟨dir, s, asDirectory, hloc, rfl⟩

theorem makes_of_makeDirectory (hp : p.text ≠ "") (h : t.makeDirectory p = (.ok (), t')) :
    ∃ k, t.Makes p t' k := by
  obtain ⟨dir, s, asDirectory, hloc, rfl⟩ := makeDirectory_eq_ok h
  obtain ⟨hdir, hnone⟩ := vacant_of_locate hloc
  have hadmits := admits_of_vacant hdir hnone .directory
  -- the new entry stands at a vacant place, and nothing else has changed
  have hadds : t.AddsDirectories (t.put (dir ++ [s]) .directory) := by
    refine ⟨here_put .., fun l => ?_⟩
    rw [get?_put hadmits]
    by_cases hl : l = dir ++ [s]
    · exact .inr ⟨hl ▸ hnone, by rw [if_pos hl]⟩
    · exact .inl (by rw [if_neg hl])
  have hnew : (t.put (dir ++ [s]) .directory).get? (dir ++ [s]) = some .directory := by
    rw [get?_put hadmits, if_pos rfl]
  refine ⟨dir ++ [s], hadds, ?_, fun l hl => ?_, t, h⟩
  · rw [← leadsTo_withoutTrailing hp]
    exact leadsTo_of_locate (locate_of_vacant hadds.grows hloc hnew (.inl rfl))
  -- below a place where nothing was, nothing can have been
  · have hne : l ≠ dir ++ [s] := (Place.isBelow_iff.1 hl).2
    rw [get?_put hadmits, if_neg hne]
    refine get?_below ?_ hl
    rw [← Bool.not_eq_true, hasDirectory_iff]
    simp [hnone]

theorem eq_of_makeDirectory_error {cause : FileError}
    (h : t.makeDirectory p = (.error cause, t')) : t' = t := by
  unfold makeDirectory at h
  split at h <;> cases h <;> rfl

/-- Where a directory is, none is made. -/
theorem makeDirectory_of_leadsTo (hp : Takes p) (h : t.LeadsTo p k) :
    t.makeDirectory p = (.error .alreadyExists, t) := by
  have hne : p.text ≠ "" := by simpa using hp.nonempty
  have hloc := ((leadsTo_withoutTrailing hne).2 h).locate (takes_withoutTrailing hp)
  obtain ⟨htakes, start, hstart, hw⟩ := takes_of_locate hloc
  unfold makeDirectory
  rw [locate_of_takes htakes hstart]
  -- without its last link followed the path ends at the directory, or at a link to it
  rcases walk_false t linkLimit start (moves (withoutTrailing p)) with heq | ⟨k, target, hlink⟩
  · rw [heq, hw]
  · rw [hlink]

theorem isDirectory_eq_false_of_parent (hp : p.parent? = some q) (hq : q.text ≠ "")
    (h : t.isDirectory q = false) : t.isDirectory p = false := by
  obtain ⟨hpre, -, hempty | ⟨mv, hmoves⟩⟩ := parent?_eq_some hp
  · exact absurd hempty hq
  · rw [← Bool.not_eq_true] at h ⊢
    intro hdir
    obtain ⟨htakes, k, hlead⟩ := isDirectory_iff.1 hdir
    obtain ⟨dir, -, -, hleadq, -⟩ := hlead.of_front hpre hq hmoves
    exact h (isDirectory_iff.2 ⟨htakes.of_front hpre hq, dir, hleadq⟩)

/-- What making directories comes to. -/
structure MakesAll (t : FileTree) (p : Path) (made : Change Unit) : Prop where
  adds : t.AddsDirectories made.2
  /-- It succeeds just when there is a directory in the end. -/
  ok_iff : Takes p → (made.1 = .ok () ↔ made.2.isDirectory p = true)
  /-- What is there is left alone. -/
  idle : p.text = "" ∨ t.isDirectory p = true → made.1 = .ok () ∧ made.2 = t
  /-- What is new has nothing in it, unless a `..` leads out of a new directory to an old one. -/
  fresh : p.text ≠ "" → t.isDirectory p = false → .up ∉ moves p → made.1 = .ok () →
    ∃ k, t.Makes p made.2 k

/-- When all else has failed, the directory may still be there. -/
theorem makesAll_of_error (hne : p.text ≠ "") (hdir : t.isDirectory p = false)
    (h : t.AddsDirectories t') (hnot : .up ∉ moves p → t'.isDirectory p = false)
    {cause : FileError} :
    t.MakesAll p (if t'.isDirectory p then (.ok (), t') else (.error cause, t')) := by
  have hidle : ¬ (p.text = "" ∨ t.isDirectory p = true) := by simp [hne, hdir]
  cases hthere : t'.isDirectory p with
  | true =>
    refine ⟨h, fun _ => by simp [hthere], fun hp => absurd hp hidle, fun _ _ hup _ => ?_⟩
    rw [hnot hup] at hthere
    cases hthere
  | false => exact ⟨h, fun _ => by simp [hthere], fun hp => absurd hp hidle, nofun⟩

/-- A move by a name leads nowhere from a directory with nothing in it. -/
theorem Goes.not_of_empty {n m : Nat} {s : String}
    (h : ∀ l, Place.isBelow l dir = true → t.get? l = none) : ¬ t.Goes n dir [.name s] m k := by
  have hnone := h _ (isBelow_append_singleton dir s)
  intro hgo
  cases hgo with
  | into _ there =>
    rw [hnone] at there
    cases there
  | via _ there =>
    rw [hnone] at there
    cases there

/-- A path without a `..` leads no further than its parent, if that is empty. -/
theorem isDirectory_eq_false_of_empty_parent (hp : p.parent? = some q) (hq : q.text ≠ "")
    (hup : .up ∉ moves p) (hlead : t.LeadsTo q dir)
    (h : ∀ l, Place.isBelow l dir = true → t.get? l = none) : t.isDirectory p = false := by
  obtain ⟨hpre, -, hempty | ⟨mv, hmoves⟩⟩ := parent?_eq_some hp
  · exact absurd hempty hq
  · rw [← Bool.not_eq_true]
    intro hdir
    obtain ⟨htakes, k, hleadp⟩ := isDirectory_iff.1 hdir
    obtain ⟨dir', n, m, hlead', hgo⟩ := hleadp.of_front hpre hq hmoves
    obtain rfl := hlead.unique hlead'
    -- the one move behind the parent counts and is no `..`, so it is a name
    have hmem : mv ∈ counting (moves p) := by simp [hmoves]
    obtain ⟨hmv, hcounts⟩ := List.mem_filter.1 hmem
    cases mv with
    | nothing => cases hcounts
    | stay => cases hcounts
    | up => exact hup hmv
    | name s => exact Goes.not_of_empty h hgo

theorem up_not_mem_moves_parent (hp : p.parent? = some q) (hup : .up ∉ moves p) :
    q.text = "" ∨ .up ∉ moves q := by
  obtain ⟨-, -, hempty | ⟨mv, hmoves⟩⟩ := parent?_eq_some hp
  · exact .inl hempty
  · refine .inr fun hmem => hup ?_
    have hcount : .up ∈ counting (moves p) := by
      rw [hmoves]
      exact List.mem_append_left _ (List.mem_filter.2 ⟨hmem, rfl⟩)
    exact (List.mem_filter.1 hcount).1

/-- A directory that is made in the end is there in the end. -/
theorem makesAll_of_made (hne : p.text ≠ "") (hdir : t.isDirectory p = false)
    (hadds : t.AddsDirectories t') (hok : t'.makeDirectory p = (.ok (), t'')) :
    t.MakesAll p (.ok (), t'') := by
  have hidle : ¬ (p.text = "" ∨ t.isDirectory p = true) := by simp [hne, hdir]
  obtain ⟨k, hmakes⟩ := makes_of_makeDirectory hne hok
  have hall : t.AddsDirectories t'' := hadds.trans hmakes.adds
  refine ⟨hall, fun htakes => ?_, fun hp => absurd hp hidle,
    fun _ _ _ _ => ⟨k, hall, hmakes.leads, hmakes.empty, hmakes.last⟩⟩
  exact ⟨fun _ => isDirectory_iff.2 ⟨htakes, k, hmakes.leads⟩, fun _ => rfl⟩

/-- Without its parent there is no directory. -/
theorem makesAll_of_parent_error (hp : p.parent? = some q) (hne : p.text ≠ "")
    (hdir : t.isDirectory p = false) {cause : FileError}
    (hq : t.MakesAll q (.error cause, t')) : t.MakesAll p (.error cause, t') := by
  have hidle : ¬ (p.text = "" ∨ t.isDirectory p = true) := by simp [hne, hdir]
  -- an empty parent would have been left alone, with success
  have hqne : q.text ≠ "" := fun h => by cases (hq.idle (.inl h)).1
  refine ⟨hq.adds, fun htakes => ?_, fun hp => absurd hp hidle, nofun⟩
  have htakesq := htakes.of_front (parent?_eq_some hp).1 hqne
  have hnot : t'.isDirectory q = false := by
    rw [← Bool.not_eq_true]
    intro h
    cases (hq.ok_iff htakesq).2 h
  simp [isDirectory_eq_false_of_parent hp hqne hnot]

/-- With its parent made, it cannot be made only if something is there that is not new. -/
theorem makesAll_of_parent_ok (hp : p.parent? = some q) (hne : p.text ≠ "")
    (hdir : t.isDirectory p = false) (hq : t.MakesAll q (.ok (), t')) (cause : FileError) :
    t.MakesAll p (if t'.isDirectory p then (.ok (), t') else (.error cause, t')) := by
  refine makesAll_of_error hne hdir hq.adds fun hup => ?_
  -- if the parent is new, it is empty; if not, nothing has changed
  by_cases hold : q.text = "" ∨ t.isDirectory q = true
  · obtain ⟨-, heq⟩ := hq.idle hold
    simp only at heq
    rw [heq, hdir]
  · rw [not_or, Bool.not_eq_true] at hold
    have hupq := (up_not_mem_moves_parent hp hup).resolve_left hold.1
    obtain ⟨k, hmakes⟩ := hq.fresh hold.1 hold.2 hupq rfl
    exact isDirectory_eq_false_of_empty_parent hp hold.1 hup hmakes.leads hmakes.empty

theorem length_parent_lt (hp : p.parent? = some q) : q.chars.length < p.chars.length := by
  obtain ⟨hpre, hneq, -⟩ := parent?_eq_some hp
  exact Nat.lt_of_le_of_ne hpre.length_le fun h => hneq (hpre.eq_of_length h)

/-- The number of directories to make is bounded by the length of the path. -/
theorem makeDirectoriesWithin_spec (n : Nat) (t : FileTree) (p : Path) (hn : p.chars.length < n) :
    t.MakesAll p (makeDirectoriesWithin n t p) := by
  induction n generalizing t p with
  | zero => omega
  | succ n ih =>
    rw [makeDirectoriesWithin]
    by_cases hempty : p.text.isEmpty = true
    · rw [if_pos hempty]
      refine ⟨.refl t, fun hp => ?_, fun _ => ⟨rfl, rfl⟩, fun hne => ?_⟩
      · simp [hp.nonempty] at hempty
      · exact absurd (by simpa using hempty) hne
    have hne : p.text ≠ "" := by simpa using hempty
    rw [if_neg hempty]
    -- what is there already is not made
    by_cases hdir : t.isDirectory p = true
    · obtain ⟨htakes, k, hlead⟩ := isDirectory_iff.1 hdir
      rw [makeDirectory_of_leadsTo htakes hlead]
      simp only [hdir, if_true]
      refine ⟨.refl t, fun _ => by simp [hdir], fun _ => ⟨rfl, rfl⟩, fun _ hnot => ?_⟩
      rw [hdir] at hnot
      cases hnot
    rw [Bool.not_eq_true] at hdir
    have hidle : ¬ (p.text = "" ∨ t.isDirectory p = true) := by simp [hne, hdir]
    rcases hfirst : t.makeDirectory p with ⟨cause | _, t₁⟩
    · obtain rfl := eq_of_makeDirectory_error hfirst
      cases cause with
      | notFound =>
        -- the directory above is missing, or the path has none
        cases hparent : p.parent? with
        | none => exact ⟨.refl t₁, fun _ => by simp [hdir], fun hp => absurd hp hidle, nofun⟩
        | some q =>
          have hlen : q.chars.length < n := by
            have := length_parent_lt hparent
            omega
          have hq := ih t₁ q hlen
          simp only
          rcases hrec : makeDirectoriesWithin n t₁ q with ⟨cause | _, t₂⟩
          · rw [hrec] at hq
            exact makesAll_of_parent_error hparent hne hdir hq
          · rw [hrec] at hq
            simp only
            rcases hsecond : t₂.makeDirectory p with ⟨cause | _, t₃⟩
            · obtain rfl := eq_of_makeDirectory_error hsecond
              exact makesAll_of_parent_ok hparent hne hdir hq cause
            · exact makesAll_of_made hne hdir hq.adds hsecond
      | _ => exact makesAll_of_error hne hdir (.refl t₁) fun _ => hdir
    · exact makesAll_of_made hne hdir (.refl t) hfirst

/-- **Making directories** adds directories where nothing was, leaves alone what is there, and
succeeds just when the path leads to a directory in the end. -/
theorem makeDirectories_spec (t : FileTree) (p : Path) :
    t.MakesAll p (t.makeDirectories p) :=
  makeDirectoriesWithin_spec _ t p (Nat.lt_succ_self _)

/-- **Where the directory above is there**, no other is made, and so nothing old is uncovered. -/
theorem makes_of_parent (hne : p.text ≠ "") (hdir : t.isDirectory p = false)
    (hparent : p.parent? = some q) (hq : t.isDirectory q = true)
    (h : t.makeDirectories p = (.ok (), t')) : ∃ k, t.Makes p t' k := by
  unfold makeDirectories at h
  rw [makeDirectoriesWithin, if_neg (by simpa using hne), hparent] at h
  rcases hfirst : t.makeDirectory p with ⟨cause | _, t₁⟩
  · obtain rfl := eq_of_makeDirectory_error hfirst
    obtain ⟨hok, hsame⟩ := (makeDirectoriesWithin_spec _ t₁ q (length_parent_lt hparent)).idle
      (.inr hq)
    have habove : makeDirectoriesWithin p.chars.length t₁ q = (.ok (), t₁) := Prod.ext hok hsame
    -- what has failed fails again
    rw [hfirst] at h
    cases cause <;> simp [habove, hfirst, hdir] at h
  · rw [hfirst] at h
    cases h
    exact makes_of_makeDirectory hne hfirst

/-- A path along which directories were made leads to one. -/
theorem leadsTo_of_makeDirectories_ok (hp : p.text ≠ "")
    (h : t.makeDirectories p = (.ok (), t')) : ∃ k, t'.LeadsTo p k := by
  have hmade {t₁ t₂ : FileTree} (h : t₁.makeDirectory p = (.ok (), t₂)) :
      ∃ k, t₂.LeadsTo p k := by
    obtain ⟨k, hmakes⟩ := makes_of_makeDirectory hp h
    exact ⟨k, hmakes.leads⟩
  have hthere {t₁ : FileTree} {cause : FileError}
      (h : (if t₁.isDirectory p then (.ok (), t₁) else (.error cause, t₁)) =
        ((.ok (), t') : Change Unit)) : ∃ k, t'.LeadsTo p k := by
    split at h
    · rename_i hdir
      cases h
      exact (isDirectory_iff.1 hdir).2
    · cases h
  unfold makeDirectories at h
  rw [makeDirectoriesWithin, if_neg (by simpa using hp)] at h
  split at h
  · rename_i hfirst
    cases h
    exact hmade hfirst
  · split at h
    · cases h
    · split at h
      · cases h
      · split at h
        · rename_i hsecond
          cases h
          exact hmade hsecond
        · exact hthere h
  · exact hthere h

end LintHub.FileTree
