import LintHub.FileTree.Edit
import LintHub.Proofs.FileTree.Walk
import LintHub.Proofs.Text.Fields

/-!
# Paths and the places they lead to

A path that the system takes at all is walked from the root or from the working directory.
`LeadsTo` says that this way ends at a directory; the entries of that directory are what
the path with one more name leads to (`locate_joinText`).
-/

namespace LintHub

@[simp] theorem Path.chars_ofChars (cs : List Char) : (Path.ofChars cs).chars = cs := by
  simp [Path.ofChars, Path.chars]

@[simp] theorem Path.ofChars_chars (p : Path) : Path.ofChars p.chars = p := by
  simp [Path.ofChars, Path.chars]

namespace FileTree

variable {t t' : FileTree} {follow : Bool} {p : Path} {dir k k' : Place} {spot : Spot} {s : String}

/-- Where a walk along a path starts, if that is a directory. -/
def start? (t : FileTree) (p : Path) : Option Place :=
  if p.isAbsolute then some [] else if t.hasDirectory t.here then some t.here else none

/-- The text of a path is one that the system takes. -/
structure Takes (p : Path) : Prop where
  noNul : p.chars.contains (Char.ofNat 0) = false
  nonempty : p.text.isEmpty = false
  size : p.text.utf8ByteSize ≤ longestPath

theorem hasDirectory_start (h : t.start? p = some dir) : t.hasDirectory dir = true := by
  unfold start? at h
  split at h
  · cases h
    rfl
  · split at h
    · rename_i hhere
      cases h
      exact hhere
    · cases h

theorem locate_of_takes (hp : Takes p) (h : t.start? p = some dir) :
    t.locate follow p = t.walk follow linkLimit dir (moves p) := by
  unfold locate
  rw [hp.noNul, hp.nonempty, if_neg Bool.false_ne_true, if_neg Bool.false_ne_true,
    if_neg (Nat.not_lt.2 hp.size)]
  unfold start? at h
  split at h
  · rename_i habs
    cases h
    rw [if_pos habs]
  · rename_i habs
    rw [if_neg habs]
    split at h
    · rename_i hhere
      cases h
      rw [if_pos hhere]
    · cases h

/-- A path that leads somewhere is walked. -/
theorem takes_of_locate (h : t.locate follow p = .ok spot) :
    Takes p ∧ ∃ dir, t.start? p = some dir ∧
      t.walk follow linkLimit dir (moves p) = .ok spot := by
  have htakes : Takes p := by
    unfold locate at h
    split at h
    · cases h
    · rename_i hnul
      split at h
      · cases h
      · rename_i hempty
        split at h
        · cases h
        · rename_i hsize
          exact ⟨by simpa using hnul, by simpa using hempty, Nat.not_lt.1 hsize⟩
  cases hstart : t.start? p with
  | some dir => exact ⟨htakes, dir, rfl, by rw [← locate_of_takes htakes hstart, h]⟩
  | none =>
    unfold start? at hstart
    unfold locate at h
    rw [htakes.noNul, htakes.nonempty, if_neg Bool.false_ne_true, if_neg Bool.false_ne_true,
      if_neg (Nat.not_lt.2 htakes.size)] at h
    split at hstart
    · cases hstart
    · rename_i habs
      split at hstart
      · cases hstart
      · rename_i hhere
        rw [if_neg habs, if_neg hhere] at h
        cases h

/-- The moves of a path lead to the directory at a place. -/
def LeadsTo (t : FileTree) (p : Path) (k : Place) : Prop :=
  ∃ dir m, t.start? p = some dir ∧ t.Goes linkLimit dir (moves p) m k

theorem LeadsTo.unique (h : t.LeadsTo p k) (h' : t.LeadsTo p k') : k = k' := by
  obtain ⟨dir, m, hstart, hgo⟩ := h
  obtain ⟨dir', m', hstart', hgo'⟩ := h'
  rw [hstart] at hstart'
  cases hstart'
  exact hgo.unique hgo'

theorem LeadsTo.hasDirectory (h : t.LeadsTo p k) : t.hasDirectory k = true := by
  obtain ⟨dir, m, hstart, hgo⟩ := h
  exact hgo.hasDirectory (hasDirectory_start hstart)

theorem leadsTo_of_locate (h : t.locate follow p = .ok (.taken k .directory)) : t.LeadsTo p k := by
  obtain ⟨-, dir, hstart, hw⟩ := takes_of_locate h
  obtain ⟨m, hgo⟩ := goes_of_walk hw
  exact ⟨dir, m, hstart, hgo⟩

theorem LeadsTo.locate (h : t.LeadsTo p k) (hp : Takes p) :
    t.locate true p = .ok (.taken k .directory) := by
  obtain ⟨dir, m, hstart, hgo⟩ := h
  rw [locate_of_takes hp hstart, hgo.walk_eq]

theorem find?_eq_ok_iff {e : Entry} :
    t.find? follow p = .ok (k, e) ↔ t.locate follow p = .ok (.taken k e) := by
  unfold find?
  constructor
  · intro h
    split at h
    · rename_i hloc
      cases h
      exact hloc
    · cases h
    · cases h
  · intro h
    rw [h]

theorem directoryAt_eq_ok_iff : t.directoryAt p = .ok k ↔ Takes p ∧ t.LeadsTo p k := by
  constructor
  · intro h
    unfold directoryAt at h
    split at h
    · rename_i hfind
      cases h
      have hloc := find?_eq_ok_iff.1 hfind
      exact ⟨(takes_of_locate hloc).1, leadsTo_of_locate hloc⟩
    · cases h
    · cases h
  · rintro ⟨hp, h⟩
    unfold directoryAt
    rw [find?_eq_ok_iff.2 (h.locate hp)]

theorem isDirectory_iff : t.isDirectory p = true ↔ Takes p ∧ ∃ k, t.LeadsTo p k := by
  constructor
  · intro h
    unfold isDirectory at h
    split at h
    · rename_i k hfind
      have hloc := find?_eq_ok_iff.1 hfind
      exact ⟨(takes_of_locate hloc).1, k, leadsTo_of_locate hloc⟩
    · cases h
  · rintro ⟨hp, k, h⟩
    unfold isDirectory
    rw [find?_eq_ok_iff.2 (h.locate hp)]

theorem isFile_iff : t.isFile p = true ↔
    ∃ k content mode, t.locate true p = .ok (.taken k (.file content mode)) := by
  constructor
  · intro h
    unfold isFile at h
    split at h
    · rename_i hfind
      exact ⟨_, _, _, find?_eq_ok_iff.1 hfind⟩
    · cases h
  · rintro ⟨k, content, mode, h⟩
    unfold isFile
    rw [find?_eq_ok_iff.2 h]

/-- A text that names an entry of a directory. -/
structure IsName (s : String) : Prop where
  noSeparator : '/' ∉ s.toList
  isMove : Move.ofPiece s.toList = .name s

theorem IsName.not_isAbsolute (h : IsName s) : (Path.mk s).isAbsolute = false := by
  rw [← Bool.not_eq_true]
  intro habs
  refine h.noSeparator ?_
  unfold Path.isAbsolute Path.chars at habs
  cases hs : s.toList with
  | nil => simp [hs] at habs
  | cons c cs => simp_all

theorem moves_of_isName (h : IsName s) : moves ⟨s⟩ = [.name s] := by
  unfold moves Path.chars
  rw [Text.fields_of_not_mem h.noSeparator, List.map_singleton, h.isMove]

theorem moves_ofChars_of_isName (h : IsName s) : moves (.ofChars s.toList) = [.name s] := by
  rw [← moves_of_isName h]
  exact congrArg moves (Path.ofChars_chars ⟨s⟩)

theorem moves_ofChars_append (cs ds : List Char) :
    moves (.ofChars (cs ++ '/' :: ds)) = moves (.ofChars cs) ++ moves (.ofChars ds) := by
  simp [moves, Text.fields_append_sep]

/-- A name behind a path is one move more, in place of the one that does nothing if the path
ends in a separator. -/
theorem moves_joinText (p : Path) (hs : IsName s) :
    (p.joinText s).isAbsolute = p.isAbsolute ∧
      ∃ ms, (moves p = ms ∨ moves p = ms ++ [.nothing]) ∧
        moves (p.joinText s) = ms ++ [.name s] := by
  unfold Path.joinText Path.join
  rw [hs.not_isAbsolute, if_neg Bool.false_ne_true]
  split
  · rename_i hlast
    have hempty : p.chars = [] := List.getLast?_eq_none_iff.1 hlast
    refine ⟨by rw [hs.not_isAbsolute]; simp [Path.isAbsolute, hempty], [], .inr ?_, ?_⟩
    · simp [moves, hempty, Text.fields, Move.ofPiece]
    · rw [moves_of_isName hs, List.nil_append]
  · rename_i hlast
    obtain ⟨cs, hcs⟩ := List.getLast?_eq_some_iff.1 hlast
    have hjoin : p.chars ++ s.toList = cs ++ '/' :: s.toList := by simp [hcs]
    have hp : p = .ofChars (cs ++ ['/']) := by rw [← hcs, Path.ofChars_chars]
    refine ⟨?_, moves (.ofChars cs), .inr ?_, ?_⟩
    · unfold Path.isAbsolute
      rw [Path.chars_ofChars, hcs]
      simp [Path.chars]
    · rw [hp, moves_ofChars_append]
      rfl
    · show moves (.ofChars (p.chars ++ s.toList)) = _
      rw [hjoin, moves_ofChars_append]
      rw [moves_ofChars_of_isName hs]
  · rename_i c hc hlast
    refine ⟨?_, moves p, .inl rfl, ?_⟩
    · unfold Path.isAbsolute
      rw [Path.chars_ofChars]
      cases hp : p.chars with
      | nil => simp [hp] at hlast
      | cons c cs => simp
    · show moves (.ofChars (p.chars ++ '/' :: s.toList)) = _
      rw [moves_ofChars_append, Path.ofChars_chars]
      rw [moves_ofChars_of_isName hs]

theorem start?_joinText (t : FileTree) (p : Path) (hs : IsName s) :
    t.start? (p.joinText s) = t.start? p := by
  unfold start?
  rw [(moves_joinText p hs).1]

/-- Behind a path that leads to a directory, a name is looked up there. -/
theorem locate_joinText {m : Nat} (hs : IsName s) (hp : Takes (p.joinText s))
    (hstart : t.start? p = some dir) (hgo : t.Goes linkLimit dir (moves p) m k) :
    t.locate follow (p.joinText s) = t.walk follow m k [.name s] := by
  rw [locate_of_takes hp ((start?_joinText t p hs).trans hstart)]
  obtain ⟨-, ms, hms, hjoin⟩ := moves_joinText p hs
  rw [hjoin]
  refine Goes.walk_append ?_ (.inr (List.cons_ne_nil _ _))
  rcases hms with hms | hms
  · rwa [← hms]
  · rw [hms] at hgo
    exact hgo.of_append_nothing

/-- A path with a name behind it leads somewhere only if the path leads to a directory. -/
theorem leadsTo_of_locate_joinText (hs : IsName s)
    (h : t.locate follow (p.joinText s) = .ok spot) :
    ∃ dir m k, t.start? p = some dir ∧ t.Goes linkLimit dir (moves p) m k ∧
      t.walk follow m k [.name s] = .ok spot := by
  obtain ⟨-, dir, hstart, hw⟩ := takes_of_locate h
  rw [start?_joinText t p hs] at hstart
  obtain ⟨-, ms, hms, hjoin⟩ := moves_joinText p hs
  rw [hjoin] at hw
  obtain ⟨m, k, hgo, hend⟩ := goes_of_walk_append (by rfl) hw
  refine ⟨dir, m, k, hstart, ?_, hend⟩
  rcases hms with hms | hms
  · rwa [hms]
  · rw [hms]
    exact hgo.append (.nothing (.here m k))

end FileTree
end LintHub
