import LintHub.Proofs.Environment.Validity
import LintHub.Proofs.FileTree.Inside

/-!
# What a failed step leaves

A pass that fails should leave no marker, so that the next request starts over. The first two
steps see to it: one that fails by itself leaves none, and where both succeed they leave an empty
directory, into which the payloads bring none (`Renews`, `unmarked_allOnTree`). They do leave an
empty directory for every path without a `..` (`renews_of_no_up`). Behind a `..` they may uncover
an old directory, which no step clears: the way to it leads through a directory that was missing
when the old one was looked for.

* `isFile_marker_of_clear_error`, `isFile_marker_of_create_error`: the first two steps, failed.
* `unmarked_allOnTree`: the payloads, whether they succeed or fail.
* `mark_error`: the marker.
-/

namespace LintHub

variable {σ : Type}

namespace Layout

variable {l : Layout} {t t' : FileTree}

/-- In the environment's directory there is nothing but files, none of them the marker. -/
def Unmarked (l : Layout) (t : FileTree) : Prop :=
  ∀ k, t.LeadsTo l.execDir k → ∀ s e, t.get? (k ++ [s]) = some e →
    s ≠ markerName ∧ ∃ content mode, e = .file content mode

theorem Unmarked.isFile_marker (h : l.Unmarked t) : t.isFile l.marker = false := by
  rw [← Bool.not_eq_true]
  intro hfile
  obtain ⟨-, k, hlead, e, hget⟩ := leadsTo_of_isFile_marker hfile
  exact (h k hlead markerName e hget).1 rfl

/-- Without the directory there is no marker in it. -/
theorem isFile_marker_of_not_isDirectory (hne : l.execDir.text ≠ "")
    (h : t.isDirectory l.execDir = false) : t.isFile l.marker = false := by
  rw [← Bool.not_eq_true] at h ⊢
  intro hfile
  obtain ⟨htakes, k, hlead, -⟩ := leadsTo_of_isFile_marker hfile
  exact h (FileTree.isDirectory_iff.2 ⟨htakes.of_joinText FileTree.isName_markerName hne, k, hlead⟩)

/-- A file by another name is no marker. -/
theorem Unmarked.writes (h : l.Unmarked t) {s : String} (hs : FileTree.IsName s)
    (hne : s ≠ markerName) (hwrites : t.Writes (l.execDir.joinText s) t') : l.Unmarked t' := by
  have hback := hwrites.keepsWays
  cases hwrites with
  | nothing => exact h
  | @file place hplace content mode =>
    intro k hlead s' e hget
    have hleadt := hback.leadsTo hlead
    obtain ⟨k', hlead', hk⟩ := hplace.place_eq hs
    obtain rfl := hleadt.unique hlead'
    -- the file goes into the directory, where no link can lead it astray
    rcases hk with rfl | ⟨target, hlink⟩
    · rw [hplace.get?_put] at hget
      split at hget
      · rename_i heq
        cases hget
        have hname : s' = s := by simpa using List.append_cancel_left heq
        exact ⟨hname ▸ hne, content, mode, rfl⟩
      · exact h k hleadt s' e hget
    · obtain ⟨-, _, _, heq⟩ := h k hleadt s _ hlink
      cases heq

end Layout

namespace Provisioner

variable {v : Provisioner} {run : Runner σ} {s : Session σ} {t t' : FileTree}

/-- Where the first two steps succeed, they leave an empty directory. -/
def Renews (v : Provisioner) (t : FileTree) : Prop :=
  ∀ t', SetupStep.allOnTree v [.clear, .create] t = (.ok (), t') →
    ∀ k, t'.LeadsTo v.layout.execDir k → ∀ l, Place.isBelow l k = true → t'.get? l = none

/-- The names of the payloads are names, and none is the marker's. -/
def PlainNames (v : Provisioner) : Prop :=
  ∀ p ∈ v.bundle.payloads, FileTree.IsName p.name ∧ p.name ≠ Layout.markerName

theorem plainNames_plain (execDir : Path) (minModules : Nat) :
    (plain execDir minModules).PlainNames := by
  intro p hp
  simp only [plain, Bundle.payloads, List.mem_cons, List.not_mem_nil, or_false] at hp
  rcases hp with rfl | rfl | rfl | rfl <;> exact ⟨⟨by decide, by rfl⟩, by decide⟩

theorem onTree_clear_of_exists (h : t.exists? v.layout.execDir = true) :
    SetupStep.clear.onTree v t =
      ((t.removeAll v.layout.execDir).1.mapError (.file v.layout.execDir),
        (t.removeAll v.layout.execDir).2) := by
  simp only [SetupStep.onTree, h, if_true]

theorem onTree_clear_of_not_exists (h : t.exists? v.layout.execDir = false) :
    SetupStep.clear.onTree v t = (.ok (), t) := by
  simp only [SetupStep.onTree, h, Bool.false_eq_true, if_false]

theorem onTree_create (v : Provisioner) (t : FileTree) :
    SetupStep.create.onTree v t =
      ((t.makeDirectories v.layout.execDir).1.mapError (.file v.layout.execDir),
        (t.makeDirectories v.layout.execDir).2) := by
  simp only [SetupStep.onTree]

theorem onTree_create_eq_ok_iff :
    SetupStep.create.onTree v t = (.ok (), t') ↔
      t.makeDirectories v.layout.execDir = (.ok (), t') := by
  rw [onTree_create, Prod.mk.injEq, mapError_eq_ok_iff, Prod.ext_iff]

/-- Where the directory is made, the path leads. -/
theorem leadsTo_of_create_ok (hne : v.layout.execDir.text ≠ "")
    (h : SetupStep.create.onTree v t = (.ok (), t')) : ∃ k, t'.LeadsTo v.layout.execDir k :=
  FileTree.leadsTo_of_makeDirectories_ok hne (onTree_create_eq_ok_iff.1 h)

/-- A removal that failed leaves no marker. -/
theorem isFile_marker_of_clear_error {e : ProvisionError}
    (h : SetupStep.clear.onTree v t = (.error e, t')) : t'.isFile v.layout.marker = false := by
  cases hex : t.exists? v.layout.execDir with
  | false =>
    rw [onTree_clear_of_not_exists hex] at h
    cases h
  | true =>
    rw [onTree_clear_of_exists hex] at h
    obtain ⟨hres, rfl⟩ := Prod.mk.inj h
    cases hremove : (t.removeAll v.layout.execDir).1 with
    | ok _ =>
      rw [hremove] at hres
      cases hres
    | error cause =>
      rw [← Bool.not_eq_true]
      intro hfile
      obtain ⟨-, k, hlead, e, hget⟩ := Layout.leadsTo_of_isFile_marker hfile
      rw [FileTree.empty_of_removeAll_error (FileTree.takes_of_exists hex) hremove hlead
        (FileTree.isBelow_append_singleton k _)] at hget
      cases hget

/-- Neither does a directory that could not be made. -/
theorem isFile_marker_of_create_error {e : ProvisionError}
    (h : SetupStep.create.onTree v t = (.error e, t')) : t'.isFile v.layout.marker = false := by
  rw [onTree_create] at h
  obtain ⟨hres, rfl⟩ := Prod.mk.inj h
  have hspec := FileTree.makeDirectories_spec t v.layout.execDir
  -- it fails only if there is no directory in the end, and so no marker in it
  have hnot : (t.makeDirectories v.layout.execDir).1 ≠ .ok () := by
    intro hok
    rw [hok] at hres
    cases hres
  have hne : v.layout.execDir.text ≠ "" := fun hempty => hnot (hspec.idle (.inl hempty)).1
  refine Layout.isFile_marker_of_not_isDirectory hne ?_
  rw [← Bool.not_eq_true]
  intro hdir
  exact hnot ((hspec.ok_iff (FileTree.isDirectory_iff.1 hdir).1).2 hdir)

/-- Payloads by other names leave no marker. -/
theorem unmarked_allOnTree {payloads : List Payload}
    (hnames : ∀ p ∈ payloads, FileTree.IsName p.name ∧ p.name ≠ Layout.markerName)
    (h : v.layout.Unmarked t) :
    v.layout.Unmarked (SetupStep.allOnTree v (payloads.map .extract) t).2 := by
  induction payloads generalizing t with
  | nil => exact h
  | cons p payloads ih =>
    obtain ⟨hname, hne⟩ := hnames p (List.mem_cons_self ..)
    have hp : v.layout.Unmarked (p.onTree v.layout.execDir t).2 :=
      h.writes hname hne (p.writes_onTree v.layout.execDir t)
    rw [List.map_cons, SetupStep.allOnTree_cons]
    simp only [SetupStep.onTree]
    generalize p.onTree v.layout.execDir t = extracted at hp ⊢
    obtain ⟨e | _, t'⟩ := extracted
    · exact hp
    · exact ih (fun q hq => hnames q (List.mem_cons_of_mem _ hq)) hp

/-- A script that leaves no marker where there was none. -/
def SparesMarker (v : Provisioner) (run : Runner σ) : Prop :=
  ∀ (state : σ) (t : FileTree), t.isFile v.layout.marker = false →
    (run v.setupCall state t).2.2.isFile v.layout.marker = false

/-- What cannot be marked is left as it is. -/
theorem mark_error {e : ProvisionError} (h : (v.mark t).1 = .error e) : (v.mark t).2 = t := by
  rw [mark_fst] at h
  rw [mark_snd]
  cases hw : (t.write v.layout.marker (Text.encode v.stamp.toList)).1 with
  | ok _ =>
    rw [hw] at h
    cases h
  | error cause => exact FileTree.write_error hw

/-- After the directory has been cleared, the path leads nowhere. -/
theorem isDirectory_of_clear_ok (h : SetupStep.clear.onTree v t = (.ok (), t')) :
    t'.isDirectory v.layout.execDir = false := by
  cases hex : t.exists? v.layout.execDir with
  | false =>
    rw [onTree_clear_of_not_exists hex] at h
    cases h
    exact FileTree.isDirectory_eq_false_of_not_exists hex
  | true =>
    rw [onTree_clear_of_exists hex] at h
    obtain ⟨hres, rfl⟩ := Prod.mk.inj h
    cases hremove : (t.removeAll v.layout.execDir).1 with
    | error cause =>
      rw [hremove] at hres
      cases hres
    | ok _ =>
      rw [← Bool.not_eq_true]
      intro hdir
      obtain ⟨htakes, k, hlead⟩ := FileTree.isDirectory_iff.1 hdir
      exact FileTree.not_leadsTo_of_removeAll_ok htakes hremove k hlead

/-- The first two steps make the directory, if there is no `..` in its path. -/
theorem makes_of_no_up (hne : v.layout.execDir.text ≠ "")
    (hup : .up ∉ FileTree.moves v.layout.execDir)
    (h : SetupStep.allOnTree v [.clear, .create] t = (.ok (), t')) :
    ∃ (t₁ : FileTree) (k : Place), t₁.Makes v.layout.execDir t' k := by
  obtain ⟨t₁, hclear, hcreate⟩ := SetupStep.allOnTree_pair_ok.1 h
  have hmade := onTree_create_eq_ok_iff.1 hcreate
  have hfresh := (FileTree.makeDirectories_spec t₁ v.layout.execDir).fresh hne
    (isDirectory_of_clear_ok hclear) hup
  rw [hmade] at hfresh
  exact ⟨t₁, hfresh rfl⟩

/-- **Every path without a `..`** is renewed. -/
theorem renews_of_no_up (hne : v.layout.execDir.text ≠ "")
    (hup : .up ∉ FileTree.moves v.layout.execDir) (t : FileTree) : v.Renews t := by
  intro t' h k hlead l hl
  obtain ⟨t₁, k', hmakes⟩ := makes_of_no_up hne hup h
  obtain rfl := hlead.unique hmakes.leads
  exact hmakes.empty l hl

end Provisioner
end LintHub
