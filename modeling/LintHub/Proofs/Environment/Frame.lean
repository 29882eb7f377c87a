import LintHub.Proofs.Environment.History
import LintHub.Proofs.Environment.Renewed
import LintHub.Proofs.Environment.Scripted

/-!
# What setup leaves alone

Wherever a pass ends, it has changed nothing but the environment's directory (`Framed`). Once the
directory has been made, it is empty, so everything that comes after goes into it: the payloads
have names, the script is trusted to stay inside (`StaysInside`), and the marker is a name, too,
or a link that the script left and that leads nowhere else.

If the directory is not empty then, a link in it may lead a payload anywhere; this is how setup
behind a `..` may overwrite its own bundle (`payload_overwrites_source`).

* `framed_reprovision`: a pass, by where it ends.
* `answer_framed`: every request.
-/

namespace LintHub

open FileTree (SameOutside Begins IsName)

variable {σ : Type}

namespace FileTree

variable {t t' : FileTree} {p : Path} {k l : Place} {s : String}

/-- No link below a place leads out of it. -/
def LinksInside (t : FileTree) (k : Place) : Prop :=
  ∀ l target n spot, Place.isBelow l k = true → t.get? l = some (.link target) →
    t.walk true n (linkBase l.dropLast target) (moves ⟨target⟩) = .ok spot → k <+: spot.place

theorem Unlinked.linksInside (h : t.Unlinked k) : t.LinksInside k :=
  fun l target _ _ hl hlink _ => absurd hlink (h l target hl)

/-- Where a name in a directory leads, if links do not lead out. -/
theorem place_of_locate_joinText {spot : Spot} (hs : IsName s) (hlead : t.LeadsTo p k)
    (hlinks : t.LinksInside k) (h : t.locate true (p.joinText s) = .ok spot) :
    k <+: spot.place := by
  obtain ⟨dir, m, k', hstart, hgo, hw⟩ := leadsTo_of_locate_joinText hs h
  obtain rfl := hlead.unique ⟨dir, m, hstart, hgo⟩
  rw [walk_name] at hw
  split at hw
  · cases hw
  · split at hw
    · cases hw
      exact List.prefix_append _ _
    · rw [walk_nil] at hw
      cases hw
      exact List.prefix_append _ _
    · cases hw
      exact List.prefix_append _ _
    · rename_i target hlink
      cases m with
      | zero => cases hw
      | succ m =>
        rw [List.append_nil] at hw
        refine hlinks _ target m spot (isBelow_append_singleton k s) hlink ?_
        rw [List.dropLast_concat]
        exact hw

/-- **A file by a name in a directory** goes below it, if links do not lead out. -/
theorem WritesAt.isBelow (hs : IsName s) (h : t.WritesAt (p.joinText s) l) (hlead : t.LeadsTo p k)
    (hlinks : t.LinksInside k) : Place.isBelow l k = true := by
  have hdir := hlead.hasDirectory
  cases h with
  | @existing _ content mode there =>
    refine Place.isBelow_iff.2 ⟨place_of_locate_joinText hs hlead hlinks there, ?_⟩
    -- it is a file, and the directory is none
    rintro rfl
    have hfile := get?_of_locate_file there
    rcases hasDirectory_iff.1 hdir with rfl | hget
    · simp at hfile
    · rw [hfile] at hget
      cases hget
  | @fresh dir name missing =>
    refine Place.isBelow_iff.2 ⟨place_of_locate_joinText hs hlead hlinks missing, ?_⟩
    rintro rfl
    rcases hasDirectory_iff.1 hdir with hroot | hget
    · simp at hroot
    · rw [(vacant_of_locate missing).2] at hget
      cases hget

theorem Writes.sameOutside_of_linksInside (hs : IsName s) (h : t.Writes (p.joinText s) t')
    (hlead : t.LeadsTo p k) (hlinks : t.LinksInside k) : SameOutside k t t' := by
  cases h with
  | nothing => exact .refl k t
  | @file place hplace content mode =>
    have hbelow := hplace.isBelow hs hlead hlinks
    refine ⟨here_put .., fun l hl => ?_⟩
    rw [hplace.get?_put, if_neg]
    rintro rfl
    rw [hbelow] at hl
    cases hl

end FileTree

namespace Provisioner

variable {v : Provisioner} {run : Runner σ} {s : Session σ} {t t' t₂ : FileTree} {k l : Place}

/-- A script that is started in a directory with nothing but files in it changes nothing outside
and leaves no link that leads out. -/
structure StaysInside (v : Provisioner) (run : Runner σ) : Prop where
  outside : ∀ (state : σ) (t : FileTree) (k : Place), t.LeadsTo v.layout.execDir k →
    v.layout.Unmarked t → SameOutside k t (run v.setupCall state t).2.2
  links : ∀ (state : σ) (t : FileTree) (k : Place), t.LeadsTo v.layout.execDir k →
    v.layout.Unmarked t → (run v.setupCall state t).2.2.LinksInside k

/-- **Prepared setup** stays inside: it makes directories only. -/
theorem staysInside_scripted (v : Provisioner)
    (script : Nat → Except LaunchCause (Output × Nat)) : v.StaysInside (scripted script) := by
  refine ⟨(v.confined_scripted script).outside, fun count t k hlead h => ?_⟩
  obtain ⟨n, heq⟩ := v.scripted_spec script count t
  rw [heq]
  exact ((unlinked_of_unmarked hlead h).addsDirectories
    (Replay.adds_addPackages t v.layout.execDir n)).linksInside

/-- Between two trees nothing has changed but the environment's directory. -/
structure Framed (v : Provisioner) (before after : FileTree) : Prop where
  here : after.here = before.here
  /-- What is gone was in a real directory at the end of the path, or a link there. -/
  kept : ∀ l e, before.get? l = some e → after.get? l = some e ∨
    (∃ k, before.find? false v.layout.execDir = .ok (k, .directory) ∧ k <+: l) ∨
    ∃ target, before.find? false v.layout.execDir = .ok (l, .link target)
  /-- What is new is in the directory at the end of the path, or a directory on the way. -/
  new : ∀ l e, after.get? l = some e → before.get? l = some e ∨
    (∃ k, after.LeadsTo v.layout.execDir k ∧ k <+: l) ∨
    e = .directory ∧ ∃ q, Begins q v.layout.execDir ∧ after.LeadsTo q l

theorem Framed.refl (v : Provisioner) (t : FileTree) : v.Framed t t :=
  ⟨rfl, fun _ _ h => .inl h, fun _ _ h => .inl h⟩

/-- A file that was not in a real directory at the end of the path is what it was. -/
theorem Framed.file (h : v.Framed t t') {p : Path} {content : Bytes} {mode : Nat}
    (hfind : t.find? true p = .ok (l, .file content mode))
    (hout : ∀ k, t.find? false v.layout.execDir = .ok (k, .directory) → ¬ k <+: l) :
    t'.get? l = some (.file content mode) := by
  have hfile := FileTree.get?_of_locate_file (FileTree.find?_eq_ok_iff.1 hfind)
  rcases h.kept l _ hfile with hkept | ⟨k, hdir, hpre⟩ | ⟨target, hlink⟩
  · exact hkept
  · exact absurd hpre (hout k hdir)
  · have hget := FileTree.get?_of_locate_link (FileTree.find?_eq_ok_iff.1 hlink)
    rw [hfile] at hget
    cases hget

theorem here_onTree_clear (v : Provisioner) (t : FileTree) :
    (SetupStep.clear.onTree v t).2.here = t.here := by
  cases hex : t.exists? v.layout.execDir with
  | false => rw [onTree_clear_of_not_exists hex]
  | true =>
    rw [onTree_clear_of_exists hex]
    exact (FileTree.removeAll_grows t v.layout.execDir).here.symm

theorem framed_clear (v : Provisioner) (t : FileTree) :
    v.Framed t (SetupStep.clear.onTree v t).2 :=
  ⟨here_onTree_clear v t, fun _ _ h => onTree_clear_keeps v h, fun _ _ h =>
    .inl (get?_of_onTree_clear h)⟩

/-- Making the directory adds directories on the way to it. -/
theorem framed_create (h : v.Framed t t') (hback : ∀ l e, t'.get? l = some e → t.get? l = some e) :
    v.Framed t (SetupStep.create.onTree v t').2 := by
  have hmade := madeAlong_create v t'
  refine ⟨hmade.adds.here.trans h.here, fun l e hl => ?_, fun l e hl => ?_⟩
  · refine (h.kept l e hl).imp_left fun hkept => ?_
    rcases hmade.adds.get? l with heq | ⟨hnone, -⟩
    · exact heq.trans hkept
    · rw [hkept] at hnone
      cases hnone
  · rcases hmade.adds.get? l with heq | ⟨hnone, hnew⟩
    · exact .inl (hback l e (heq ▸ hl))
    · have hother : (SetupStep.create.onTree v t').2.get? l ≠ t'.get? l := by
        rw [hnew, hnone]
        nofun
      rw [hnew] at hl
      cases hl
      obtain ⟨q, -, hq, hlead⟩ := hmade.new hother
      exact .inr (.inr ⟨rfl, q, hq, hlead⟩)

/-- **After the directory has been made**, whatever changes in it changes nothing else. -/
theorem Framed.inside (h : v.Framed t t₂) (hlead : t₂.LeadsTo v.layout.execDir k)
    (hempty : ∀ l, Place.isBelow l k = true → t₂.get? l = none) (hout : SameOutside k t₂ t') :
    v.Framed t t' := by
  have hways := (hout.grows hempty).keepsWays
  refine ⟨hout.here.trans h.here, fun l e hl => ?_, fun l e hl => ?_⟩
  · refine (h.kept l e hl).imp_left fun hkept => ?_
    rw [hout.get? l, hkept]
    rw [← Bool.not_eq_true]
    intro hbelow
    rw [hempty l hbelow] at hkept
    cases hkept
  · cases hbelow : Place.isBelow l k with
    | true =>
      exact .inr (.inl ⟨k, hways.leadsTo hlead, (Place.isBelow_iff.1 hbelow).1⟩)
    | false =>
      rw [hout.get? l hbelow] at hl
      rcases h.new l e hl with hold | ⟨k', hlead', hpre⟩ | ⟨rfl, q, hq, hleadq⟩
      · exact .inl hold
      · exact .inr (.inl ⟨k', hways.leadsTo hlead', hpre⟩)
      · exact .inr (.inr ⟨rfl, q, hq, hways.leadsTo hleadq⟩)

/-- The first two steps, whether they succeed or fail. -/
theorem framed_renewal (v : Provisioner) (t : FileTree) :
    v.Framed t (SetupStep.allOnTree v [.clear, .create] t).2 := by
  have hclear := framed_clear v t
  rw [SetupStep.allOnTree_cons]
  rcases hfirst : SetupStep.clear.onTree v t with ⟨e | _, t₁⟩
  · rw [hfirst] at hclear
    exact hclear
  · have hcreate := framed_create hclear fun l e => get?_of_onTree_clear
    rw [hfirst] at hcreate
    simp only
    rw [SetupStep.allOnTree_cons]
    generalize SetupStep.create.onTree v t₁ = made at hcreate ⊢
    obtain ⟨e | _, t₂⟩ := made
    · exact hcreate
    · exact hcreate

theorem Renewed.unmarked (h : v.Renewed t t₂ k) : v.layout.Unmarked t₂ := by
  intro k' hlead name e hget
  obtain rfl := h.leads.unique hlead
  rw [h.empty _ (FileTree.isBelow_append_singleton k name)] at hget
  cases hget

/-- **A pass changes nothing but the directory**, wherever it ends. -/
theorem framed_reprovision (hnames : v.PlainNames) (hne : v.layout.execDir.text ≠ "")
    (hinside : v.StaysInside run) (hrenews : v.Renews s.tree) :
    v.Framed s.tree (v.reprovision run s).2.tree := by
  have hframed := framed_renewal v s.tree
  rcases hfirst : SetupStep.allOnTree v [.clear, .create] s.tree with ⟨e | _, t₂⟩
  · rw [hfirst] at hframed
    have hprepare := prepare_of_renewal_error hfirst
    rw [(reprovision_of_unprepared (congrArg Prod.fst hprepare)).2.1, hprepare]
    exact hframed
  · rw [hfirst] at hframed
    have hprepare := prepare_of_renewal_ok hfirst
    obtain ⟨k, hrenewed⟩ := exists_renewed hne hrenews hfirst
    -- from here on nothing changes outside of the directory
    suffices hout : SameOutside k t₂ (v.reprovision run s).2.tree from
      hframed.inside hrenewed.leads hrenewed.empty hout
    have hleads {t : FileTree} (h : SameOutside k t₂ t) : t.LeadsTo v.layout.execDir k :=
      (h.grows hrenewed.empty).keepsWays.leadsTo hrenewed.leads
    have hfilled : SameOutside k t₂ (v.prepare s.tree).2 := by
      rw [hprepare]
      exact sameOutside_extract hnames hrenewed.unmarked hrenewed.leads
    have hunmarked : v.layout.Unmarked (v.prepare s.tree).2 := by
      rw [hprepare]
      exact unmarked_allOnTree hnames hrenewed.unmarked
    cases hdone : (v.prepare s.tree).1 with
    | error e =>
      rw [(reprovision_of_unprepared hdone).2.1]
      exact hfilled
    | ok _ =>
      have hscript : SameOutside k t₂ (v.afterScript run s).2.2 :=
        hfilled.trans (hinside.outside s.runner _ k (hleads hfilled) hunmarked)
      cases hverdict : verdict (v.afterScript run s).1 with
      | error e =>
        rw [(reprovision_of_script_error hdone hverdict).2.1]
        exact hscript
      | ok _ =>
        rw [(reprovision_of_script_ok hdone hverdict).2.1]
        have hlinks : (v.afterScript run s).2.2.LinksInside k :=
          hinside.links s.runner _ k (hleads hfilled) hunmarked
        exact hscript.trans ((writes_mark v _).sameOutside_of_linksInside
          FileTree.isName_markerName (hleads hscript) hlinks)

/-- The usual names of payloads are names, and none is the marker's. -/
theorem plainNames_of_ofDirectory {dir : Path} (h : v.bundle = .ofDirectory dir) :
    v.PlainNames := by
  have husual : ∀ name ∈ ["node_modules.7z", "7za", "lib7z.so", "prepare.sh"],
      IsName name ∧ name ≠ Layout.markerName := by
    intro name hname
    simp only [List.mem_cons, List.not_mem_nil, or_false] at hname
    rcases hname with rfl | rfl | rfl | rfl <;> exact ⟨⟨by decide, by rfl⟩, by decide⟩
  intro p hp
  refine husual p.name ?_
  rw [h] at hp
  exact List.mem_map_of_mem hp

/-- **Setup stays inside its directory.** Where the first two steps leave an empty directory, as
they do unless they make a directory on the way out of which a `..` leads, a request leaves
everything else as it is, whether it succeeds or fails at any step. It takes away what is in a
real directory at the end of the path, or a link there and nothing behind it; it adds directories
on the way and what is in the directory. So a file that is elsewhere, such as the source of a
payload, keeps its contents and its permissions. -/
theorem answer_framed (v : Provisioner) (run : Runner σ)
    (hbundle : (∃ dir, v.bundle = .ofDirectory dir) ∨ ∃ h c, v.bundle = .ofSettings h c)
    (hne : v.layout.execDir.text ≠ "") (hinside : v.StaysInside run) :
    (∀ t, v.Renewable t → v.Renews t) ∧
    ∀ (r : Request) (s : Session σ), v.Renews s.tree →
      let after := (v.answer run r s).2.tree
      v.Framed s.tree after ∧
      ∀ p l content mode, s.tree.find? true p = .ok (l, .file content mode) →
        (∀ k, s.tree.find? false v.layout.execDir = .ok (k, .directory) → ¬ k <+: l) →
        after.get? l = some (.file content mode) := by
  have hnames : v.PlainNames := by
    rcases hbundle with ⟨dir, h⟩ | ⟨h, c, heq⟩
    · exact plainNames_of_ofDirectory h
    · exact plainNames_of_ofDirectory heq
  refine ⟨fun t h => ?_, fun r s hrenews => ?_⟩
  · exact h.renews hne
  · intro after
    have hframed : v.Framed s.tree after := by
      rcases answer_cases v run r s with heq | heq
      · have htree : after = (v.reprovision run s).2.tree := congrArg (·.2.tree) heq
        rw [htree]
        exact framed_reprovision hnames hne hinside hrenews
      · have htree : after = s.tree := congrArg (·.2.tree) heq
        rw [htree]
        exact .refl v s.tree
    exact ⟨hframed, fun p l content mode => hframed.file⟩

/-- An environment behind a link, and payloads in another directory. -/
def linkedEnvironment : FileTree :=
  let payloads := ["node_modules.7z", "7za", "lib7z.so", "prepare.sh"]
  let t := (((default : FileTree).put ["env"] (.link "/old")).put ["old"] .directory).put
    ["old", "kept"] (.file [1] 0)
  payloads.foldl (fun t name => t.put ["node", name] (.file [2] 0)) (t.put ["node"] .directory)

theorem answer_framed_of_link :
    let v : Provisioner := ⟨⟨⟨"/env"⟩, 1⟩, .ofDirectory ⟨"/node"⟩, "now"⟩
    let run := scripted fun _ => .ok (⟨"", "", some 0⟩, 1)
    (v.answer run .ensure ⟨linkedEnvironment, 0, [], []⟩).1 = .ok .provisioned ∧
      v.Framed linkedEnvironment (v.answer run .ensure ⟨linkedEnvironment, 0, [], []⟩).2.tree ∧
      (v.answer run .ensure ⟨linkedEnvironment, 0, [], []⟩).2.tree.get? ["old", "kept"] =
        some (.file [1] 0) ∧
      (v.answer run .ensure ⟨linkedEnvironment, 0, [], []⟩).2.tree.get? ["node", "7za"] =
        some (.file [2] 0) := by
  intro v run
  obtain ⟨hrenews, hframed⟩ := answer_framed v run (.inl ⟨⟨"/node"⟩, rfl⟩) (by decide)
    (v.staysInside_scripted _)
  obtain ⟨hall, hfile⟩ := hframed .ensure ⟨linkedEnvironment, 0, [], []⟩
    (hrenews _ (.straight (by decide)))
  -- at the end of the path is a link and no directory
  have hlink : linkedEnvironment.find? false v.layout.execDir = .ok (["env"], .link "/old") := by
    decide +kernel
  have hout (l k : Place)
      (hdir : linkedEnvironment.find? false v.layout.execDir = .ok (k, .directory)) :
      ¬ k <+: l := by
    rw [hlink] at hdir
    cases hdir
  exact ⟨by decide +kernel, hall,
    hfile ⟨"/old/kept"⟩ ["old", "kept"] [1] 0 (by decide +kernel) (hout _),
    hfile ⟨"/node/7za"⟩ ["node", "7za"] [2] 0 (by decide +kernel) (hout _)⟩

/-- The directory that is made was there, behind one that was missing, and the link in it by the
name of a payload leads to the source of another one. -/
theorem payload_overwrites_source :
    let v : Provisioner := ⟨⟨⟨"/a/b/../c"⟩, 1⟩, .ofDirectory ⟨"/node"⟩, "now"⟩
    let t := (((linkedEnvironment.put ["node", "prepare.sh"] (.file [3] 0)).put ["a"]
      .directory).put ["a", "c"] .directory).put ["a", "c", "7za"] (.link "../../node/prepare.sh")
    t.find? true ⟨"/node/prepare.sh"⟩ = .ok (["node", "prepare.sh"], .file [3] 0) ∧
      (v.prepare t).2.get? ["node", "prepare.sh"] = some (.file [2] 0) := by
  decide +kernel

end Provisioner
end LintHub
