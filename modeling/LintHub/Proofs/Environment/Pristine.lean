import LintHub.Proofs.Environment.Alike

/-!
# What the setup script finds

The script is started in a directory that holds the payloads and nothing else, whatever was
there before: the directory has been renewed, and then each payload goes to a name of its own
(`fill`). So nothing of an older installation has an effect on what setup does, and two requests
that find different contents in a real directory end alike.

* `Payload.onTree_ok`: what one payload adds.
* `pristine_prepare`: what is there when the script is started.
* `setup_pristine`: a whole request.
-/

namespace LintHub

open FileTree (SameOutside IsName)

variable {σ : Type}

namespace FileTree

variable {t t' : FileTree} {p : Path} {k l : Place} {s : String} {content : Bytes} {mode : Nat}

/-- A file that is written by a new name in a directory stands there. -/
theorem writeWithMode_joinText (hs : IsName s) (hlead : t.LeadsTo p k)
    (hnone : t.get? (k ++ [s]) = none)
    (h : t.writeWithMode (p.joinText s) content mode = (.ok l, t')) :
    t.WritesAt (p.joinText s) (k ++ [s]) ∧ l = k ++ [s] ∧
      ∃ mode', t' = t.put (k ++ [s]) (.file content mode') := by
  obtain ⟨hplace, mode', heq⟩ := writeWithMode_ok (congrArg Prod.fst h)
  rw [h] at heq
  obtain ⟨k', hlead', hl⟩ := hplace.place_eq hs
  obtain rfl := hlead.unique hlead'
  rcases hl with rfl | ⟨target, hlink⟩
  · exact ⟨hplace, rfl, mode', heq⟩
  · rw [hnone] at hlink
    cases hlink

/-- What leads to a file still does when another one is new. -/
theorem find?_put_of_new (hplace : t.WritesAt p k) (hnone : t.get? k = none) {source : Path}
    {content' : Bytes} {mode' : Nat} (h : t.find? true source = .ok (l, .file content' mode')) :
    (t.put k (.file content mode)).find? true source = .ok (l, .file content' mode') := by
  have hloc := find?_eq_ok_iff.1 h
  obtain ⟨e, ⟨content'', mode'', rfl⟩, hloc'⟩ := (hplace.grows content mode).locate hloc
  have hold := get?_of_locate_file hloc
  have hnew := get?_of_locate_file hloc'
  rw [hplace.get?_put, if_neg, hold] at hnew
  · cases hnew
    exact find?_eq_ok_iff.2 hloc'
  · rintro rfl
    rw [hnone] at hold
    cases hold

end FileTree

namespace Payload

variable {p : Payload} {dir : Path} {t t' : FileTree} {k : Place} {content : Bytes} {mode : Nat}

/-- What a payload is as a file: given contents are a program, others are what the source is. -/
def Yields (p : Payload) (t : FileTree) (content : Bytes) (mode : Nat) : Prop :=
  match p.source with
  | .bytes given => content = given ∧ mode = FileTree.programMode
  | .file source => ∃ l, t.find? true source = .ok (l, .file content mode)

/-- **A payload that is put into a directory** by a new name is one file more. -/
theorem onTree_ok (hname : IsName p.name) (hlead : t.LeadsTo dir k)
    (hnone : t.get? (k ++ [p.name]) = none) (h : p.onTree dir t = (.ok (), t')) :
    t.WritesAt (dir.joinText p.name) (k ++ [p.name]) ∧
      ∃ content mode, p.Yields t content mode ∧
        t' = t.put (k ++ [p.name]) (.file content mode) := by
  unfold onTree at h
  unfold Yields
  cases hsource : p.source with
  | bytes given =>
    simp only [hsource] at h
    rcases hwrite : t.write (dir.joinText p.name) given with ⟨e | _, t₁⟩
    · rw [hwrite] at h
      cases h
    rw [hwrite] at h
    obtain ⟨-, rfl⟩ := Prod.mk.inj h
    unfold FileTree.write at hwrite
    rcases hw : t.writeWithMode (dir.joinText p.name) given FileTree.plainMode with ⟨e | l, t₂⟩
    · rw [hw] at hwrite
      cases hwrite
    rw [hw] at hwrite
    obtain ⟨-, rfl⟩ := Prod.mk.inj hwrite
    obtain ⟨hplace, -, mode', rfl⟩ := FileTree.writeWithMode_joinText hname hlead hnone hw
    refine ⟨hplace, given, FileTree.programMode, ⟨rfl, rfl⟩, ?_⟩
    -- the bits are set on the file that has just been written
    unfold FileTree.setMode
    rw [FileTree.find?_eq_ok_iff.2 (hplace.locate_put given mode')]
    exact hplace.put_put given given mode' FileTree.programMode
  | file source =>
    simp only [hsource] at h
    split at h
    · obtain ⟨hres, rfl⟩ := Prod.mk.inj h
      have hok := mapError_eq_ok_iff.1 hres
      unfold FileTree.copy at hok ⊢
      split at hok
      · cases hok
      · rename_i from_ content mode hfind
        rcases hw : t.writeWithMode (dir.joinText p.name) content mode with ⟨e | l, t₁⟩
        · rw [hw] at hok
          cases hok
        obtain ⟨hplace, rfl, mode', rfl⟩ := FileTree.writeWithMode_joinText hname hlead hnone hw
        refine ⟨hplace, content, mode, ⟨from_, hfind⟩, ?_⟩
        -- the source is there, so it is not the file that is new
        have hother : k ++ [p.name] ≠ from_ := by
          rintro rfl
          rw [FileTree.get?_of_locate_file (FileTree.find?_eq_ok_iff.1 hfind)] at hnone
          cases hnone
        simp only [if_neg hother]
        exact hplace.put_put content content mode' mode
      · cases hok
    · cases h

theorem Yields.put_of_new {q : Payload} (h : q.Yields t content mode) {path : Path}
    (hplace : t.WritesAt path k) (hnone : t.get? k = none) (content' : Bytes) (mode' : Nat) :
    q.Yields (t.put k (.file content' mode')) content mode := by
  unfold Yields at h ⊢
  cases hsource : q.source with
  | bytes given => simpa only [hsource] using h
  | file source =>
    simp only [hsource] at h ⊢
    exact h.imp fun l hfind => FileTree.find?_put_of_new hplace hnone hfind

end Payload

namespace Provisioner

variable {v : Provisioner} {run : Runner σ} {t t' t₂ : FileTree} {k : Place}

/-- Of a directory, these payloads are all that is in it, each under its name. -/
structure Holds (t : FileTree) (k : Place) (payloads : List Payload) : Prop where
  each : ∀ p ∈ payloads, ∃ content mode,
    t.get? (k ++ [p.name]) = some (.file content mode) ∧ p.Yields t content mode
  only : ∀ l, Place.isBelow l k = true → t.get? l ≠ none → ∃ p ∈ payloads, l = k ++ [p.name]

/-- **One payload after another**, each under a name that is not taken. -/
theorem fill {payloads done : List Payload} (hnames : ∀ p ∈ payloads, IsName p.name)
    (hdistinct : ((done ++ payloads).map (·.name)).Nodup) (hlead : t.LeadsTo v.layout.execDir k)
    (hholds : Holds t k done)
    (h : SetupStep.allOnTree v (payloads.map .extract) t = (.ok (), t')) :
    Holds t' k (done ++ payloads) ∧ SameOutside k t t' ∧ t'.LeadsTo v.layout.execDir k := by
  induction payloads generalizing done t with
  | nil =>
    cases h
    rw [List.append_nil]
    exact ⟨hholds, .refl k _, hlead⟩
  | cons p payloads ih =>
    rw [List.map_cons, SetupStep.allOnTree_cons] at h
    rcases hextract : SetupStep.onTree v (.extract p) t with ⟨e | _, t₁⟩
    · rw [hextract] at h
      cases h
    rw [hextract] at h
    have hname := hnames p (List.mem_cons_self ..)
    have hnew : p.name ∉ done.map (·.name) := by
      rw [List.map_append, List.nodup_append] at hdistinct
      exact fun hmem => hdistinct.2.2 _ hmem _ (by simp) rfl
    -- the name is not taken by those that are there already
    have hnone : t.get? (k ++ [p.name]) = none := by
      by_contra htaken
      obtain ⟨q, hq, heq⟩ := hholds.only _ (FileTree.isBelow_append_singleton k p.name) htaken
      have hsame : p.name = q.name := by simpa using List.append_cancel_left heq
      exact hnew (List.mem_map.2 ⟨q, hq, hsame.symm⟩)
    obtain ⟨hplace, content, mode, hyields, rfl⟩ :=
      Payload.onTree_ok hname hlead hnone hextract
    have hput := hplace.get?_put content mode
    have hholds₁ : Holds (t.put (k ++ [p.name]) (.file content mode)) k (done ++ [p]) := by
      refine ⟨fun q hq => ?_, fun l hl hget => ?_⟩
      · rcases List.mem_append.1 hq with hq | hq
        · obtain ⟨content', mode', hget, hyields'⟩ := hholds.each q hq
          refine ⟨content', mode', ?_, hyields'.put_of_new hplace hnone content mode⟩
          rw [hput, if_neg, hget]
          intro heq
          have hsame : q.name = p.name := by simpa using List.append_cancel_left heq
          exact hnew (List.mem_map.2 ⟨q, hq, hsame⟩)
        · obtain rfl := List.mem_singleton.1 hq
          refine ⟨content, mode, ?_, hyields.put_of_new hplace hnone content mode⟩
          rw [hput, if_pos rfl]
      · by_cases heq : l = k ++ [p.name]
        · exact ⟨p, by simp, heq⟩
        · rw [hput, if_neg heq] at hget
          obtain ⟨q, hq, hqeq⟩ := hholds.only l hl hget
          exact ⟨q, List.mem_append_left _ hq, hqeq⟩
    have hout : SameOutside k t (t.put (k ++ [p.name]) (.file content mode)) :=
      .put (hplace.admits _)
    obtain ⟨hall, hrest, hlead'⟩ := ih (fun q hq => hnames q (List.mem_cons_of_mem _ hq))
      (by simpa using hdistinct) ((hplace.grows content mode).keepsWays.leadsTo hlead) hholds₁ h
    exact ⟨by simpa using hall, hout.trans hrest, hlead'⟩

/-- In the directory that the environment's path leads to are the payloads and nothing else, and
a file that is elsewhere was there before. -/
structure Pristine (v : Provisioner) (before t : FileTree) (k : Place) : Prop where
  leads : t.LeadsTo v.layout.execDir k
  holds : Holds t k v.bundle.payloads
  outside : ∀ l content mode, Place.isBelow l k = false → t.get? l = some (.file content mode) →
    before.get? l = some (.file content mode)

/-- **When the script is started**, the directory is pristine. -/
theorem pristine_prepare (hnames : ∀ p ∈ v.bundle.payloads, IsName p.name)
    (hdistinct : (v.bundle.payloads.map (·.name)).Nodup) (hne : v.layout.execDir.text ≠ "")
    (hrenews : v.Renews t) (h : v.prepare t = (.ok (), t')) : ∃ k, v.Pristine t t' k := by
  obtain ⟨t₂, k, hrenewed, hextract⟩ := renewed_of_prepare_ok hne hrenews h
  have hnothing : Holds t₂ k [] :=
    ⟨nofun, fun l hl hget => absurd (hrenewed.empty l hl) hget⟩
  obtain ⟨hholds, hout, hlead⟩ :=
    fill hnames (by simpa using hdistinct) hrenewed.leads hnothing hextract
  refine ⟨k, hlead, by simpa using hholds, fun l content mode hl hget => ?_⟩
  exact hrenewed.file_before (by rwa [hout.get? l hl] at hget)

/-- A request starts the script in what the preparations leave, or not at all. -/
theorem answer_started (v : Provisioner) (run : Runner σ) (r : Request) (s : Session σ) :
    (v.answer run r s).2.calls = s.calls ∨
      (v.prepare s.tree).1 = .ok () ∧ (v.answer run r s).2.calls = s.calls ++ [v.setupCall] ∧
      (v.answer run r s).2.runner = (run v.setupCall s.runner (v.prepare s.tree).2).2.1 := by
  rcases answer_cases v run r s with heq | heq
  · rw [heq]
    cases hprepare : (v.prepare s.tree).1 with
    | error e => exact .inl (reprovision_of_unprepared hprepare).2.2.2
    | ok _ =>
      refine .inr ⟨rfl, ?_⟩
      cases hscript : verdict (v.afterScript run s).1 with
      | error e =>
        obtain ⟨-, -, hrunner, hcalls⟩ := reprovision_of_script_error hprepare hscript
        exact ⟨hcalls, hrunner⟩
      | ok _ =>
        obtain ⟨-, -, hrunner, hcalls⟩ := reprovision_of_script_ok hprepare hscript
        exact ⟨hcalls, hrunner⟩
  · rw [heq]
    exact .inl rfl

/-- **Setup starts from a pristine directory.** Where the first two steps leave an empty
directory, as they do unless they make a directory on the way out of which a `..` leads, a
request that gets to the script starts it once, as `sh` with its name, in that directory; and
there are the payloads and nothing else. So requests that find different contents in a real
directory end alike, up to the time stamp in the marker. -/
theorem setup_pristine (v : Provisioner) (run : Runner σ)
    (hnames : ∀ p ∈ v.bundle.payloads, IsName p.name)
    (hdistinct : (v.bundle.payloads.map (·.name)).Nodup) (hne : v.layout.execDir.text ≠ "") :
    (∀ t, v.Renewable t → v.Renews t) ∧
    (∀ (r : Request) (s : Session σ), v.Renews s.tree →
      (v.answer run r s).2.calls = s.calls ∨
      (v.answer run r s).2.calls = s.calls ++
        [⟨⟨"sh"⟩, [v.bundle.setupScript.name], [], v.layout.execDir, none⟩] ∧
      ∃ t k, v.prepare s.tree = (.ok (), t) ∧ v.Pristine s.tree t k ∧
        (v.answer run r s).2.runner = (run v.setupCall s.runner t).2.1) ∧
    ∀ (r : Request) (s s' : Session σ) (k : Place) (stamp : String), v.ActsAlike run →
      s'.runner = s.runner → SameOutside k s.tree s'.tree →
      s.tree.find? false v.layout.execDir = .ok (k, .directory) →
      s'.tree.find? false v.layout.execDir = .ok (k, .directory) →
      (r = .reprovision ∨
        v.layout.isValid s.tree = false ∧ v.layout.isValid s'.tree = false) →
      let out := v.answer run r s
      let out' := (v.stamped stamp).answer run r s'
      out'.1 = out.1 ∧ out'.2.runner = out.2.runner ∧
      (∃ told started, s.Leads out.2 told started ∧ s'.Leads out'.2 told started) ∧
      out.2.tree.AlikeUpTo (Text.encode v.stamp.toList) (Text.encode stamp.toList)
        out'.2.tree := by
  refine ⟨fun t h => ?_, fun r s hrenews => ?_, ?_⟩
  · exact h.renews hne
  · rcases answer_started v run r s with hnone | ⟨hprepare, hcalls, hrunner⟩
    · exact .inl hnone
    · have hprepared : v.prepare s.tree = (.ok (), (v.prepare s.tree).2) := Prod.ext hprepare rfl
      obtain ⟨k, hpristine⟩ := pristine_prepare hnames hdistinct hne hrenews hprepared
      exact .inr ⟨hcalls, _, k, hprepared, hpristine, hrunner⟩
  · intro r s s' k stamp halike hrunner hout hfind hfind' hpass out out'
    obtain ⟨hres, hstate, htrees, hnews⟩ :=
      reprovision_alike halike stamp hrunner hout hfind hfind'
    have hout₁ : out = _ := answer_eq_reprovision (hpass.imp id And.left)
    have hout₂ : out' = _ := answer_eq_reprovision (hpass.imp id And.right)
    rw [hout₁, hout₂]
    exact ⟨congrArg (Except.map _) hres, hstate, hnews, htrees⟩

/-- Starts any program to no effect but that it looks at two files. -/
def watching : Runner (List (Option Entry)) := fun _ seen t =>
  (.ok ⟨"", "", some 0⟩, seen ++ [t.get? ["env", "stale"], t.get? ["env", "a"]], t)

theorem setup_pristine_over_stale_file :
    let v := plain ⟨"/env"⟩ 1
    let env := (default : FileTree).put ["env"] .directory
    let s : Session (List (Option Entry)) := ⟨env.put ["env", "stale"] (.file [] 0), [], [], []⟩
    let s' : Session (List (Option Entry)) := ⟨env.put ["env", "a"] (.link "/"), [], [], []⟩
    let out := v.answer watching .ensure s
    let out' := (v.stamped "later").answer watching .ensure s'
    (∃ t k, v.Pristine s.tree t k ∧ out.2.runner = (watching v.setupCall [] t).2.1) ∧
      out.2.runner = [none, some (.file [] FileTree.programMode)] ∧
      out'.1 = out.1 ∧ out'.2.runner = out.2.runner := by
  intro v env s s' out out'
  have halike : v.ActsAlike watching := fun state t t' h =>
    ⟨rfl, by simp only [watching, h.get?], h⟩
  have hout : SameOutside ["env"] s.tree s'.tree := by
    have hstale : env.admits (["env"] ++ ["stale"]) (.file [] 0) = true := by decide +kernel
    have hlink : env.admits (["env"] ++ ["a"]) (.link "/") = true := by decide +kernel
    exact (SameOutside.put hstale).symm.trans (.put hlink)
  obtain ⟨hrenews, hstart, htwo⟩ := setup_pristine v watching
    (fun p hp => (plainNames_plain ⟨"/env"⟩ 1 p hp).1) (by decide) (by decide)
  obtain ⟨hres, hstate, -⟩ := htwo .ensure s s' ["env"] "later" halike rfl hout
    (by decide +kernel) (by decide +kernel) (.inr (by decide +kernel))
  refine ⟨?_, by decide +kernel, hres, hstate⟩
  rcases hstart .ensure s (hrenews s.tree (.straight (by decide))) with hnone | ⟨-, t, k, -, h⟩
  · exact absurd hnone (by decide +kernel)
  · exact ⟨t, k, h⟩

/-- The directory that is made was there, behind one that was missing, and so was a file in it. -/
theorem stale_file_is_uncovered :
    let v := plain ⟨"/a/b/../c"⟩ 1
    let t := (((default : FileTree).put ["a"] .directory).put ["a", "c"] .directory).put
      ["a", "c", "stale"] (.file [] 0)
    (v.prepare t).1 = .ok () ∧
      (v.prepare t).2.directoryAt v.layout.execDir = .ok ["a", "c"] ∧
      (v.prepare t).2.get? ["a", "c", "stale"] = some (.file [] 0) := by
  decide +kernel

end Provisioner
end LintHub
