import LintHub.Launch.Spawn
import LintHub.Proofs.FileTree.Agree

/-!
# Programs that start from anywhere

A program file that is named from the root is the same for every directory, and so is what runs
for it if each interpreter on the way is named from the root, too (`Image.Reaches`). Such a
program starts wherever there is a directory to start it in, unless the system refuses the start
for a reason of its own (`Spawn.run_isOk_iff`).
-/

namespace LintHub

open FileTree

namespace Shell.Image

variable {t : FileTree} {n : Nat} {p : Path}

theorem load_of_absolute (h : p.isAbsolute = true) (t : FileTree) (here : Place) :
    load { t with here } p = load t p := by
  unfold load FileTree.find?
  rw [locate_of_absolute h t here]

/-- A tool's program file, or a script whose interpreter leads to one, with so many program files
at most; each of them is named from the root. -/
inductive Reaches (t : FileTree) : Nat → Path → Prop
  | tool {n : Nat} {p : Path} {found : Tool} (absolute : p.isAbsolute = true)
    (there : load t p = .ok (.tool found)) : Reaches t (n + 1) p
  | script {n : Nat} {p : Path} {interpreter : Raw} {argument : Option Raw}
    (absolute : p.isAbsolute = true) (there : load t p = .ok (.script interpreter argument))
    (rest : Reaches t n (Raw.path interpreter)) : Reaches t (n + 1) p

theorem Reaches.isAbsolute (h : Reaches t n p) : p.isAbsolute = true := by
  cases h <;> assumption

/-- From any directory the same program is found. -/
theorem Reaches.resolve (h : Reaches t n p) (here : Place) (arguments : List Raw) :
    ∃ found, Image.resolve { t with here } n p arguments = .ok found := by
  induction h generalizing arguments with
  | tool absolute there => exact ⟨_, by rw [Image.resolve, load_of_absolute absolute, there]⟩
  | @script n p interpreter argument absolute there _ ih =>
    obtain ⟨found, hfound⟩ :=
      ih (interpreter :: argument.toList ++ Raw.ofString p.text :: arguments.drop 1)
    exact ⟨found, by rw [Image.resolve, load_of_absolute absolute, there]; exact hfound⟩

/-- What is loaded is at a path that the system takes. -/
theorem takes_of_load {image : Image} (h : load t p = .ok image) : Takes p := by
  unfold load at h
  cases hfind : t.find? true p with
  | error e =>
    rw [hfind] at h
    cases h
  | ok x => exact (takes_of_locate (find?_eq_ok_iff.1 hfind)).1

theorem Reaches.takes (h : Reaches t n p) : Takes p := by
  cases h with
  | tool _ there => exact takes_of_load there
  | script _ there _ => exact takes_of_load there

end Shell.Image

namespace Spawn

open Shell (Image Raw)

variable {t : FileTree} {i : Invocation}

theorem hasNul_of_takes {p : Path} (h : Takes p) : hasNul p.text = false := h.noNul

/-- Everything that a start hands over can be handed over, and a program is there. -/
structure Startable (t : FileTree) (i : Invocation) : Prop where
  program : Image.Reaches t Image.interpreterLimit i.program
  arguments : ∀ a ∈ i.arguments, hasNul a = false
  files : ∀ f ∈ i.files, hasNul f.text = false

theorem Startable.words (h : Startable t i) :
    (i.program.text :: i.arguments ++ i.files.map (·.text)).any hasNul = false := by
  rw [List.any_eq_false]
  intro w hw
  simp only [List.cons_append, List.mem_cons, List.mem_append, List.mem_map] at hw
  rw [Bool.not_eq_true]
  rcases hw with rfl | hw | ⟨f, hf, rfl⟩
  · exact hasNul_of_takes h.program.takes
  · exact h.arguments w hw
  · exact h.files f hf

end Spawn
end LintHub
