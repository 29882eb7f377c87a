import Mathlib.Data.List.Range
import LintHub.Proofs.Environment.Scripted
import LintHub.Proofs.Environment.Steady
import LintHub.Proofs.Environment.Throng

/-!
# What a script shows while it runs

Others may look at the environment while the script runs. Two things matter of what they see: that
nothing is taken away (`AlwaysAdds`), and that there is no marker (`AlwaysSparesMarker`). Prepared
setup, which makes its packages one after another, keeps to both.
-/

namespace LintHub

variable {σ : Type}

namespace Provisioner

variable (v : Provisioner) (run : Runner σ) (stages : Stages σ)

/-- A script that takes nothing away at any time. -/
def AlwaysAdds : Prop :=
  ∀ (state : σ) (t : FileTree), (t :: v.shown run stages state t).IsChain FileTree.Grows

/-- A script that at no time leaves a marker beside the payloads. -/
def AlwaysSparesMarker : Prop :=
  ∀ (state : σ) (t : FileTree), v.Unpacked t →
    ∀ u ∈ v.shown run stages state t, u.isFile v.layout.marker = false

end Provisioner

section Scripted

variable (v : Provisioner) (script : Nat → Except LaunchCause (Output × Nat))

/-- Prepared packages are made one after another. -/
def scriptedStages : Stages Nat := fun i count t =>
  match script count with
  | .error _ => []
  | .ok (_, packages) => (List.range packages).map (Replay.addPackages t i.workingDir)

namespace Provisioner

theorem shown_scripted (count : Nat) (t : FileTree) :
    ∃ n, v.shown (scripted script) (scriptedStages script) count t =
      (List.range (n + 1)).map (Replay.addPackages t v.layout.execDir) := by
  unfold shown scripted scriptedStages
  cases script count with
  | error cause => exact ⟨0, rfl⟩
  | ok reply =>
    obtain ⟨output, packages⟩ := reply
    refine ⟨packages, ?_⟩
    rw [List.range_succ, List.map_append]
    rfl

/-- **Prepared setup** takes nothing away at any time. -/
theorem alwaysAdds_scripted : v.AlwaysAdds (scripted script) (scriptedStages script) := by
  intro count t
  obtain ⟨n, heq⟩ := v.shown_scripted script count t
  have hchain : ((List.range (n + 1)).map
      (Replay.addPackages t v.layout.execDir)).IsChain FileTree.Grows := by
    rw [List.isChain_map, List.isChain_range_succ]
    intro m _
    rw [Replay.addPackages_succ]
    exact (FileTree.makeDirectories_spec _ _).adds.grows
  rw [heq]
  rw [List.range_succ_eq_map, List.map_cons] at hchain ⊢
  exact List.isChain_cons_cons.2 ⟨.refl t, hchain⟩

/-- **Prepared setup** leaves no marker. -/
theorem alwaysSparesMarker_scripted :
    v.AlwaysSparesMarker (scripted script) (scriptedStages script) := by
  rintro count t ⟨hunmarked, k, hlead⟩ u hu
  obtain ⟨n, heq⟩ := v.shown_scripted script count t
  rw [heq] at hu
  obtain ⟨m, -, rfl⟩ := List.mem_map.1 hu
  rw [← Bool.not_eq_true]
  intro hfile
  obtain ⟨-, k', hlead', e, hget⟩ := Layout.leadsTo_of_isFile_marker hfile
  have hgrows := (Replay.adds_addPackages t v.layout.execDir m).grows
  obtain rfl := hlead'.unique (hgrows.keepsWays.leadsTo hlead)
  rw [get?_marker_addPackages hlead hunmarked m] at hget
  cases hget

end Provisioner

end Scripted

end LintHub
