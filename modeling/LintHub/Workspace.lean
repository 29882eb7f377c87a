import LintHub.Environment.Stamp
import LintHub.FileTree.Listing
import LintHub.Host
import LintHub.Json.Token
import LintHub.Json.Reader
import LintHub.Shell.Tool

/-!
# Workspaces

A workspace is a file tree together with its surroundings, on which commands run. It
can be written down as an image: a JSON document that lists the files, names the
current directory and the variables of the environment, and says what time it is.
-/

namespace LintHub

/-- A file tree with its surroundings. -/
structure Workspace where
  host : Host
  tree : FileTree

namespace Workspace

open Json (Value)

/-- The bytes that pairs of digits of base sixteen write. -/
def hexBytes : List Char → Bytes
  | a :: b :: cs =>
    UInt8.ofNat ((Json.hexDigit? a).getD 0 * 16 + (Json.hexDigit? b).getD 0) :: hexBytes cs
  | _ => []

/-- A text of a record, if the record has it. -/
def text? (v : Value) (name : String) : Option String := (v.member? name).bind Value.asText?

/-- The entry that an image writes: a text is a file, a record a program (`exec`), a file
of raw bytes (`hex`) or a link (`link`), and `null` a directory. -/
def entryOf : Value → Entry
  | .string (some text) => .file (Text.encode text.toList) FileTree.plainMode
  | v =>
    match text? v "exec", text? v "hex", text? v "link" with
    | some text, _, _ => .file (Text.encode text.toList) FileTree.programMode
    | _, some text, _ => .file (hexBytes text.toList) FileTree.plainMode
    | _, _, some target => .link target
    | _, _, _ => .directory

/-- The entries in a list of pairs of a path and an entry. -/
def entriesOf (items : List Value) : List (String × Entry) :=
  items.filterMap fun
    | .array [.string (some name), content] => some (name, entryOf content)
    | _ => none

/-- A tree with nothing but the system's programs and a directory, which is the current
one. -/
def bareTree (dir : Path) : FileTree :=
  let t := ((Shell.Tool.install default).makeDirectories dir).2
  match t.directoryAt dir with
  | .ok k => { t with here := k }
  | .error _ => t

/-- A tree with these entries, whose paths start from a directory. -/
def treeOf (dir : Path) (items : List Value) : FileTree :=
  (bareTree dir).placeAll dir (entriesOf items)

/-- The same surroundings with the variables of a record, in the order of their names. -/
def withVariables (h : Host) (vars : Value) : Host :=
  let h := vars.textMembers.foldl (fun h v => h.withValue v.1 v.2) h
  { h with environment := Host.sorted h.environment }

/-- The surroundings unless an image says otherwise. -/
def usualHost : Host where
  environment := [("PATH", "/usr/local/bin:/usr/bin:/bin")]
  program := ⟨"/usr/local/bin"⟩
  clock := ""

/-- The workspace of an image. -/
def ofJson (image : Value) : Workspace :=
  let items := ((image.member? "files").bind Value.asList?).getD []
  let dir : Path := ⟨(text? image "directory").getD "/"⟩
  let clock := (text? image "date").getD ""
  let record := (image.member? "environment").getD .null
  { host := withVariables { usualHost with clock := clock } record
    tree := treeOf dir items }

end Workspace
end LintHub
