import LintHub.FileTree.Lookup
import LintHub.Host
import LintHub.Ignore.Rule
import LintHub.Ignore.Settings

/-!
# The ignore rules of a directory

A directory may hold rules of its own (`.ignore`) and the rules of a repository
(`.gitignore`, and the exclude file of the repository). For each of these the nearest
directory whose rules say anything about a path decides. The rules of a repository hold
only inside of one, and not beyond its top; those of the user hold in every repository
and come last.

* `verdict?` puts the four groups of rules in order.
-/

namespace LintHub

/-- The path of a place. -/
def Path.ofPlace (k : Place) : Path := ⟨"/" ++ "/".intercalate k⟩

namespace Ignore

/-- What a directory says about the paths below it. -/
structure Directory where
  place : Place
  /-- The rules that always hold. -/
  own : RuleFile
  /-- The rules kept in the repository. -/
  tracked : RuleFile
  /-- The rules of the repository that are not kept in it. -/
  excluded : RuleFile
  /-- Whether a repository begins here. -/
  isTop : Bool
  /-- What a reader is told about the rule files. -/
  messages : List String
  deriving Repr

/-- The rules in a file, and what a reader is told about it. A file that is not there
holds none. -/
def readRules (t : FileTree) (file : Path) : RuleFile × List String :=
  match t.readBytes file with
  | .ok bytes =>
    let f := RuleFile.ofBytes bytes
    (f, f.messages file.text)
  | .error _ => (.empty, [])

/-- The first line of a text file; nothing if the file is empty. -/
def firstLine? (t : FileTree) (file : Path) : Except FileError (Option String) :=
  match t.readBytes file with
  | .error e => .error e
  | .ok bytes =>
    match RuleFile.readLines bytes with
    | (line :: _, _) => .ok (some (String.ofList line))
    | ([], isCut) => if isCut then .error .notText else .ok none

/-- The directory in which a repository keeps what all of its copies share. A copy has
a file in place of that directory, which names it; an error is what a reader is told. -/
def repositoryDir (t : FileTree) (dir : Path) : Except (Option String) Path :=
  let git := dir.joinText ".git"
  if !t.isFile git then .ok git
  else match firstLine? t git with
    | .error e => .error (some (git.text ++ ": " ++ e.message))
    | .ok none => .error none
    | .ok (some line) =>
      if !"gitdir: ".toList.isPrefixOf line.toList then .error none
      else
        let own : Path := Path.ofChars (line.toList.drop "gitdir: ".length)
        let pointer := own.joinText "commondir"
        match t.find? true pointer, firstLine? t pointer with
        | .error _, _ => .error none
        | _, .error e => .error (some (pointer.text ++ ": " ++ e.message))
        | _, .ok none => .error none
        | _, .ok (some line) =>
          .ok (if line.toList.head? = some '.' then own.joinText line else ⟨line⟩)

/-- What the directory at a place says. -/
def Directory.read (t : FileTree) (place : Place) : Directory :=
  let dir := Path.ofPlace place
  let (own, ownMessages) := readRules t (dir.joinText ".ignore")
  let (tracked, trackedMessages) := readRules t (dir.joinText ".gitignore")
  let (excluded, excludedMessages) :=
    match repositoryDir t dir with
    | .ok shared => readRules t (shared.joinText "info/exclude")
    | .error message => (.empty, message.toList)
  { place := place
    own := own
    tracked := tracked
    excluded := excluded
    isTop := t.exists? (dir.joinText ".git") || t.exists? (dir.joinText ".jj")
    messages := ownMessages ++ trackedMessages ++ excludedMessages }

/-- The rules that hold in all of the user's repositories, and the directory that their
paths start from. -/
structure UserRules where
  base : Path
  rules : List Rule
  /-- What a reader is told about their file. -/
  messages : List String
  deriving Repr

/-- The bytes of a path seen from a directory above it. -/
def relative (dir k : Place) : Bytes := Text.encode ("/".intercalate (k.drop dir.length)).toList

/-- What the nearest directory that says anything says about a place. -/
def nearest (rules : Directory → RuleFile) (dirs : List Directory) (k : Place)
    (isDirectory : Bool) :
    Option Bool :=
  dirs.findSome? fun d => Ignore.verdict? (rules d).rules (relative d.place k) isDirectory

/-- The directories up to the top of the repository, if there is one; the nearest
directory comes first. -/
def inRepository (dirs : List Directory) : List Directory :=
  if dirs.any (·.isTop) then
    dirs.takeWhile (!·.isTop) ++ (dirs.dropWhile (!·.isTop)).take 1
  else []

/-- What the user's rules say about a path as it is written. -/
def UserRules.verdict? (u : UserRules) (path : Path) (isDirectory : Bool) : Option Bool :=
  let cs := if u.base.chars.isPrefixOf path.chars then path.chars.drop u.base.chars.length
    else path.chars
  let cs := if cs.head? = some '/' then cs.drop 1 else cs
  Ignore.verdict? u.rules (Text.encode cs) isDirectory

/-- Whether to keep what stands at a place, which the path names: the first group of
rules that says anything decides. The directories are those that hold the place, the
nearest one first. -/
def keeps? (user : UserRules) (dirs : List Directory) (path : Path) (k : Place)
    (isDirectory : Bool) :
    Option Bool :=
  let inside := inRepository dirs
  (nearest (·.own) dirs k isDirectory).or <|
    (nearest (·.tracked) inside k isDirectory).or <|
      (nearest (·.excluded) inside k isDirectory).or <|
        if inside.isEmpty then none else user.verdict? path isDirectory

/-- The directory of the user's settings for all programs. -/
def settingsDir? (h : Host) : Option Path :=
  match h.value? "XDG_CONFIG_HOME" with
  | some dir => if dir.isEmpty then usual else some ⟨dir⟩
  | none => usual
where
  /-- The directory unless another is named. -/
  usual : Option Path := h.home.map (·.joinText ".config")

/-- The files that may hold settings for all repositories: the user's own ones, in place
of which another may be named, and then those of the system if they are named. -/
def settingsFiles (h : Host) : List Path :=
  let own := match h.value? "GIT_CONFIG_GLOBAL" with
    | some file => [⟨file⟩]
    | none =>
      (h.home.map (·.joinText ".gitconfig")).toList ++
        ((settingsDir? h).map (·.joinText "git/config")).toList
  own ++ ((h.value? "GIT_CONFIG_SYSTEM").map Path.mk).toList

/-- The file that settings name; a tilde stands for the user's home, wherever it is. -/
def namedFile? (t : FileTree) (h : Host) (settings : Path) : Option Path :=
  match t.readBytes settings with
  | .error _ => none
  | .ok bytes => (Settings.excludesFile? bytes).map fun cs =>
    Path.ofChars (cs.flatMap fun c =>
      match h.home with
      | some home => if c = '~' then home.chars else [c]
      | none => [c])

/-- The file that holds the user's rules: the first one that settings name, or else the
usual one. -/
def userFile? (t : FileTree) (h : Host) : Option Path :=
  ((settingsFiles h).findSome? (namedFile? t h)).or
    ((settingsDir? h).map (·.joinText "git/ignore"))

/-- The user's rules. -/
def UserRules.read (t : FileTree) (h : Host) : UserRules :=
  let (f, messages) := match userFile? t h with
    | some file => readRules t file
    | none => (.empty, [])
  ⟨Path.ofPlace t.here, f.rules, messages⟩

end Ignore
end LintHub
