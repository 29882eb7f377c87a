import LintHub.Proofs.Output.CompactGrammar
import LintHub.Proofs.Output.CsvGrammar
import LintHub.Proofs.Output.ProseGrammar

/-!
# Diagnostics that say something

A diagnostic should name a file and have a message, without blanks around it. The formats with one
issue on each line trim in different places. CSV trims the line before it is split, which leaves
no part of it blank. Prose does so too, but a level in front of the line uncovers blanks, and what
stands between them and the position is a file without a name. The compact format does not trim
the line, so the message may be blank, and it trims the message before a level is taken off, which
uncovers blanks as well.

* `Text.tight_trim_of_end`: what ends a trimmed text is not blank.
* `Prose.exists_unnamed_iff`: the lines of prose that name no file.
* `Compact.exists_loose_iff`: the lines of the compact format with a blank, or with one in front of
  the message.
* `LineFormat.solid_iff`: the outputs of which all diagnostics say something.
-/

namespace LintHub

namespace Text

variable {cs ds : List Char}

/-- A text with something in it and no blank at its ends. -/
structure Tight (cs : List Char) : Prop where
  nonempty : cs ≠ []
  head : ∀ c ∈ cs.head?, isBlank c = false
  last : ∀ c ∈ cs.getLast?, isBlank c = false

theorem tight_trim_iff : Tight (trim cs) ↔ ∃ c ∈ cs, isBlank c = false := by
  have hne : trim cs ≠ [] ↔ ∃ c ∈ cs, isBlank c = false := by
    rw [Ne, trim_eq_nil_iff]
    simp
  rw [← hne]
  exact ⟨fun h => h.nonempty, fun h => ⟨h, head?_trim cs, getLast?_trim cs⟩⟩

/-- What begins a trimmed text is not blank. -/
theorem tight_trim_of_front (h : ds <+: trim cs) (hne : ds ≠ []) : Tight (trim ds) := by
  obtain ⟨c, ds, rfl⟩ := List.exists_cons_of_ne_nil hne
  obtain ⟨rest, hrest⟩ := h
  have hc : isBlank c = false := head?_trim cs c (by rw [← hrest]; rfl)
  exact tight_trim_iff.2 ⟨c, List.mem_cons_self .., hc⟩

/-- What ends a trimmed text is not blank. -/
theorem tight_trim_of_end (h : ds <:+ trim cs) (hne : ds ≠ []) : Tight (trim ds) := by
  obtain ⟨rest, hrest⟩ := h
  have hlast : (trim cs).getLast? = some (ds.getLast hne) := by
    rw [← hrest, List.getLast?_append_of_ne_nil rest hne, List.getLast?_eq_getLast_of_ne_nil hne]
  exact tight_trim_iff.2 ⟨_, List.getLast_mem hne, getLast?_trim cs _ hlast⟩

end Text

/-- A diagnostic says something: it has a file, and a message without blanks around it. -/
structure Diagnostic.IsSolid (d : Diagnostic) : Prop where
  file : d.file.chars ≠ []
  message : Text.Tight d.message.toList

namespace Output

open Text

variable {line : List Char} {d : Diagnostic} {severity : Severity}

namespace Prose

variable {rest s : List Char} {p : Parts}

/-- Behind the level of a line there are only blanks in front of a position. -/
def LacksFile (line : List Char) : Prop :=
  ∃ severity rest p, Leveled (trim line) severity rest ∧ IsSplit rest p ∧
    ∀ c ∈ p.file, isBlank c = true

/-- No bracket is blank, so a position behind blanks is the first one. -/
theorem IsSplit.first_of_blank (h : IsSplit s p) (hblank : ∀ c ∈ p.file, isBlank c = true) :
    IsFirstSplit s p := by
  refine ⟨h, fun q hq => ?_⟩
  have hbracket : '[' ∉ p.file := fun hmem => by cases hblank _ hmem
  have hcut := hq.text.symm.trans h.text
  simp only [List.append_assoc] at hcut
  exact cut_length_le hcut hbracket

theorem suffix_of_leveled {t : List Char} (h : Leveled t severity rest) : rest <:+ t := by
  cases h with
  | error word => exact List.suffix_append _ _
  | warning word => exact List.suffix_append _ _

theorem IsSplit.message_ends (h : IsSplit s p) : p.message <:+ s := by
  rw [h.text]
  exact List.suffix_append _ _

theorem IsSplit.file_begins (h : IsSplit s p) : p.file <+: s := by
  rw [h.text]
  simp only [List.append_assoc]
  exact List.prefix_append _ _

/-- A message ends the line, so it is not blank. -/
theorem tight_message (h : diagnostic? line = some d) : Tight d.message.toList := by
  obtain ⟨p, hparted, -, hmessage, -⟩ := (diagnostic?_eq_some_iff line d).1 h
  rw [hmessage]
  generalize d.severity = severity at hparted
  cases hparted with
  | leveled level split =>
    exact tight_trim_of_end (split.message_ends.trans (suffix_of_leveled level)) split.message
  | bare level split => exact tight_trim_of_end split.message_ends split.message

/-- **A line names no file** if it has a level that only blanks part from the position. -/
theorem exists_unnamed_iff :
    (∃ d, diagnostic? line = some d ∧ d.file.chars = []) ↔ LacksFile line := by
  constructor
  · rintro ⟨d, h, hunnamed⟩
    obtain ⟨p, hparted, hfile, -⟩ := (diagnostic?_eq_some_iff line d).1 h
    rw [hfile] at hunnamed
    generalize d.severity = severity at hparted
    cases hparted with
    | leveled level split =>
      exact ⟨_, _, p, level, split.toIsSplit, (trim_eq_nil_iff p.file).1 hunnamed⟩
    | bare level split =>
      exact absurd hunnamed (tight_trim_of_front split.file_begins split.file).nonempty
  · rintro ⟨severity, rest, p, level, hsplit, hblank⟩
    have hparts := lineParts?_eq_some_iff.2 (.leveled level (hsplit.first_of_blank hblank))
    refine ⟨_, congrArg (Option.map _) hparts, ?_⟩
    exact String.toList_ofList.trans ((trim_eq_nil_iff p.file).2 hblank)

theorem exists_hollow_iff :
    (∃ d, diagnostic? line = some d ∧ ¬ d.IsSolid) ↔ LacksFile line := by
  rw [← exists_unnamed_iff]
  constructor
  · rintro ⟨d, h, hhollow⟩
    exact ⟨d, h, by_contra fun hfile => hhollow ⟨hfile, tight_message h⟩⟩
  · rintro ⟨d, h, hunnamed⟩
    exact ⟨d, h, fun hsolid => hsolid.file hunnamed⟩

end Prose

namespace Csv

/-- **A line of CSV** is trimmed as a whole, so it leaves nothing blank. -/
theorem isSolid (h : diagnostic? line = some d) : d.IsSolid := by
  obtain ⟨p, hsplit, hfile, hmessage, -⟩ := (diagnostic?_eq_some_iff line d).1 h
  refine ⟨?_, ?_⟩
  · rw [hfile]
    exact hsplit.file
  · obtain ⟨lineEnd, level, -, -, htext⟩ := hsplit.text
    rw [hmessage]
    exact tight_trim_of_end ⟨_, htext.symm⟩ hsplit.message

end Csv

namespace Compact

variable {s level rest text message : List Char} {p : Parts} {files : List Path} {first : Path}

/-- What is left of the message is blank, or a blank stands behind its level and the dash. -/
def BlanksMessage (line : List Char) : Prop :=
  ∃ p, IsFirstPlaced line p ∧ ((∀ c ∈ p.message, isBlank c = true) ∨
    ∃ level c rest,
      (sameWord level "error".toList = true ∨ sameWord level "warning".toList = true) ∧
      trim p.message = level ++ " - ".toList ++ c :: rest ∧ isBlank c = true)

/-- A dash behind a level is the first one, since there is no blank in a level. -/
theorem isDashed_of_level
    (hlevel : sameWord level "error".toList = true ∨ sameWord level "warning".toList = true)
    (h : s = level ++ " - ".toList ++ rest) : IsDashed s level rest := by
  have hfree : ' ' ∉ level := by
    rcases hlevel with hword | hword
    · exact notMem_of_sameWord hword (by decide)
    · exact notMem_of_sameWord hword (by decide)
  refine ⟨h, fun level' rest' h' => ?_⟩
  have hcut := h'.symm.trans h
  simp only [List.append_assoc] at hcut
  exact cut_length_le hcut hfree

/-- Behind the dash of a trimmed message there is something, which does not end with a blank. -/
theorem IsDashed.ends (h : IsDashed (trim text) level rest) :
    rest ≠ [] ∧ ∀ c ∈ rest.getLast?, isBlank c = false := by
  have hlast := getLast?_trim text
  rw [h.text] at hlast
  have hne : rest ≠ [] := by
    -- the dash itself ends with a blank
    rintro rfl
    rw [List.append_nil, List.getLast?_append_of_ne_nil _ (by decide)] at hlast
    cases hlast ' ' rfl
  rw [List.getLast?_append_of_ne_nil _ hne] at hlast
  exact ⟨hne, hlast⟩

theorem last_of_graded (h : Graded (trim text) severity message) :
    ∀ c ∈ message.getLast?, isBlank c = false := by
  cases h with
  | error dash word => exact dash.ends.2
  | warning dash word => exact dash.ends.2
  | plain noLevel => exact getLast?_trim text

/-- A message is loose if it was blank, or if a blank stands behind its level and the dash. -/
theorem loose_of_graded (h : Graded (trim text) severity message) (hloose : ¬ Tight message) :
    (∀ c ∈ text, isBlank c = true) ∨ ∃ level c rest,
      (sameWord level "error".toList = true ∨ sameWord level "warning".toList = true) ∧
      trim text = level ++ " - ".toList ++ c :: rest ∧ isBlank c = true := by
  have hdashed {level rest : List Char} (dash : IsDashed (trim text) level rest)
      (hrest : ¬ Tight rest) :
      ∃ c more, trim text = level ++ " - ".toList ++ c :: more ∧ isBlank c = true := by
    obtain ⟨hne, hlast⟩ := dash.ends
    obtain ⟨c, more, rfl⟩ := List.exists_cons_of_ne_nil hne
    refine ⟨c, more, dash.text, by_contra fun hc => hrest ⟨hne, fun x hx => ?_, hlast⟩⟩
    cases hx
    exact eq_false_of_ne_true hc
  cases h with
  | error dash word =>
    obtain ⟨c, more, htext, hc⟩ := hdashed dash hloose
    exact .inr ⟨_, c, more, .inl word, htext, hc⟩
  | warning dash word =>
    obtain ⟨c, more, htext, hc⟩ := hdashed dash hloose
    exact .inr ⟨_, c, more, .inr word, htext, hc⟩
  | plain noLevel =>
    rw [tight_trim_iff] at hloose
    exact .inl (by simpa using hloose)

theorem not_tight_of_blank {c : Char} (hc : isBlank c = true) : ¬ Tight (c :: rest) := by
  intro h
  have hhead := h.head c rfl
  rw [hc] at hhead
  cases hhead

/-- **A line leaves a loose message** just if it blanks it. -/
theorem exists_loose_iff (first : Path) (files : List Path) :
    (∃ d, diagnostic? first files line = some d ∧ ¬ Tight d.message.toList) ↔
      BlanksMessage line := by
  constructor
  · rintro ⟨d, h, hloose⟩
    obtain ⟨p, hsplit, rfl⟩ := Option.map_eq_some_iff.1 h
    rw [String.toList_ofList] at hloose
    exact ⟨p, split?_eq_some_iff.1 hsplit, loose_of_graded (graded_splitLevel _) hloose⟩
  · rintro ⟨p, hplaced, hmessage⟩
    refine ⟨_, congrArg (Option.map _) (split?_eq_some_iff.2 hplaced), ?_⟩
    rw [String.toList_ofList]
    rcases hmessage with hblank | ⟨level, c, rest, hlevel, htext, hc⟩
    · rw [(trim_eq_nil_iff p.message).2 hblank]
      exact fun h => h.nonempty rfl
    · have hdash : IsDashed (trim p.message) level (c :: rest) := isDashed_of_level hlevel htext
      have hgraded : ∃ severity, Graded (trim p.message) severity (c :: rest) :=
        hlevel.elim (fun word => ⟨_, .error hdash word⟩) fun word => ⟨_, .warning hdash word⟩
      obtain ⟨severity, hgraded⟩ := hgraded
      rw [splitLevel_eq_iff.2 hgraded]
      exact not_tight_of_blank hc

/-- The file is one of the batch, so a diagnostic is hollow just if its message is loose. -/
theorem exists_hollow_iff (hfirst : files.head? = some first)
    (hnamed : ∀ g ∈ files, g.chars ≠ []) :
    (∃ d, diagnostic? first files line = some d ∧ ¬ d.IsSolid) ↔ BlanksMessage line := by
  rw [← exists_loose_iff first files]
  constructor
  · rintro ⟨d, h, hhollow⟩
    obtain ⟨p, -, hfile, -⟩ := (diagnostic?_eq_some_iff hfirst line d).1 h
    exact ⟨d, h, fun htight => hhollow ⟨hnamed _ hfile.mem, htight⟩⟩
  · rintro ⟨d, h, hloose⟩
    exact ⟨d, h, fun hsolid => hloose hsolid.message⟩

theorem last_of_diagnostic (h : diagnostic? first files line = some d) :
    ∀ c ∈ d.message.toList.getLast?, isBlank c = false := by
  obtain ⟨p, -, rfl⟩ := Option.map_eq_some_iff.1 h
  rw [String.toList_ofList]
  exact last_of_graded (graded_splitLevel _)

end Compact

/-- What a line of a format must be to leave a diagnostic that does not say anything. -/
def LineFormat.Hollows : LineFormat → List Char → Prop
  | .prose => Prose.LacksFile
  | .csv => fun _ => False
  | .compact => Compact.BlanksMessage

theorem forall_filterMap_iff {scan : List Char → Option Diagnostic} {P : Diagnostic → Prop}
    {Bad : List Char → Prop} {ls : List (List Char)}
    (h : ∀ l, (∃ d, scan l = some d ∧ ¬ P d) ↔ Bad l) :
    (∀ d ∈ ls.filterMap scan, P d) ↔ ∀ l ∈ ls, ¬ Bad l := by
  constructor
  · intro hall l hl hbad
    obtain ⟨d, hd, hnot⟩ := (h l).2 hbad
    exact hnot (hall d (List.mem_filterMap.2 ⟨l, hl, hd⟩))
  · intro hnone d hd
    obtain ⟨l, hl, hscan⟩ := List.mem_filterMap.1 hd
    exact by_contra fun hnot => hnone l hl ((h l).1 ⟨d, hscan, hnot⟩)

namespace LineFormat

/-- **The outputs of which all diagnostics say something** are those with no hollow line, and in
CSV no line is hollow. What a diagnostic may lack is a file in prose only, and a message without a
blank in front in the compact format only; no message ends with a blank. -/
theorem solid_iff (f : LineFormat) (output : String) {files : List Path} (hne : files ≠ [])
    (hnamed : ∀ p ∈ files, p.chars ≠ []) :
    ((∀ d ∈ f.kind.read output files, d.IsSolid) ↔
      ∀ l ∈ lines output.toList, ¬ f.Hollows l) ∧
    ∀ d ∈ f.kind.read output files,
      (f ≠ .prose → d.file.chars ≠ []) ∧ (f ≠ .compact → Tight d.message.toList) ∧
        ∀ c ∈ d.message.toList.getLast?, isBlank c = false := by
  cases f with
  | prose =>
    refine ⟨forall_filterMap_iff fun l => Prose.exists_hollow_iff, fun d hd => ?_⟩
    obtain ⟨l, -, h⟩ := List.mem_filterMap.1 hd
    have htight := Prose.tight_message h
    exact ⟨absurd rfl, fun _ => htight, htight.last⟩
  | csv =>
    have hsolid : ∀ d ∈ Kind.coffeeLint.read output files, d.IsSolid := fun d hd => by
      obtain ⟨l, -, h⟩ := List.mem_filterMap.1 hd
      exact Csv.isSolid h
    exact ⟨⟨fun _ _ _ => id, fun _ => hsolid⟩, fun d hd =>
      ⟨fun _ => (hsolid d hd).file, fun _ => (hsolid d hd).message, (hsolid d hd).message.last⟩⟩
  | compact =>
    obtain ⟨first, rest, rfl⟩ := List.exists_cons_of_ne_nil hne
    refine ⟨forall_filterMap_iff fun l => Compact.exists_hollow_iff rfl hnamed, fun d hd => ?_⟩
    have hfile := (Kind.read_reportedBy .cssLint output _ d hd).file rfl
    obtain ⟨l, -, h⟩ := List.mem_filterMap.1 hd
    exact ⟨fun _ => hnamed _ hfile, absurd rfl, Compact.last_of_diagnostic h⟩

theorem solid_iff_stylesheet :
    let output := "/p/a.css: line 2, col 1,  Error - x "
    let files : List Path := [⟨"/p/a.css"⟩]
    let d : Diagnostic := ⟨⟨"/p/a.css"⟩, some 1, some 0, "x", .error, none, .cssLint⟩
    (∀ p ∈ files, p.chars ≠ []) ∧ Kind.cssLint.read output files = [d] ∧ d.IsSolid ∧
      ∀ l ∈ lines output.toList, ¬ Compact.BlanksMessage l := by
  intro output files d
  have hnamed : ∀ p ∈ files, p.chars ≠ [] := by decide
  have hread : Kind.cssLint.read output files = [d] := by decide +kernel
  have hsolid : d.IsSolid := by
    refine ⟨by decide, ?_⟩
    rw [show d.message.toList = ['x'] by decide]
    exact ⟨nofun, fun c hc => by cases hc; rfl, fun c hc => by cases hc; rfl⟩
  refine ⟨hnamed, hread, hsolid, (solid_iff .compact output (by decide) hnamed).1.1 ?_⟩
  rw [show LineFormat.compact.kind.read output files = [d] from hread]
  exact List.forall_mem_singleton.2 hsolid

/-- A level with two blanks behind it, a message of one blank, and two blanks behind a dash. -/
theorem read_hollow :
    let unnamed : Diagnostic := ⟨⟨""⟩, some 0, some 1, "msg", .error, none, .tsLint⟩
    let blank : Diagnostic := ⟨⟨"/p/a.css"⟩, some 0, some 0, "", .warning, none, .cssLint⟩
    let loose : Diagnostic := ⟨⟨"/p/a.css"⟩, some 1, some 0, " x", .error, none, .cssLint⟩
    Kind.tsLint.read "ERROR:  [1, 2]: msg" [⟨"/p/a.ts"⟩] = [unnamed] ∧ ¬ unnamed.IsSolid ∧
      Kind.cssLint.read "/p/a.css: line 1, col 1,  \n/p/a.css: line 2, col 1, Error -  x"
        [⟨"/p/a.css"⟩] = [blank, loose] ∧ ¬ blank.IsSolid ∧ ¬ loose.IsSolid := by
  refine ⟨by decide +kernel, fun h => h.file rfl, by decide +kernel,
    fun h => h.message.nonempty rfl, fun h => ?_⟩
  cases h.message.head ' ' rfl

end LineFormat
end Output
end LintHub
