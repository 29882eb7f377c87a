import LintHub.Proofs.Output.Entry
import LintHub.Proofs.Output.Grammar

/-!
# The grammar of CSV

A line of CoffeeLint's CSV is a path, the number of a line, maybe that of the line where the issue
ends, a level and a message, with commas between them. Nothing is quoted, so there may be many
ways to split a line, and the one with the shortest path counts. Behind a path there is one way at
most, since neither a number nor a level has a comma in it. That `warn` begins `warning` does not
matter for the same reason: a level is read up to its comma.

* `Csv.level?_eq_some_iff`: which level is read.
* `Csv.tail?_eq_some_iff`: what is read behind a path.
* `Csv.split?_eq_some_iff`: how a line is split.
* `coffeeLint_read_iff`: what is read from an output.
-/

namespace LintHub.Output

open Text

namespace Csv

variable {s cs u w rest line message : List Char} {p : Parts} {severity : Severity}

/-- A level in any case, and the severity it stands for. -/
structure IsLevelOf (w : List Char) (severity : Severity) : Prop where
  level : IsLevel w
  error : severity = .error ↔ sameWord w "error".toList = true

/-- A text is a path, a line, an end or nothing in its place, a level and a message. -/
structure IsSplit (s : List Char) (p : Parts) : Prop where
  text : ∃ lineEnd level, (∀ c ∈ lineEnd, c.isDigit = true) ∧ IsLevelOf level p.severity ∧
    s = p.file ++ ",".toList ++ p.line ++ ",".toList ++ lineEnd ++ ",".toList ++ level ++
      ",".toList ++ p.message
  file : p.file ≠ []
  line : IsNumber p.line
  message : p.message ≠ []

/-- Of all the ways to split a text, the one with the shortest path. -/
structure IsFirstSplit (s : List Char) (p : Parts) : Prop extends IsSplit s p where
  first : ∀ q, IsSplit s q → p.file.length ≤ q.file.length

/-- What a line says: it is trimmed before it is split, and so is the message, but not the path. -/
def Says (line : List Char) (d : Diagnostic) : Prop :=
  ∃ p, IsFirstSplit (trim line) p ∧ d.file.chars = p.file ∧ d.message.toList = trim p.message ∧
    d.severity = p.severity ∧ IsPosition p.line d.line ∧ d.column = none ∧
    d.code = none ∧ d.linter = .coffeeLint

theorem notMem_comma {ds : List Char} (h : ∀ c ∈ ds, c.isDigit = true) : ',' ∉ ds :=
  fun hmem => by cases h _ hmem

theorem IsLevel.notMem_comma (h : IsLevel w) : ',' ∉ w := by
  obtain ⟨u, hu, hw⟩ := h
  have hfree : ∀ u ∈ levels, ','.toLower ∉ u.toList.map Char.toLower := by decide
  exact notMem_of_sameWord hw (hfree u hu)

/-- A word and the comma behind it. -/
theorem dropWord_comma_eq_some_iff :
    dropWord (u ++ [',']) cs = some rest ↔ ∃ w, sameWord w u = true ∧ cs = w ++ ',' :: rest := by
  rw [dropWord_eq_some_iff]
  constructor
  · rintro ⟨v, hv, rfl⟩
    obtain ⟨w, comma, rfl, hw, hcomma⟩ := exists_append_of_sameWord hv
    obtain rfl := eq_of_sameWord rfl hcomma
    exact ⟨w, hw, by simp⟩
  · rintro ⟨w, hw, rfl⟩
    refine ⟨w ++ [','], ?_, by simp⟩
    rw [sameWord_iff] at hw ⊢
    rw [List.map_append, List.map_append, hw]

/-- What stands in front of a comma is read as a whole, so one word is never taken for another
that it begins with. -/
theorem dropWord_comma_append (hu : ','.toLower ∉ u.map Char.toLower) (hw : ',' ∉ w) :
    dropWord (u ++ [',']) (w ++ ',' :: rest) = if sameWord w u then some rest else none := by
  split
  · rename_i hsame
    exact dropWord_comma_eq_some_iff.2 ⟨w, hsame, rfl⟩
  · rename_i hother
    rw [Option.eq_none_iff_forall_ne_some]
    intro r hr
    obtain ⟨v, hv, hcut⟩ := dropWord_comma_eq_some_iff.1 hr
    obtain ⟨rfl, -⟩ := cut_unique hcut hw (notMem_of_sameWord hv hu)
    exact hother hv

theorem exists_level (h : level? cs = some (severity, rest)) :
    ∃ w, IsLevel w ∧ cs = w ++ ',' :: rest := by
  have hword {u : String} (hu : u ∈ levels) {r : List Char}
      (h : dropWord (u.toList ++ [',']) cs = some r) : ∃ w, IsLevel w ∧ cs = w ++ ',' :: r := by
    obtain ⟨w, hw, rfl⟩ := dropWord_comma_eq_some_iff.1 h
    exact ⟨w, ⟨u, hu, hw⟩, rfl⟩
  unfold level? at h
  split at h
  · rename_i r herror
    cases h
    exact hword (u := "error") (by decide) herror
  · split at h
    · rename_i r hwarn
      cases h
      exact hword (u := "warn") (by decide) hwarn
    · obtain ⟨r, hwarning, hr⟩ := Option.map_eq_some_iff.1 h
      cases hr
      exact hword (u := "warning") (by decide) hwarning

theorem level?_append (hw : ',' ∉ w) : level? (w ++ ',' :: rest) =
    if sameWord w "error".toList then some (.error, rest)
    else if sameWord w "warn".toList || sameWord w "warning".toList then some (.warning, rest)
    else none := by
  have herror : dropWord "error,".toList (w ++ ',' :: rest) = _ :=
    dropWord_comma_append (u := "error".toList) (by decide) hw
  have hwarn : dropWord "warn,".toList (w ++ ',' :: rest) = _ :=
    dropWord_comma_append (u := "warn".toList) (by decide) hw
  have hwarning : dropWord "warning,".toList (w ++ ',' :: rest) = _ :=
    dropWord_comma_append (u := "warning".toList) (by decide) hw
  unfold level?
  rw [herror, hwarn, hwarning]
  cases sameWord w "error".toList <;> cases sameWord w "warn".toList <;>
    cases sameWord w "warning".toList <;> rfl

/-- **A level is read** up to its comma, in any case. -/
theorem level?_eq_some_iff :
    level? cs = some (severity, rest) ↔ ∃ w, IsLevelOf w severity ∧ cs = w ++ ',' :: rest := by
  constructor
  · intro h
    obtain ⟨w, hw, rfl⟩ := exists_level h
    rw [level?_append hw.notMem_comma] at h
    refine ⟨w, ⟨hw, ?_⟩, rfl⟩
    split at h
    · rename_i herror
      cases h
      exact iff_of_true rfl herror
    · rename_i herror
      split at h
      · cases h
        exact iff_of_false nofun herror
      · cases h
  · rintro ⟨w, ⟨hw, herror⟩, rfl⟩
    rw [level?_append hw.notMem_comma]
    cases severity with
    | error => rw [if_pos (herror.1 rfl)]
    | warning =>
      obtain ⟨u, hu, hsame⟩ := hw
      have hnot : ¬ sameWord w "error".toList = true := fun h => nomatch herror.2 h
      simp only [levels, List.mem_cons, List.not_mem_nil, or_false] at hu
      rw [if_neg hnot, if_pos (Bool.or_eq_true_iff.2 ?_)]
      rcases hu with rfl | rfl | rfl
      · exact absurd hsame hnot
      · exact .inl hsame
      · exact .inr hsame

/-- **What is read behind a path** is just the fields that stand there. -/
theorem tail?_eq_some_iff :
    tail? cs = some (line, severity, message) ↔
      ∃ lineEnd level, (IsNumber line ∧ (∀ c ∈ lineEnd, c.isDigit = true) ∧
        IsLevelOf level severity ∧ message ≠ []) ∧
        cs = ',' :: (line ++ ',' :: (lineEnd ++ ',' :: (level ++ ',' :: message))) := by
  constructor
  · intro h
    simp only [tail?, bind, Option.bind_eq_some_iff] at h
    obtain ⟨cs₁, h₁, cs₂, h₂, cs₃, h₃, ⟨severity, message⟩, h₄, hhit⟩ := h
    obtain ⟨v₁, hv₁, rfl⟩ := dropWord_eq_some_iff.1 h₁
    obtain ⟨v₂, hv₂, hcs₁⟩ := dropWord_eq_some_iff.1 h₂
    obtain ⟨v₃, hv₃, hcs₂⟩ := dropWord_eq_some_iff.1 h₃
    obtain ⟨w, hw, hcs₃⟩ := level?_eq_some_iff.1 h₄
    obtain rfl := eq_of_sameWord rfl hv₁
    obtain rfl := eq_of_sameWord rfl hv₂
    obtain rfl := eq_of_sameWord rfl hv₃
    split at hhit
    · rename_i hne
      obtain ⟨hline, hlineDigits⟩ := digits_spec cs₁
      obtain ⟨hend, hendDigits⟩ := digits_spec cs₂
      cases hhit
      refine ⟨_, w, ⟨⟨hne.1, hlineDigits⟩, hendDigits, hw, hne.2⟩, ?_⟩
      rw [hcs₁, hend, hcs₂, hcs₃] at hline
      simpa only [List.append_assoc, List.cons_append, List.nil_append] using
        congrArg (',' :: ·) hline
    · cases hhit
  · rintro ⟨lineEnd, level, ⟨hline, hend, hlevel, hmessage⟩, rfl⟩
    have hcomma (cs : List Char) : dropWord [','] (',' :: cs) = some cs :=
      dropWord_append (v := [',']) rfl cs
    have hlineDigits (cs : List Char) := digits_append hline.digits (c := ',') rfl cs
    have hendDigits (cs : List Char) := digits_append hend (c := ',') rfl cs
    have hread : level? (level ++ ',' :: message) = some (severity, message) :=
      level?_eq_some_iff.2 ⟨level, hlevel, rfl⟩
    simp only [tail?, bind, hcomma, Option.bind_some, hlineDigits, hendDigits, hread,
      hline.nonempty, hmessage, ne_eq, not_false_eq_true, and_self, if_true]

theorem isSplit_iff : IsSplit s p ↔
    p.file ≠ [] ∧ Finds tail? s p.file (p.line, p.severity, p.message) := by
  constructor
  · rintro ⟨⟨lineEnd, level, hend, hlevel, rfl⟩, hfile, hline, hmessage⟩
    refine ⟨hfile, _, ?_, tail?_eq_some_iff.2
      ⟨lineEnd, level, ⟨hline, hend, hlevel, hmessage⟩, rfl⟩⟩
    simp
  · rintro ⟨hfile, rest, hs, hscan⟩
    obtain ⟨lineEnd, level, ⟨hline, hend, hlevel, hmessage⟩, rfl⟩ := tail?_eq_some_iff.1 hscan
    exact ⟨⟨lineEnd, level, hend, hlevel, by simp [hs]⟩, hfile, hline, hmessage⟩

/-- **A line is split** at the first place where it can be. -/
theorem split?_eq_some_iff : split? s = some p ↔ IsFirstSplit s p := by
  have hparts : split? s = some p ↔
      shortestNonempty tail? s = some (p.file, p.line, p.severity, p.message) := by
    unfold split?
    rw [Option.map_eq_some_iff]
    constructor
    · rintro ⟨⟨file, line, severity, message⟩, h, rfl⟩
      exact h
    · exact fun h => ⟨_, h, rfl⟩
  rw [hparts, shortestNonempty_eq_some_iff, ← isSplit_iff]
  constructor
  · rintro ⟨hsplit, hfirst⟩
    exact ⟨hsplit, fun q hq => hfirst q.file _ (isSplit_iff.1 hq).1 (isSplit_iff.1 hq).2⟩
  · rintro ⟨hsplit, hfirst⟩
    exact ⟨hsplit, fun file a hne hfinds =>
      hfirst ⟨file, a.1, a.2.1, a.2.2⟩ (isSplit_iff.2 ⟨hne, hfinds⟩)⟩

theorem split?_eq_none_iff : split? s = none ↔ ∀ p, ¬ IsSplit s p := by
  unfold split?
  rw [Option.map_eq_none_iff, shortestNonempty_eq_none_iff]
  constructor
  · exact fun h p hp => h p.file _ (isSplit_iff.1 hp).1 (isSplit_iff.1 hp).2
  · exact fun h file a hne hfinds => h ⟨file, a.1, a.2.1, a.2.2⟩ (isSplit_iff.2 ⟨hne, hfinds⟩)

/-- The path may have commas in it, and what looks like another line stays in the message. -/
example : split? "a,b.iced,1,,Warning,c,2,3,error,d".toList =
    some ⟨"a,b.iced".toList, "1".toList, .warning, "c,2,3,error,d".toList⟩ := by decide

/-- **A line** is read as what it says. -/
theorem diagnostic?_eq_some_iff (line : List Char) (d : Diagnostic) :
    diagnostic? line = some d ↔ Says line d := by
  unfold diagnostic?
  rw [Option.map_eq_some_iff]
  constructor
  · rintro ⟨p, hsplit, rfl⟩
    exact ⟨p, split?_eq_some_iff.1 hsplit, String.toList_ofList, String.toList_ofList, rfl,
      isPosition_position? p.line, rfl, rfl, rfl⟩
  · obtain ⟨file, line, column, message, severity, code, linter⟩ := d
    rintro ⟨p, hsplit, hfile, hmessage, rfl, hline, rfl, rfl, rfl⟩
    refine ⟨p, split?_eq_some_iff.2 hsplit, ?_⟩
    simp only [← hfile, ← hmessage, position?_eq_iff.2 hline, String.ofList_toList, Path.chars,
      Path.ofChars]

/-- **A line says nothing** if it cannot be split. -/
theorem diagnostic?_eq_none_iff (line : List Char) :
    diagnostic? line = none ↔ ∀ p, ¬ IsSplit (trim line) p := by
  unfold diagnostic?
  rw [Option.map_eq_none_iff, split?_eq_none_iff]

/-- A line says just one thing if it can be split at all, and else nothing. -/
theorem existsUnique_says_iff (line : List Char) :
    (∃! d, Says line d) ↔ ∃ p, IsSplit (trim line) p := by
  constructor
  · rintro ⟨d, ⟨p, hsplit, -⟩, -⟩
    exact ⟨p, hsplit.toIsSplit⟩
  · rintro ⟨p, hp⟩
    have hsome : split? (trim line) ≠ none := fun hnone => split?_eq_none_iff.1 hnone p hp
    obtain ⟨q, hq⟩ := Option.ne_none_iff_exists'.1 hsome
    have hread : ∃ d, diagnostic? line = some d := ⟨_, congrArg (Option.map _) hq⟩
    obtain ⟨d, hd⟩ := hread
    refine ⟨d, (diagnostic?_eq_some_iff line d).1 hd, fun d' hd' => ?_⟩
    have hread' : diagnostic? line = some d' := (diagnostic?_eq_some_iff line d').2 hd'
    exact Option.some.inj (hread'.symm.trans hd)

end Csv

/-- **What is read from CSV** is what its lines say, whatever the output and the files are; and a
line says something, and only one thing, just if it can be split. -/
theorem coffeeLint_read_iff (output : String) (files : List Path) (ds : List Diagnostic) :
    (Kind.coffeeLint.read output files = ds ↔
      ∃ ls, Lined output.toList ls ∧ LineByLine Csv.Says ls ds) ∧
    ∀ l, (∃! d, Csv.Says l d) ↔ ∃ p, Csv.IsSplit (trim l) p := by
  refine ⟨?_, Csv.existsUnique_says_iff⟩
  unfold Kind.read Csv.read
  simp only
  rw [lineByLine_iff Csv.diagnostic?_eq_some_iff]
  constructor
  · exact fun h => ⟨_, lines_eq_iff.1 rfl, h⟩
  · rintro ⟨ls, hlines, h⟩
    rwa [lines_eq_iff.2 hlines]

end LintHub.Output
