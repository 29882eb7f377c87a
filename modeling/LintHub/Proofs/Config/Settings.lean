import LintHub.Proofs.Config.Keys

/-!
# A configuration is what is written, put over the defaults

What a setting holds depends on what is written for it alone: it is what the value means, or the
default if there is none (`Key.Holds`). The defaults of the settings are told twice, one by one and
for whole sections; as they are the same (`LinterFlags.default_iff` and the like), it does not
matter whether a section is left out or says nothing.

* `read?_section_iff`: a section, written or not.
* `Config.ofTable?_eq_some_iff`: the configuration of a table.
* `Config.written_over_defaults`: what a document says, and what switching linters on and off
  changes.
-/

namespace LintHub

open Toml (Value Table)
open Setting

/-- A setting as it is read from where it may be written. -/
def Setting.Key.read (k : Key) (field : Option Value) : Option k.shape.Content :=
  read? k.fallback k.shape.ofValue? field

/-- The flags are what is read of the linters. -/
def LinterFlags.Reads (f : LinterFlags) (written : Key → Option Value) : Prop :=
  ∀ kind, (Key.runs kind).read (written (.runs kind)) = some (f.get kind)

/-- The settings are what is read of the files. -/
def FileSettings.Reads (f : FileSettings) (written : Key → Option Value) : Prop :=
  Key.ignore.read (written .ignore) = some f.ignore ∧
    Key.ignoreMinified.read (written .ignoreMinified) = some f.ignoreMinified

/-- The settings are what is read of the environment. -/
def EnvironmentSettings.Reads (e : EnvironmentSettings) (written : Key → Option Value) : Prop :=
  Key.execDir.read (written .execDir) = some e.execDir ∧
    Key.bundleDir.read (written .bundleDir) = some e.bundleDir ∧
    Key.minModules.read (written .minModules) = some e.minModules ∧
    Key.extraPath.read (written .extraPath) = some e.extraPath

theorem LinterFlags.ofValue?_eq_some_iff (s : Value) {f : LinterFlags} :
    LinterFlags.ofValue? s = some f ↔ IsSection s ∧ f.Reads fun k => k.field? s := by
  by_cases hs : IsSection s
  · have heq : LinterFlags.ofValue? s = do
        return {
          esLint := ← (Key.runs .esLint).read ((Key.runs .esLint).field? s)
          tsLint := ← (Key.runs .tsLint).read ((Key.runs .tsLint).field? s)
          coffeeLint := ← (Key.runs .coffeeLint).read ((Key.runs .coffeeLint).field? s)
          cssLint := ← (Key.runs .cssLint).read ((Key.runs .cssLint).field? s) } := by
      unfold LinterFlags.ofValue?
      rw [fields?_of_isSection hs]
      rfl
    simp only [heq, hs, true_and, bind, Option.bind_eq_some_iff, pure, Option.some.injEq]
    constructor
    · rintro ⟨es, hes, ts, hts, coffee, hcoffee, css, hcss, rfl⟩ kind
      cases kind <;> assumption
    · intro h
      exact ⟨_, h .esLint, _, h .tsLint, _, h .coffeeLint, _, h .cssLint, rfl⟩
  · rw [LinterFlags.ofValue?, fields?_of_not_isSection hs]
    simp [hs]

theorem FileSettings.ofValue?_eq_some_iff (s : Value) {f : FileSettings} :
    FileSettings.ofValue? s = some f ↔ IsSection s ∧ f.Reads fun k => k.field? s := by
  by_cases hs : IsSection s
  · have heq : FileSettings.ofValue? s = do
        return {
          ignore := ← Key.ignore.read (Key.ignore.field? s)
          ignoreMinified := ← Key.ignoreMinified.read (Key.ignoreMinified.field? s) } := by
      unfold FileSettings.ofValue?
      rw [fields?_of_isSection hs]
      rfl
    simp only [heq, hs, true_and, bind, Option.bind_eq_some_iff, pure, Option.some.injEq]
    constructor
    · rintro ⟨ignore, hignore, minified, hminified, rfl⟩
      exact ⟨hignore, hminified⟩
    · rintro ⟨hignore, hminified⟩
      exact ⟨_, hignore, _, hminified, rfl⟩
  · rw [FileSettings.ofValue?, fields?_of_not_isSection hs]
    simp [hs]

theorem EnvironmentSettings.ofValue?_eq_some_iff (s : Value) {e : EnvironmentSettings} :
    EnvironmentSettings.ofValue? s = some e ↔ IsSection s ∧ e.Reads fun k => k.field? s := by
  by_cases hs : IsSection s
  · have heq : EnvironmentSettings.ofValue? s = do
        return {
          execDir := ← Key.execDir.read (Key.execDir.field? s)
          bundleDir := ← Key.bundleDir.read (Key.bundleDir.field? s)
          minModules := ← Key.minModules.read (Key.minModules.field? s)
          extraPath := ← Key.extraPath.read (Key.extraPath.field? s) } := by
      unfold EnvironmentSettings.ofValue?
      rw [fields?_of_isSection hs]
      rfl
    simp only [heq, hs, true_and, bind, Option.bind_eq_some_iff, pure, Option.some.injEq]
    constructor
    · rintro ⟨exec, hexec, bundle, hbundle, modules, hmodules, extra, hextra, rfl⟩
      exact ⟨hexec, hbundle, hmodules, hextra⟩
    · rintro ⟨hexec, hbundle, hmodules, hextra⟩
      exact ⟨_, hexec, _, hbundle, _, hmodules, _, hextra, rfl⟩
  · rw [EnvironmentSettings.ofValue?, fields?_of_not_isSection hs]
    simp [hs]

/-- Where nothing is written the defaults hold. -/
theorem LinterFlags.default_iff {f : LinterFlags} : {} = f ↔ f.Reads fun _ => none := by
  constructor
  · rintro rfl kind
    cases kind <;> rfl
  · intro h
    obtain ⟨es, ts, coffee, css⟩ := f
    cases Option.some.inj (h .esLint)
    cases Option.some.inj (h .tsLint)
    cases Option.some.inj (h .coffeeLint)
    cases Option.some.inj (h .cssLint)
    rfl

theorem FileSettings.default_iff {f : FileSettings} : {} = f ↔ f.Reads fun _ => none := by
  constructor
  · rintro rfl
    exact ⟨rfl, rfl⟩
  · obtain ⟨ignore, minified⟩ := f
    rintro ⟨hignore, hminified⟩
    cases Option.some.inj hignore
    cases Option.some.inj hminified
    rfl

theorem EnvironmentSettings.default_iff {e : EnvironmentSettings} :
    {} = e ↔ e.Reads fun _ => none := by
  constructor
  · rintro rfl
    exact ⟨rfl, rfl, rfl, rfl⟩
  · obtain ⟨exec, bundle, modules, extra⟩ := e
    rintro ⟨hexec, hbundle, hmodules, hextra⟩
    cases Option.some.inj hexec
    cases Option.some.inj hbundle
    cases Option.some.inj hmodules
    cases Option.some.inj hextra
    rfl

/-- **A section that is left out** reads as one in which nothing is written, if the defaults of its
settings are what it holds then. -/
theorem read?_section_iff {β : Type} {whole b : β} {ofValue? : Value → Option β}
    {Reads : (Key → Option Value) → Prop}
    (hsection : ∀ s, ofValue? s = some b ↔ IsSection s ∧ Reads fun k => k.field? s)
    (hnothing : whole = b ↔ Reads fun _ => none) (o : Option Value) :
    read? whole ofValue? o = some b ↔
      (∀ s, o = some s → IsSection s) ∧ Reads fun k => o.bind k.field? := by
  cases o with
  | none => simpa [read?] using hnothing
  | some s => simpa [read?] using hsection s

namespace Setting.Key

variable {k : Key} {t : Table} {v : Value} {a : k.shape.Content}

/-- A document writes a value for a setting, in the section of that setting. -/
def IsWritten (k : Key) (t : Table) (v : Value) : Prop :=
  ∃ s, t.get? k.part = some s ∧ k.Writes s v

/-- What a setting holds in a configuration that is read from a document: what the value means that
is written for it, or the default if none is. -/
inductive Holds (k : Key) (t : Table) : k.shape.Content → Prop
  | written {v : Value} {a : k.shape.Content} (there : k.IsWritten t v)
    (means : k.shape.Means v a) : Holds k t a
  | absent (nothing : ∀ v, ¬ k.IsWritten t v) : Holds k t k.fallback

theorem bind_field?_eq_some_iff : (t.get? k.part).bind k.field? = some v ↔ k.IsWritten t v := by
  rw [Option.bind_eq_some_iff]
  simp only [field?_eq_some_iff]
  exact Iff.rfl

theorem read_eq_some_iff : k.read ((t.get? k.part).bind k.field?) = some a ↔ k.Holds t a := by
  cases hfield : (t.get? k.part).bind k.field? with
  | none =>
    have hnothing : ∀ v, ¬ k.IsWritten t v := fun v hv => by
      rw [← bind_field?_eq_some_iff, hfield] at hv
      cases hv
    rw [read, read?, Option.some.injEq]
    constructor
    · rintro rfl
      exact .absent hnothing
    · intro h
      cases h with
      | written there => exact absurd there (hnothing _)
      | absent => rfl
  | some v =>
    have hv := bind_field?_eq_some_iff.1 hfield
    rw [read, read?, Shape.ofValue?_eq_some_iff]
    constructor
    · exact .written hv
    · intro h
      cases h with
      | written there means =>
        rw [← bind_field?_eq_some_iff, hfield] at there
        cases there
        exact means
      | absent nothing => exact absurd hv (nothing v)

end Setting.Key

/-- What stands under the name of a section may stand for one. -/
def Config.HasSections (t : Table) : Prop :=
  ∀ k : Key, ∀ s, t.get? k.part = some s → IsSection s

/-- A configuration is read section by section. -/
theorem Config.ofTable?_iff_sections {t : Table} {c : Config} : ofTable? t = some c ↔
    read? {} LinterFlags.ofValue? (t.get? "linters") = some c.linters ∧
    read? {} FileSettings.ofValue? (t.get? "files") = some c.files ∧
    read? {} EnvironmentSettings.ofValue? (t.get? "environment") = some c.environment := by
  simp only [ofTable?, bind, Option.bind_eq_some_iff, pure, Option.some.injEq]
  constructor
  · rintro ⟨l, hl, f, hf, e, he, rfl⟩
    exact ⟨hl, hf, he⟩
  · rintro ⟨hl, hf, he⟩
    exact ⟨_, hl, _, hf, _, he, rfl⟩

/-- **A table is read as a configuration** that holds what is written, and the defaults for the
rest. -/
theorem Config.ofTable?_eq_some_iff {t : Table} {c : Config} :
    ofTable? t = some c ↔ HasSections t ∧ ∀ k : Key, k.Holds t (k.held c) := by
  have hlinters := @read?_section_iff _ {} c.linters _ _
    (fun s => LinterFlags.ofValue?_eq_some_iff s) LinterFlags.default_iff (t.get? "linters")
  have hfiles := @read?_section_iff _ {} c.files _ _
    (fun s => FileSettings.ofValue?_eq_some_iff s) FileSettings.default_iff (t.get? "files")
  have henvironment := @read?_section_iff _ {} c.environment _ _
    (fun s => EnvironmentSettings.ofValue?_eq_some_iff s) EnvironmentSettings.default_iff
    (t.get? "environment")
  rw [ofTable?_iff_sections, hlinters, hfiles, henvironment]
  simp only [← Key.read_eq_some_iff]
  constructor
  · rintro ⟨⟨hl, hflags⟩, ⟨hf, hignore, hminified⟩, he, hexec, hbundle, hmodules, hextra⟩
    refine ⟨fun k => ?_, fun k => ?_⟩
    · cases k <;> assumption
    · cases k with
      | runs kind => exact hflags kind
      | _ => assumption
  · rintro ⟨hsections, hread⟩
    exact ⟨⟨hsections (.runs .esLint), fun kind => hread (.runs kind)⟩,
      ⟨hsections .ignore, hread .ignore, hread .ignoreMinified⟩,
      hsections .execDir, hread .execDir, hread .bundleDir, hread .minModules, hread .extraPath⟩

/-- Sections are sections, and what is written for a setting has its type. -/
structure Config.WellTyped (t : Table) : Prop where
  sections : HasSections t
  values : ∀ (k : Key) v, k.IsWritten t v → ∃ a, k.shape.Means v a

namespace Setting.Key

variable {k : Key} {t : Table} {v : Value} {a b : k.shape.Content}

theorem exists_holds (h : ∀ v, k.IsWritten t v → ∃ a, k.shape.Means v a) : ∃ a, k.Holds t a := by
  by_cases hwritten : ∃ v, k.IsWritten t v
  · obtain ⟨v, hv⟩ := hwritten
    obtain ⟨a, ha⟩ := h v hv
    exact ⟨a, .written hv ha⟩
  · exact ⟨_, .absent fun v hv => hwritten ⟨v, hv⟩⟩

theorem Holds.unique (ha : k.Holds t a) (hb : k.Holds t b) : a = b := by
  rw [← read_eq_some_iff] at ha hb
  exact Option.some.inj (ha.symm.trans hb)

/-- What a setting holds depends on what is written for it, and on nothing else. -/
theorem Holds.congr {t' : Table} (h : k.Holds t a)
    (hsame : ∀ v, k.IsWritten t' v ↔ k.IsWritten t v) : k.Holds t' a := by
  cases h with
  | written there means => exact .written ((hsame _).2 there) means
  | absent nothing => exact .absent fun v hv => nothing v ((hsame v).1 hv)

/-- What has not the right type means nothing. -/
theorem Holds.exists_means (h : k.Holds t a) (hv : k.IsWritten t v) : ∃ a, k.shape.Means v a := by
  cases h with
  | @written w _ there means =>
    rw [← bind_field?_eq_some_iff] at hv there
    cases hv.symm.trans there
    exact ⟨_, means⟩
  | absent nothing => exact absurd hv (nothing v)

end Setting.Key

/-- Any choice of what the settings hold is that of a configuration. -/
theorem Config.exists_held (f : (k : Key) → k.shape.Content) :
    ∃ c : Config, ∀ k : Key, k.held c = f k := by
  refine ⟨⟨⟨f (.runs .esLint), f (.runs .tsLint), f (.runs .coffeeLint), f (.runs .cssLint)⟩,
    ⟨f .ignore, f .ignoreMinified⟩,
    ⟨f .execDir, f .bundleDir, f .minModules, f .extraPath⟩⟩, fun k => ?_⟩
  cases k with
  | runs kind => cases kind <;> rfl
  | _ => rfl

/-- **A table is a configuration** just if everything that is written in it has the right type. -/
theorem Config.ofTable?_isSome_iff {t : Table} : (∃ c, ofTable? t = some c) ↔ WellTyped t := by
  simp only [ofTable?_eq_some_iff]
  constructor
  · rintro ⟨c, hsections, hholds⟩
    exact ⟨hsections, fun k v hv => (hholds k).exists_means hv⟩
  · rintro ⟨hsections, hvalues⟩
    choose f hf using fun k => Key.exists_holds (hvalues k)
    obtain ⟨c, hc⟩ := exists_held f
    exact ⟨c, hsections, fun k => (hc k).symm ▸ hf k⟩

namespace Config

variable {c : Config} {kind : Kind} {steps : List (Kind × Bool)}

/-- Linters are switched on and off, one after the other. -/
def afterSteps (c : Config) (steps : List (Kind × Bool)) : Config :=
  steps.foldl (fun c s => c.setEnabled s.1 s.2) c

theorem isEnabled_setEnabled (c : Config) (k : Kind) (enabled : Bool) :
    (c.setEnabled k enabled).isEnabled kind = if kind = k then enabled else c.isEnabled kind :=
  c.linters.get_set enabled k kind

theorem isEnabled_afterSteps_of_not_mem (h : ∀ s ∈ steps, s.1 ≠ kind) :
    (c.afterSteps steps).isEnabled kind = c.isEnabled kind := by
  induction steps generalizing c with
  | nil => rfl
  | cons s steps ih =>
    obtain ⟨hs, hsteps⟩ := List.forall_mem_cons.1 h
    have hrest : ((c.setEnabled s.1 s.2).afterSteps steps).isEnabled kind =
        (c.setEnabled s.1 s.2).isEnabled kind := ih hsteps
    rw [isEnabled_setEnabled, if_neg (Ne.symm hs)] at hrest
    exact hrest

/-- **The last step counts.** -/
theorem isEnabled_afterSteps {before after : List (Kind × Bool)} {enabled : Bool}
    (h : ∀ s ∈ after, s.1 ≠ kind) :
    (c.afterSteps (before ++ (kind, enabled) :: after)).isEnabled kind = enabled := by
  have happend : c.afterSteps (before ++ (kind, enabled) :: after) =
      ((c.afterSteps before).setEnabled kind enabled).afterSteps after := by
    unfold afterSteps
    rw [List.foldl_append, List.foldl_cons]
  rw [happend, isEnabled_afterSteps_of_not_mem h, isEnabled_setEnabled, if_pos rfl]

/-- Nothing but linters is switched. -/
theorem afterSteps_eq (c : Config) (steps : List (Kind × Bool)) :
    c.afterSteps steps = { c with linters := (c.afterSteps steps).linters } := by
  induction steps generalizing c with
  | nil => rfl
  | cons s steps ih => exact ih (c.setEnabled s.1 s.2)

theorem ignorePatterns_eq (c : Config) :
    c.ignorePatterns = c.files.ignore.filter fun p => Text.trim p.toList ≠ [] := by
  unfold ignorePatterns
  refine List.filter_congr fun p _ => ?_
  have hblank : Text.isBlankText p = true ↔ Text.trim p.toList = [] := by
    rw [Text.trim_eq_nil_iff, Text.isBlankText, List.all_eq_true]
  by_cases htrim : Text.trim p.toList = []
  · simp [htrim, hblank.2 htrim]
  · simp [htrim, mt hblank.1 htrim]

/-- **A configuration is what is written, put over the defaults.** A document is accepted just if
its sections are sections and whatever it writes for a setting has the type of the setting. Then a
setting that is written holds what the value means, and any other its default; nothing else in the
document matters, nor the order in it. The patterns that count are those that are not blank. When
linters are switched on and off, the last time counts for each, and no other setting changes. -/
theorem written_over_defaults {document : String} {t : Table}
    (ht : Toml.parse? document = some t) :
    ((∃ c, parse? document = some c) ↔ WellTyped t) ∧
    ∀ c, parse? document = some c →
      (∀ (k : Key) v a, k.IsWritten t v → k.shape.Means v a → k.held c = a) ∧
      (∀ k : Key, (∀ v, ¬ k.IsWritten t v) → k.held c = k.fallback) ∧
      (∀ document' t', Toml.parse? document' = some t' → HasSections t' →
        (∀ (k : Key) v, k.IsWritten t' v ↔ k.IsWritten t v) → parse? document' = some c) ∧
      c.ignorePatterns = (c.files.ignore.filter fun p => Text.trim p.toList ≠ []) ∧
      ∀ steps,
        (∀ before after kind enabled, steps = before ++ (kind, enabled) :: after →
          (∀ s ∈ after, s.1 ≠ kind) → (c.afterSteps steps).isEnabled kind = enabled) ∧
        (∀ kind, (∀ s ∈ steps, s.1 ≠ kind) →
          (c.afterSteps steps).isEnabled kind = c.isEnabled kind) ∧
        (c.afterSteps steps).files = c.files ∧
        (c.afterSteps steps).environment = c.environment := by
  have hparse {d : String} {t : Table} (h : Toml.parse? d = some t) : parse? d = ofTable? t := by
    rw [parse?, h, Option.bind_some]
  rw [hparse ht]
  refine ⟨ofTable?_isSome_iff, fun c hc => ?_⟩
  obtain ⟨-, hholds⟩ := ofTable?_eq_some_iff.1 hc
  refine ⟨fun k v a hv ha => (hholds k).unique (.written hv ha),
    fun k hnothing => (hholds k).unique (.absent hnothing),
    fun document' t' ht' hsections hsame => ?_, c.ignorePatterns_eq,
    fun steps => ⟨?_, fun kind => isEnabled_afterSteps_of_not_mem, ?_, ?_⟩⟩
  · rw [hparse ht', ofTable?_eq_some_iff]
    exact ⟨hsections, fun k => (hholds k).congr (hsame k)⟩
  · rintro before after kind enabled rfl
    exact isEnabled_afterSteps
  · rw [afterSteps_eq]
  · rw [afterSteps_eq]

theorem written_over_defaults_in_two_sections :
    let document := "[files]\nignore = ['', '/a/']\n[environment]\nmin_modules = 4\nother = 1\n"
    let c : Config := { files := { ignore := ["", "/a/"] }, environment := { minModules := 4 } }
    let steps := [(Kind.cssLint, false), (.esLint, false), (.cssLint, true)]
    parse? document = some c ∧ (∃ t, Toml.parse? document = some t ∧ WellTyped t) ∧
      c.ignorePatterns = ["/a/"] ∧ (c.afterSteps steps).isEnabled .cssLint = true ∧
      (c.afterSteps steps).isEnabled .tsLint = true := by
  intro document c steps
  have hc : parse? document = some c := by decide +kernel
  have hsome : (Toml.parse? document).isSome = true := by decide +kernel
  obtain ⟨t, ht⟩ := Option.isSome_iff_exists.1 hsome
  obtain ⟨hwell, hheld⟩ := written_over_defaults ht
  obtain ⟨-, -, -, hpatterns, hsteps⟩ := hheld c hc
  obtain ⟨hlast, hnever, -⟩ := hsteps steps
  refine ⟨hc, ⟨t, ht, hwell.1 ⟨c, hc⟩⟩, ?_, ?_, ?_⟩
  · rw [hpatterns]
    decide +kernel
  · exact hlast [(.cssLint, false), (.esLint, false)] [] .cssLint true rfl nofun
  · exact hnever .tsLint (by decide)

end Config
end LintHub
