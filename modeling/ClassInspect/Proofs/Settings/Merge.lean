import ClassInspect.CommandLine.Dump
import ClassInspect.Proofs.Outcome

/-!
# Settings from a file and a command line

Settings can be wrong in three ways: the path is there and cannot be one, the format is there and is none, or no path is
given at all. The file alone is examined for these from the last to the first. After the command line was put over it the
values are examined once more beforehand, from the first to the last, so that the same defects are found in another
order, and the examination that follows can only miss a path.
-/

namespace ClassInspect

/-! ### Defects -/

namespace Settings

/-- The path cannot be one, for this reason. -/
def BadPath (path : String) (reason : Refusal) : Prop :=
  path = "" ∧ reason = .emptyPath ∨ '\x00' ∈ path.toList ∧ reason = .nulInPath

/-- The name is that of no format, for this reason. -/
def BadFormat (name : String) (reason : Refusal) : Prop :=
  (∀ char ∈ name.toList, isWhiteSpace char = true) ∧ reason = .blank ∨
    (∃ char ∈ name.toList, isWhiteSpace char = false) ∧ name ≠ "text" ∧ name ≠ "json" ∧
      reason = .notOneOf ["text", "json"]

/-- A value is given for the field, and it is bad. -/
def Invalid (field : String) (bad : String → Refusal → Prop) (value? : Option String) (cause : SettingsError) : Prop :=
  ∃ value reason, value? = some value ∧ bad value reason ∧ cause = .invalid field value reason

def PathDefect : Option String → SettingsError → Prop := Invalid classPathField BadPath

def FormatDefect : Option String → SettingsError → Prop := Invalid formatField BadFormat

def PathMissing (path? : Option String) (cause : SettingsError) : Prop := path? = none ∧ cause = .missing classPathField

theorem forall_not_badPath_iff {path : String} :
    (∀ reason, ¬ BadPath path reason) ↔ path ≠ "" ∧ '\x00' ∉ path.toList := by
  apply Iff.intro
  · intro hgood
    exact ⟨fun hempty => hgood _ (.inl ⟨hempty, rfl⟩), fun hnul => hgood _ (.inr ⟨hnul, rfl⟩)⟩
  · intro hgood reason hbad
    rcases hbad with ⟨hempty, -⟩ | ⟨hnul, -⟩
    · exact hgood.1 hempty
    · exact hgood.2 hnul

theorem forall_not_badFormat_iff {name : String} :
    (∀ reason, ¬ BadFormat name reason) ↔ name = "text" ∨ name = "json" := by
  apply Iff.intro
  · intro hgood
    by_contra hother
    rw [not_or] at hother
    by_cases hblank : ∀ char ∈ name.toList, isWhiteSpace char = true
    · exact hgood _ (.inl ⟨hblank, rfl⟩)
    · exact hgood _ (.inr ⟨by simpa using hblank, hother.1, hother.2, rfl⟩)
  · intro hname reason hbad
    rcases hbad with ⟨hblank, -⟩ | ⟨-, htext, hjson, -⟩
    · rcases hname with rfl | rfl
      · exact absurd (hblank 't' (by simp)) (by decide)
      · exact absurd (hblank 'j' (by simp)) (by decide)
    · exact hname.elim htext hjson

theorem forall_not_invalid_iff {field : String} {bad : String → Refusal → Prop} {value? : Option String} :
    (∀ cause, ¬ Invalid field bad value? cause) ↔ ∀ value, value? = some value → ∀ reason, ¬ bad value reason := by
  apply Iff.intro
  · intro hnone value hvalue reason hbad
    exact hnone _ ⟨value, reason, hvalue, hbad, rfl⟩
  · intro hgood cause hinvalid
    obtain ⟨value, reason, hvalue, hbad, -⟩ := hinvalid
    exact hgood value hvalue reason hbad

end Settings

open Settings

/-! ### Single values -/

/-- The check of a field refuses the bad values, each for its reason, and accepts the others. -/
structure Judges {α : Type} (field : String) (bad : String → Refusal → Prop) (check : String → Except SettingsError α) :
    Prop where
  refuses : ∀ value reason, bad value reason → check value = .error (.invalid field value reason)
  accepts : ∀ value, (∀ reason, ¬ bad value reason) → ∃ result, check value = .ok result

theorem Judges.exists_ok_iff {α : Type} {field : String} {bad : String → Refusal → Prop}
    {check : String → Except SettingsError α} (hjudges : Judges field bad check) {value : String} :
    (∃ result, check value = .ok result) ↔ ∀ reason, ¬ bad value reason := by
  refine ⟨fun hok reason hbad => ?_, hjudges.accepts value⟩
  obtain ⟨result, hok⟩ := hok
  cases hok.symm.trans (hjudges.refuses value reason hbad)

theorem Judges.fails {α : Type} {field : String} {bad : String → Refusal → Prop}
    {check : String → Except SettingsError α} (hjudges : Judges field bad check) (default : α) (value? : Option String) :
    Fails (value?.elim (.ok default) check) [Invalid field bad value?] := by
  apply Fails.of_iff
  intro cause
  cases value? with
  | none => simp [Invalid]
  | some value =>
    apply Iff.intro
    · intro hcause
      by_cases hgood : ∀ reason, ¬ bad value reason
      · obtain ⟨result, hok⟩ := hjudges.accepts value hgood
        cases hok.symm.trans hcause
      · obtain ⟨reason, hbad⟩ := not_forall_not.mp hgood
        cases (hjudges.refuses value reason hbad).symm.trans hcause
        exact ⟨value, reason, rfl, hbad, rfl⟩
    · intro hinvalid
      obtain ⟨own, reason, hown, hbad, rfl⟩ := hinvalid
      cases hown
      exact hjudges.refuses value reason hbad

theorem Check.judges_path (field : String) : Judges field BadPath (Check.path field) where
  refuses path reason hbad := by
    rcases hbad with ⟨rfl, rfl⟩ | ⟨hnul, rfl⟩
    · rfl
    · have hempty : ¬ path = "" := by
        intro hempty
        rw [hempty] at hnul
        cases hnul
      simp [Check.path, hempty, hnul]
  accepts path hgood := by
    obtain ⟨hempty, hnul⟩ := forall_not_badPath_iff.mp hgood
    exact ⟨(), by simp [Check.path, hempty, hnul]⟩

theorem Check.path_eq_ok_iff {field path : String} :
    Check.path field path = .ok () ↔ path ≠ "" ∧ '\x00' ∉ path.toList := by
  rw [← forall_not_badPath_iff, ← (Check.judges_path field).exists_ok_iff]
  exact ⟨fun hok => ⟨(), hok⟩, fun hok => hok.choose_spec⟩

namespace OutputFormat

theorem ofName_name (format : OutputFormat) (field : String) : ofName field format.name = .ok format := by
  cases format <;> rfl

theorem exists_eq_name_iff {name : String} :
    (∃ format : OutputFormat, name = format.name) ↔ name = "text" ∨ name = "json" := by
  apply Iff.intro
  · intro hname
    obtain ⟨format, rfl⟩ := hname
    cases format with
    | text => exact .inl rfl
    | json => exact .inr rfl
  · intro hname
    exact hname.elim (⟨.text, ·⟩) (⟨.json, ·⟩)

theorem judges_ofName (field : String) : Judges field BadFormat (ofName field) where
  refuses name reason hbad := by
    have hblank_iff : isBlank name = true ↔ ∀ char ∈ name.toList, isWhiteSpace char = true := List.all_eq_true
    rcases hbad with ⟨hblank, rfl⟩ | ⟨hvisible, htext, hjson, rfl⟩
    · rw [ofName, Check.nonBlank, if_pos (hblank_iff.mpr hblank)]
      rfl
    · have hallowed : ¬ (all.map OutputFormat.name).contains name = true := by
        simp [all, OutputFormat.name, htext, hjson]
      rw [ofName, Check.nonBlank, if_neg (by simpa [hblank_iff] using hvisible), Check.oneOf, if_neg hallowed]
      rfl
  accepts name hgood := by
    obtain ⟨format, rfl⟩ := exists_eq_name_iff.mpr (forall_not_badFormat_iff.mp hgood)
    exact ⟨format, ofName_name format field⟩

theorem ofName_eq_ok_iff {field name : String} {format : OutputFormat} :
    ofName field name = .ok format ↔ name = format.name := by
  apply Iff.intro
  · intro hok
    have hgood := (judges_ofName field).exists_ok_iff.mp ⟨format, hok⟩
    obtain ⟨own, rfl⟩ := exists_eq_name_iff.mpr (forall_not_badFormat_iff.mp hgood)
    rw [ofName_name] at hok
    rw [Except.ok.inj hok]
  · intro hname
    rw [hname, ofName_name]

end OutputFormat

/-! ### The file alone -/

namespace FileSettings

variable {file : FileSettings} {settings : Settings}

theorem outputFormat_eq_elim (file : FileSettings) :
    file.outputFormat = file.format.elim (.ok .text) (OutputFormat.ofName formatField) := by
  rw [outputFormat]
  cases file.format <;> rfl

theorem outputFormat_eq_ok_iff {format : OutputFormat} :
    file.outputFormat = .ok format ↔ file.format = some format.name ∨ file.format = none ∧ format = .text := by
  rw [outputFormat_eq_elim]
  cases hname : file.format with
  | none => simp [eq_comm]
  | some name => simp [OutputFormat.ofName_eq_ok_iff]

theorem fails_outputFormat (file : FileSettings) : Fails file.outputFormat [FormatDefect file.format] := by
  rw [outputFormat_eq_elim]
  exact (OutputFormat.judges_ofName formatField).fails .text file.format

theorem check_eq (file : FileSettings) :
    file.check =
      file.classPath.elim (.ok ()) (Check.path classPathField) >>= fun _ => file.outputFormat >>= fun _ => .ok () := by
  rw [check]
  cases file.classPath <;> rfl

theorem fails_check (file : FileSettings) : Fails file.check [PathDefect file.classPath, FormatDefect file.format] := by
  rw [check_eq]
  apply Fails.bind ((Check.judges_path classPathField).fails () file.classPath)
  intro _ _
  exact (fails_outputFormat file).bind fun _ _ => .ok nofun _

theorem fails_required (path? : Option String) : Fails (Check.required classPathField path?) [PathMissing path?] := by
  apply Fails.of_iff
  intro cause
  cases path? <;> simp [Check.required, PathMissing, eq_comm]

theorem required_eq_ok_iff {path? : Option String} {path : String} :
    Check.required classPathField path? = .ok path ↔ path? = some path := by
  cases path? <;> simp [Check.required]

theorem fails_toSettings (file : FileSettings) :
    Fails file.toSettings [PathMissing file.classPath, FormatDefect file.format, PathDefect file.classPath] := by
  apply (fails_required file.classPath).bind
  intro path hpath
  apply (fails_outputFormat file).bind
  intro format _
  rw [required_eq_ok_iff.mp hpath]
  exact ((Check.judges_path classPathField).fails () (some path)).bind fun _ _ => .ok nofun _

theorem toSettings_eq_ok_iff :
    file.toSettings = .ok settings ↔
      file.classPath = some settings.classPath ∧ file.outputFormat = .ok settings.format ∧ settings.check = .ok () ∧
        settings.showPool = file.poolShown ∧ settings.showMembers = file.membersShown ∧
        settings.showAttributes = file.attributesShown := by
  simp only [toSettings, bind_eq_ok_iff, pure_eq_ok_iff, required_eq_ok_iff]
  apply Iff.intro
  · intro hsettings
    obtain ⟨path, hpath, format, hformat, passed, hcheck, rfl⟩ := hsettings
    exact ⟨hpath, hformat, hcheck, rfl, rfl, rfl⟩
  · intro hsettings
    obtain ⟨hpath, hformat, hcheck, hpool, hmembers, hattributes⟩ := hsettings
    rw [← hpool, ← hmembers, ← hattributes]
    exact ⟨_, hpath, _, hformat, (), hcheck, rfl⟩

/-- Once the given values are valid, only the path can be missing. -/
theorem fails_toSettings_of_check (hcheck : file.check = .ok ()) : Fails file.toSettings [PathMissing file.classPath] := by
  have hnone := (fails_check file).exists_ok_iff.mp ⟨(), hcheck⟩
  apply (fails_toSettings file).head
  intro defect hdefect
  exact hnone defect (by simpa [or_comm] using hdefect)

theorem check_of_toSettings (hsettings : file.toSettings = .ok settings) : file.check = .ok () := by
  have hnone := (fails_toSettings file).exists_ok_iff.mp ⟨settings, hsettings⟩
  have hvalid : ∀ defect ∈ [PathDefect file.classPath, FormatDefect file.format], ∀ cause, ¬ defect cause := by
    intro defect hdefect
    exact hnone defect (List.mem_cons_of_mem _ (by simpa [or_comm] using hdefect))
  exact ((fails_check file).exists_ok_iff.mpr hvalid).choose_spec

end FileSettings

/-! ### Both together -/

namespace DumpArguments

variable {arguments : DumpArguments} {file : FileSettings} {settings : Settings}

/-- The path of the command line, or that of the file. -/
def givenPath (arguments : DumpArguments) (file : FileSettings) : Option String := arguments.classPath.or file.classPath

def givenFormat (arguments : DumpArguments) (file : FileSettings) : Option String := arguments.format.or file.format

/-- The settings are put together from the command line and the file. -/
structure Merged (arguments : DumpArguments) (file : FileSettings) (settings : Settings) : Prop where
  path : givenPath arguments file = some settings.classPath
  validPath : settings.classPath ≠ "" ∧ '\x00' ∉ settings.classPath.toList
  format : givenFormat arguments file = some settings.format.name ∨
    givenFormat arguments file = none ∧ settings.format = .text
  showPool : settings.showPool = (file.showPool.getD true && !arguments.hidePool)
  showMembers : settings.showMembers = file.showMembers.getD true
  showAttributes : settings.showAttributes = (file.showAttributes.getD false || arguments.attributes)

/-- The command line overrides everything in which the two files differ. -/
structure Overrides (arguments : DumpArguments) (file other : FileSettings) : Prop where
  classPath : arguments.classPath = none → file.classPath = other.classPath
  format : arguments.format = none → file.format = other.format
  showPool : arguments.hidePool = false → file.showPool = other.showPool
  showMembers : file.showMembers = other.showMembers
  showAttributes : arguments.attributes = false → file.showAttributes = other.showAttributes

theorem classPath_applyTo (arguments : DumpArguments) (file : FileSettings) :
    (arguments.applyTo file).classPath = givenPath arguments file := by
  rw [applyTo, givenPath]
  cases arguments.classPath <;> rfl

theorem format_applyTo (arguments : DumpArguments) (file : FileSettings) :
    (arguments.applyTo file).format = givenFormat arguments file := by
  rw [applyTo, givenFormat]
  cases arguments.format <;> rfl

theorem merge_eq_ok_iff_toSettings :
    arguments.merge file = .ok settings ↔ (arguments.applyTo file).toSettings = .ok settings := by
  rw [merge, bind_eq_ok_iff]
  apply Iff.intro
  · intro hmerge
    obtain ⟨-, -, hsettings⟩ := hmerge
    exact hsettings
  · intro hsettings
    exact ⟨(), FileSettings.check_of_toSettings hsettings, hsettings⟩

theorem fails_merge (arguments : DumpArguments) (file : FileSettings) :
    Fails (arguments.merge file)
      [PathDefect (givenPath arguments file), FormatDefect (givenFormat arguments file),
        PathMissing (givenPath arguments file)] := by
  rw [← classPath_applyTo, ← format_applyTo]
  exact (FileSettings.fails_check _).bind fun _ => FileSettings.fails_toSettings_of_check

theorem poolShown_applyTo (arguments : DumpArguments) (file : FileSettings) :
    (arguments.applyTo file).poolShown = (file.showPool.getD true && !arguments.hidePool) := by
  rw [FileSettings.poolShown, applyTo]
  cases arguments.hidePool <;> simp

theorem attributesShown_applyTo (arguments : DumpArguments) (file : FileSettings) :
    (arguments.applyTo file).attributesShown = (file.showAttributes.getD false || arguments.attributes) := by
  rw [FileSettings.attributesShown, applyTo]
  cases arguments.attributes <;> simp

theorem merge_eq_ok_iff : arguments.merge file = .ok settings ↔ Merged arguments file settings := by
  rw [merge_eq_ok_iff_toSettings, FileSettings.toSettings_eq_ok_iff, FileSettings.outputFormat_eq_ok_iff, Settings.check,
    Check.path_eq_ok_iff, classPath_applyTo, format_applyTo, poolShown_applyTo, attributesShown_applyTo]
  apply Iff.intro
  · intro hsettings
    obtain ⟨hpath, hformat, hvalid, hpool, hmembers, hattributes⟩ := hsettings
    exact ⟨hpath, hvalid, hformat, hpool, hmembers, hattributes⟩
  · intro hmerged
    exact ⟨hmerged.path, hmerged.format, hmerged.validPath, hmerged.showPool, hmerged.showMembers, hmerged.showAttributes⟩

theorem exists_merge_eq_ok_iff :
    (∃ settings, arguments.merge file = .ok settings) ↔
      (∃ path, givenPath arguments file = some path ∧ path ≠ "" ∧ '\x00' ∉ path.toList) ∧
        ∀ name, givenFormat arguments file = some name → name = "text" ∨ name = "json" := by
  rw [(fails_merge arguments file).exists_ok_iff]
  simp only [List.forall_mem_cons, PathDefect, FormatDefect, forall_not_invalid_iff, forall_not_badPath_iff,
    forall_not_badFormat_iff]
  apply Iff.intro
  · intro hnone
    obtain ⟨hvalid, hformat, hgiven, -⟩ := hnone
    refine ⟨?_, hformat⟩
    cases hpath : givenPath arguments file with
    | none => exact absurd ⟨hpath, rfl⟩ (hgiven _)
    | some path => exact ⟨path, rfl, hvalid path hpath⟩
  · intro hgood
    obtain ⟨⟨path, hpath, hvalid⟩, hformat⟩ := hgood
    refine ⟨fun own hown => ?_, hformat, fun cause hmissing => ?_, nofun⟩
    · cases hpath.symm.trans hown
      exact hvalid
    · cases hpath.symm.trans hmissing.1

theorem applyTo_of_overrides {other : FileSettings} (hsame : Overrides arguments file other) :
    arguments.applyTo file = arguments.applyTo other := by
  have hpath : (arguments.classPath <|> file.classPath) = (arguments.classPath <|> other.classPath) := by
    cases hgiven : arguments.classPath with
    | none => rw [hsame.classPath hgiven]
    | some path => rfl
  have hformat : (arguments.format <|> file.format) = (arguments.format <|> other.format) := by
    cases hgiven : arguments.format with
    | none => rw [hsame.format hgiven]
    | some name => rfl
  have hpool : (if arguments.hidePool then some false else file.showPool) =
      if arguments.hidePool then some false else other.showPool := by
    cases hgiven : arguments.hidePool with
    | false => rw [hsame.showPool hgiven]
    | true => rfl
  have hattributes : (if arguments.attributes then some true else file.showAttributes) =
      if arguments.attributes then some true else other.showAttributes := by
    cases hgiven : arguments.attributes with
    | false => rw [hsame.showAttributes hgiven]
    | true => rfl
  rw [applyTo, applyTo, hpath, hformat, hpool, hattributes, hsame.showMembers]

/-- The command line gives no setting. -/
structure Silent (arguments : DumpArguments) : Prop where
  classPath : arguments.classPath = none
  format : arguments.format = none
  hidePool : arguments.hidePool = false
  attributes : arguments.attributes = false

theorem Silent.applyTo_eq (hsilent : Silent arguments) (file : FileSettings) : arguments.applyTo file = file := by
  rw [applyTo, hsilent.classPath, hsilent.format, hsilent.hidePool, hsilent.attributes]
  rfl

/-- The settings are those of the command line, those of the file where it gives none, and the defaults where neither
does; they stand exactly if there is a path that can be one and the format, if there is one, is known. Otherwise the
first defect is reported, of a bad path, a bad format and a missing path. After the first examination the second one
fails for a missing path and nothing else. What the command line overrides has no influence, on the settings or on the
error. A silent command line leaves the settings of the file alone, which reports the same defects in the opposite
order. -/
theorem merge_verdict (arguments : DumpArguments) (file : FileSettings) :
    (∀ settings, arguments.merge file = .ok settings ↔ Merged arguments file settings) ∧
    ((∃ settings, arguments.merge file = .ok settings) ↔
      (∃ path, givenPath arguments file = some path ∧ path ≠ "" ∧ '\x00' ∉ path.toList) ∧
        ∀ name, givenFormat arguments file = some name → name = "text" ∨ name = "json") ∧
    (∀ cause, arguments.merge file = .error cause ↔
      FirstDefect [PathDefect (givenPath arguments file), FormatDefect (givenFormat arguments file),
        PathMissing (givenPath arguments file)] cause) ∧
    ((arguments.applyTo file).check = .ok () →
      ∀ cause, (arguments.applyTo file).toSettings = .error cause ↔ PathMissing (givenPath arguments file) cause) ∧
    (∀ other, Overrides arguments file other → arguments.merge file = arguments.merge other) ∧
    (Silent arguments → ∀ settings, arguments.merge file = .ok settings ↔ file.toSettings = .ok settings) ∧
    ∀ cause, file.toSettings = .error cause ↔
      FirstDefect [PathMissing file.classPath, FormatDefect file.format, PathDefect file.classPath] cause := by
  refine ⟨fun settings => merge_eq_ok_iff, exists_merge_eq_ok_iff, fails_merge arguments file, fun hcheck cause => ?_,
    fun other hsame => ?_, fun hsilent settings => ?_, FileSettings.fails_toSettings file⟩
  · rw [FileSettings.fails_toSettings_of_check hcheck cause, firstDefect_singleton_iff, classPath_applyTo]
  · rw [merge, merge, applyTo_of_overrides hsame]
  · rw [merge_eq_ok_iff_toSettings, hsilent.applyTo_eq]

/-- Of two bad values, the one that is reported depends on who examines them. -/
example :
    empty.merge { FileSettings.empty with classPath := some "", format := some "xml" } =
        .error (.invalid classPathField "" .emptyPath) ∧
      FileSettings.toSettings { FileSettings.empty with classPath := some "", format := some "xml" } =
        .error (.invalid formatField "xml" (.notOneOf ["text", "json"])) := ⟨rfl, rfl⟩

end DumpArguments

end ClassInspect
