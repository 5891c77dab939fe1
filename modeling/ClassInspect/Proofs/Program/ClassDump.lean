import ClassInspect.Program.ClassDump
import ClassInspect.Proofs.Dump

/-!
# The exit code tells the stage that failed

A script that runs the report program sees its exit code and nothing else. The stages follow each other: the settings are
established, the class file is read, it is decoded, and the report is written. The first stage that fails ends the run,
and its code is told apart from the others, although files are read in two of the stages: a configuration file that
cannot be read is a matter of the settings, and a class file that cannot be read is not.
-/

namespace ClassInspect.ClassDump

variable (surroundings : Surroundings) (arguments : DumpArguments)

/-! ### Stages -/

/-- The settings that the arguments lead to in these surroundings. -/
def settingsOf : Except SettingsError Settings := arguments.resolve surroundings.environment surroundings.read

/-- The settings that the arguments are merged with: those of the configuration file if one is named. -/
inductive Supplied : FileSettings → Prop where
  | without (hconfig : arguments.config = none) : Supplied FileSettings.empty
  | named {path text : String} {file : FileSettings} (hconfig : arguments.config = some path)
    (hread : (surroundings.read path >>= textOfBytes) = .ok text)
    (htext : FileSettings.ofText surroundings.environment text = .ok file) : Supplied file

/-- What can be wrong with the settings: the named file cannot be read or is not text, its text is no configuration, or
a value is bad or missing. -/
inductive SettingsDefect : SettingsError → Prop where
  | unreadable {path : String} {failure : HostFailure} (hconfig : arguments.config = some path)
    (hread : (surroundings.read path >>= textOfBytes) = .error failure) : SettingsDefect (.unreadable path failure)
  | malformed {path text : String} (hconfig : arguments.config = some path)
    (hread : (surroundings.read path >>= textOfBytes) = .ok text)
    (htext : (Toml.parse (Substitution.replace surroundings.environment text)).bind FileSettings.ofTable = none) :
    SettingsDefect .malformed
  | value {file : FileSettings} {cause : SettingsError} (hfile : Supplied surroundings arguments file)
    (hmerge : arguments.merge file = .error cause) : SettingsDefect cause

def SettingsFail : Prop := ∃ cause, settingsOf surroundings arguments = .error cause

/-- The settings stand, the class file can be read, and it does not parse or has no summary. -/
def DecodingFails : Prop :=
  ∃ settings data, settingsOf surroundings arguments = .ok settings ∧ surroundings.read settings.classPath = .ok data ∧
    ((∃ fault, ClassFile.parse data = .error fault) ∨
      ∃ file fault, ClassFile.parse data = .ok file ∧ file.summary = .error fault)

/-- The settings stand, and the class file cannot be read or, with its summary made, standard output fails: it refuses
an offer of what is left of the report, takes nothing of one, or takes all and fails at the flush. -/
def HostFails : Prop :=
  ∃ settings, settingsOf surroundings arguments = .ok settings ∧
    ((∃ failure, surroundings.read settings.classPath = .error failure) ∨
      ∃ data file summary taken failure, surroundings.read settings.classPath = .ok data ∧
        ClassFile.parse data = .ok file ∧ file.summary = .ok summary ∧
        surroundings.output.Fails (Dump.reportBytes file summary settings).length taken failure)

variable {surroundings : Surroundings} {arguments : DumpArguments}

/-! ### The settings -/

theorem settingsOf_of_none (hconfig : arguments.config = none) :
    settingsOf surroundings arguments = arguments.merge FileSettings.empty := by
  rw [settingsOf, DumpArguments.resolve, hconfig]

theorem settingsOf_of_some {path : String} (hconfig : arguments.config = some path) :
    settingsOf surroundings arguments =
      FileSettings.load surroundings.environment surroundings.read path >>= arguments.merge := by
  rw [settingsOf, DumpArguments.resolve, hconfig]

theorem load_of_unreadable {environment : Environment} {read : String → Except HostFailure Bytes} {path : String}
    {failure : HostFailure} (hread : (read path >>= textOfBytes) = .error failure) :
    FileSettings.load environment read path = .error (.unreadable path failure) := by
  rw [FileSettings.load, hread]

theorem load_of_text {environment : Environment} {read : String → Except HostFailure Bytes} {path text : String}
    (hread : (read path >>= textOfBytes) = .ok text) :
    FileSettings.load environment read path = FileSettings.ofText environment text := by
  rw [FileSettings.load, hread]

theorem ofText_eq_error_iff {environment : Environment} {text : String} {cause : SettingsError} :
    FileSettings.ofText environment text = .error cause ↔
      cause = .malformed ∧ (Toml.parse (Substitution.replace environment text)).bind FileSettings.ofTable = none := by
  rw [FileSettings.ofText]
  split
  · next file hfile => simp [hfile]
  · next hnone => simp [hnone, eq_comm]

theorem settingsOf_of_supplied {file : FileSettings} (hfile : Supplied surroundings arguments file) :
    settingsOf surroundings arguments = arguments.merge file := by
  cases hfile with
  | without hconfig => exact settingsOf_of_none hconfig
  | named hconfig hread htext =>
    rw [settingsOf_of_some hconfig, load_of_text hread, htext]
    rfl

/-- The settings fail for the stated defects and for no others. -/
theorem settingsOf_eq_error_iff {cause : SettingsError} :
    settingsOf surroundings arguments = .error cause ↔ SettingsDefect surroundings arguments cause := by
  apply Iff.intro
  · intro hcause
    cases hconfig : arguments.config with
    | none =>
      rw [settingsOf_of_none hconfig] at hcause
      exact .value (.without hconfig) hcause
    | some path =>
      cases hread : surroundings.read path >>= textOfBytes with
      | error failure =>
        rw [settingsOf_of_some hconfig, load_of_unreadable hread] at hcause
        cases hcause
        exact .unreadable hconfig hread
      | ok text =>
        cases htext : FileSettings.ofText surroundings.environment text with
        | error own =>
          rw [settingsOf_of_some hconfig, load_of_text hread, htext] at hcause
          cases hcause
          obtain ⟨rfl, hnone⟩ := ofText_eq_error_iff.mp htext
          exact .malformed hconfig hread hnone
        | ok file =>
          have hfile := Supplied.named hconfig hread htext
          rw [settingsOf_of_supplied hfile] at hcause
          exact .value hfile hcause
  · intro hdefect
    cases hdefect with
    | unreadable hconfig hread =>
      rw [settingsOf_of_some hconfig, load_of_unreadable hread]
      rfl
    | malformed hconfig hread htext =>
      rw [settingsOf_of_some hconfig, load_of_text hread, ofText_eq_error_iff.mpr ⟨rfl, htext⟩]
      rfl
    | value hfile hmerge => rw [settingsOf_of_supplied hfile, hmerge]

/-! ### The run -/

theorem runArguments_of_settings_error {cause : SettingsError}
    (hsettings : settingsOf surroundings arguments = .error cause) :
    (runArguments surroundings arguments).exitCode = 2 ∧ (runArguments surroundings arguments).output = [] := by
  rw [settingsOf] at hsettings
  rw [runArguments, hsettings]
  exact ⟨rfl, rfl⟩

theorem runArguments_of_dump_ok {settings : Settings} {summary : ClassSummary}
    (hsettings : settingsOf surroundings arguments = .ok settings)
    (hresult : (Dump.run settings surroundings.read surroundings.output).result = .ok summary) :
    (runArguments surroundings arguments).exitCode = 0 := by
  rw [settingsOf] at hsettings
  simp only [runArguments, hsettings, report, hresult]

theorem runArguments_of_dump_error {settings : Settings} {error : Error}
    (hsettings : settingsOf surroundings arguments = .ok settings)
    (hresult : (Dump.run settings surroundings.read surroundings.output).result = .error error) :
    (runArguments surroundings arguments).exitCode = error.exitCode ∧
      (runArguments surroundings arguments).output =
        (Dump.run settings surroundings.read surroundings.output).output := by
  rw [settingsOf] at hsettings
  simp only [runArguments, hsettings, report, hresult]
  exact ⟨trivial, trivial⟩

theorem exitCode_of_settingsFail (hfail : SettingsFail surroundings arguments) :
    (runArguments surroundings arguments).exitCode = 2 ∧ (runArguments surroundings arguments).output = [] := by
  obtain ⟨cause, hsettings⟩ := hfail
  exact runArguments_of_settings_error hsettings

theorem exitCode_of_decodingFails (hfail : DecodingFails surroundings arguments) :
    (runArguments surroundings arguments).exitCode = 3 ∧ (runArguments surroundings arguments).output = [] := by
  obtain ⟨settings, data, hsettings, hread, hdecoding⟩ := hfail
  have hdecode : ∃ fault, Dump.decode data = .error fault := by
    rcases hdecoding with ⟨fault, hparse⟩ | ⟨file, fault, hparse, hsummary⟩
    · exact ⟨fault, Dump.decode_eq_error_iff.mpr (.inl hparse)⟩
    · exact ⟨fault, Dump.decode_eq_error_iff.mpr (.inr ⟨file, hparse, hsummary⟩)⟩
  obtain ⟨fault, hdecode⟩ := hdecode
  have hload := Dump.load_eq_error_iff.mpr (.inr ⟨data, fault, hread, hdecode, rfl⟩)
  have hdump := Dump.run_of_load_error hload surroundings.output
  have hrun := runArguments_of_dump_error hsettings (congrArg Dump.Outcome.result hdump)
  rw [hdump] at hrun
  exact hrun

theorem exitCode_of_hostFails (hfail : HostFails surroundings arguments) :
    (runArguments surroundings arguments).exitCode = 1 := by
  obtain ⟨settings, hsettings, hhost⟩ := hfail
  rcases hhost with ⟨failure, hread⟩ | ⟨data, file, summary, taken, failure, hread, hparse, hsummary, hfails⟩
  · have hload := Dump.load_eq_error_iff.mpr (.inl ⟨failure, hread, rfl⟩)
    have hdump := Dump.run_of_load_error hload surroundings.output
    exact (runArguments_of_dump_error hsettings (congrArg Dump.Outcome.result hdump)).1
  · have hload := Dump.load_eq_ok_iff.mpr ⟨data, hread, hparse, hsummary⟩
    have hdump := Dump.run_of_fails hload hfails
    exact (runArguments_of_dump_error hsettings (congrArg Dump.Outcome.result hdump)).1

/-- A run in which no stage fails delivers the report. -/
theorem exitCode_of_no_failure (hsettings : ¬ SettingsFail surroundings arguments)
    (hdecoding : ¬ DecodingFails surroundings arguments) (hhost : ¬ HostFails surroundings arguments) :
    (runArguments surroundings arguments).exitCode = 0 := by
  cases hown : settingsOf surroundings arguments with
  | error cause => exact absurd ⟨cause, hown⟩ hsettings
  | ok settings =>
    cases hread : surroundings.read settings.classPath with
    | error failure => exact absurd ⟨settings, hown, .inl ⟨failure, hread⟩⟩ hhost
    | ok data =>
      cases hparse : ClassFile.parse data with
      | error fault => exact absurd ⟨settings, data, hown, hread, .inl ⟨fault, hparse⟩⟩ hdecoding
      | ok file =>
        cases hsummary : file.summary with
        | error fault => exact absurd ⟨settings, data, hown, hread, .inr ⟨file, fault, hparse, hsummary⟩⟩ hdecoding
        | ok summary =>
          have hload := Dump.load_eq_ok_iff.mpr ⟨data, hread, hparse, hsummary⟩
          rcases Dump.run_ways hload surroundings.output with ⟨_, hdump⟩ | ⟨taken, failure, hfails, _⟩
          · exact runArguments_of_dump_ok hown (congrArg Dump.Outcome.result hdump)
          · have hfailed : HostFails surroundings arguments :=
              ⟨settings, hown, .inr ⟨data, file, summary, taken, failure, hread, hparse, hsummary, hfails⟩⟩
            exact absurd hfailed hhost

/-- At most one stage fails in a run, and the code is that of the stage. -/
theorem exitCode_cases (surroundings : Surroundings) (arguments : DumpArguments) :
    (SettingsFail surroundings arguments ∧ ¬ DecodingFails surroundings arguments ∧ ¬ HostFails surroundings arguments ∧
      (runArguments surroundings arguments).exitCode = 2 ∧ (runArguments surroundings arguments).output = []) ∨
    (¬ SettingsFail surroundings arguments ∧ DecodingFails surroundings arguments ∧ ¬ HostFails surroundings arguments ∧
      (runArguments surroundings arguments).exitCode = 3 ∧ (runArguments surroundings arguments).output = []) ∨
    (¬ SettingsFail surroundings arguments ∧ ¬ DecodingFails surroundings arguments ∧ HostFails surroundings arguments ∧
      (runArguments surroundings arguments).exitCode = 1) ∨
    (¬ SettingsFail surroundings arguments ∧ ¬ DecodingFails surroundings arguments ∧
      ¬ HostFails surroundings arguments ∧ (runArguments surroundings arguments).exitCode = 0) := by
  -- the codes differ, so a run that ends with the code of one stage has passed the others
  by_cases hsettings : SettingsFail surroundings arguments
  · have hcode := exitCode_of_settingsFail hsettings
    have hdecoding : ¬ DecodingFails surroundings arguments := fun hfail => by
      have := exitCode_of_decodingFails hfail
      omega
    have hhost : ¬ HostFails surroundings arguments := fun hfail => by
      have := exitCode_of_hostFails hfail
      omega
    exact .inl ⟨hsettings, hdecoding, hhost, hcode⟩
  · by_cases hdecoding : DecodingFails surroundings arguments
    · have hcode := exitCode_of_decodingFails hdecoding
      have hhost : ¬ HostFails surroundings arguments := fun hfail => by
        have := exitCode_of_hostFails hfail
        omega
      exact .inr (.inl ⟨hsettings, hdecoding, hhost, hcode⟩)
    · by_cases hhost : HostFails surroundings arguments
      · exact .inr (.inr (.inl ⟨hsettings, hdecoding, hhost, exitCode_of_hostFails hhost⟩))
      · exact .inr (.inr (.inr ⟨hsettings, hdecoding, hhost, exitCode_of_no_failure hsettings hdecoding hhost⟩))

/-- Once the command line is understood, the code is 2 exactly if the settings fail, for whichever of the possible
defects; 3 exactly if the class file is there and cannot be decoded; 1 exactly if the class file cannot be read or the
report cannot be delivered; and 0 exactly if no stage fails. Under the codes 2 and 3 nothing is written to standard
output. -/
theorem exitCode_tells_stage (surroundings : Surroundings) (arguments : DumpArguments) :
    (∀ line, DumpArguments.parse line = .ok arguments → run surroundings line = runArguments surroundings arguments) ∧
    ((runArguments surroundings arguments).exitCode = 2 ↔ SettingsFail surroundings arguments) ∧
    (∀ cause, settingsOf surroundings arguments = .error cause ↔ SettingsDefect surroundings arguments cause) ∧
    ((runArguments surroundings arguments).exitCode = 3 ↔ DecodingFails surroundings arguments) ∧
    ((runArguments surroundings arguments).exitCode = 1 ↔ HostFails surroundings arguments) ∧
    ((runArguments surroundings arguments).exitCode = 0 ↔
      ¬ SettingsFail surroundings arguments ∧ ¬ DecodingFails surroundings arguments ∧
        ¬ HostFails surroundings arguments) ∧
    ((runArguments surroundings arguments).exitCode = 2 ∨ (runArguments surroundings arguments).exitCode = 3 →
      (runArguments surroundings arguments).output = []) := by
  refine ⟨fun line hline => ?_, ?_, fun cause => settingsOf_eq_error_iff, ?_⟩
  · rw [run, hline]
  all_goals rcases exitCode_cases surroundings arguments with hstage | hstage | hstage | hstage <;> simp [hstage]

end ClassInspect.ClassDump
