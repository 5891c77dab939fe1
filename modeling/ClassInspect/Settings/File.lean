import ClassInspect.Host.Directory
import ClassInspect.Settings.Basic
import ClassInspect.Settings.Substitution
import ClassInspect.Toml.Document

/-!
# Settings from a configuration file

A configuration is a TOML document with a section `input` and a section `output`. Every setting may be
left out, unknown keys are ignored, and a value of another type is refused. Placeholders of environment
variables are replaced in the text before it is read.
-/

namespace ClassInspect

/-- The settings that a configuration file gives. -/
structure FileSettings where
  classPath : Option String
  format : Option String
  showPool : Option Bool
  showMembers : Option Bool
  showAttributes : Option Bool
deriving Repr, DecidableEq

namespace FileSettings

def empty : FileSettings :=
  { classPath := none, format := none, showPool := none, showMembers := none, showAttributes := none }

/-- The values of the named settings of a section. A section is a table, or an array with the values in the
order of the names, of which none may be missing; a date in its place has none of the settings. -/
def sectionValues (names : List String) : Toml.Value → Option (List (Option Toml.Value))
  | .table _ entries => some (names.map fun name => entries.lookup name)
  | .array items | .tables items =>
    if items.length < names.length then none else some ((items.take names.length).map some)
  | .dateTime => some (names.map fun _ => none)
  | _ => none

def text? : Option Toml.Value → Option (Option String)
  | none => some none
  | some (.string text) => some (some text)
  | some _ => none

def truth? : Option Toml.Value → Option (Option Bool)
  | none => some none
  | some (.boolean value) => some (some value)
  | some _ => none

/-- The setting of the section `input`. -/
def readInput (settings : FileSettings) : Option Toml.Value → Option FileSettings
  | none => some settings
  | some input => do
    match ← sectionValues ["class_path"] input with
    | [classPath] => return { settings with classPath := ← text? classPath }
    | _ => none

/-- The settings of the section `output`. -/
def readOutput (settings : FileSettings) : Option Toml.Value → Option FileSettings
  | none => some settings
  | some output => do
    match ← sectionValues ["format", "show_constant_pool", "show_members", "show_attributes"] output with
    | [format, showPool, showMembers, showAttributes] =>
      return { settings with
        format := ← text? format, showPool := ← truth? showPool, showMembers := ← truth? showMembers
        showAttributes := ← truth? showAttributes }
    | _ => none

def ofTable (table : Toml.Table) : Option FileSettings := do
  let settings ← empty.readInput (table.get? "input")
  settings.readOutput (table.get? "output")

/-- Reads a configuration text. -/
def ofText (environment : Environment) (text : String) : Except SettingsError FileSettings :=
  match (Toml.parse (Substitution.replace environment text)).bind ofTable with
  | some settings => .ok settings
  | none => .error .malformed

/-- Reads the configuration file at a path. -/
def load (environment : Environment) (read : String → Except HostFailure Bytes) (path : String) :
    Except SettingsError FileSettings :=
  match read path >>= textOfBytes with
  | .ok text => ofText environment text
  | .error failure => .error (.unreadable path failure)

/-- The format that the file names; text if it names none. -/
def outputFormat (settings : FileSettings) : Except SettingsError OutputFormat :=
  match settings.format with
  | some name => OutputFormat.ofName Settings.formatField name
  | none => .ok .text

def poolShown (settings : FileSettings) : Bool := settings.showPool.getD true

def membersShown (settings : FileSettings) : Bool := settings.showMembers.getD true

def attributesShown (settings : FileSettings) : Bool := settings.showAttributes.getD false

/-- What is given has to be valid; nothing has to be given. -/
def check (settings : FileSettings) : Except SettingsError Unit := do
  if let some path := settings.classPath then Check.path Settings.classPathField path
  let _ ← settings.outputFormat

/-- The settings of a report by the file alone. -/
def toSettings (file : FileSettings) : Except SettingsError Settings := do
  let classPath ← Check.required Settings.classPathField file.classPath
  let format ← file.outputFormat
  let settings : Settings :=
    { classPath, format, showPool := file.poolShown, showMembers := file.membersShown
      showAttributes := file.attributesShown }
  settings.check
  return settings

end FileSettings

end ClassInspect
