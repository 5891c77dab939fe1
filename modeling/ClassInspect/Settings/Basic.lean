import ClassInspect.Error
import ClassInspect.Text.WhiteSpace

/-!
# Settings of a report

What a report is about and how it is written, and the checks that a value from a file or a command line
has to pass.
-/

namespace ClassInspect

namespace Check

def path (field value : String) : Except SettingsError Unit :=
  if value.isEmpty then .error (.invalid field value .emptyPath)
  else if value.contains '\x00' then .error (.invalid field value .nulInPath)
  else .ok ()

def nonBlank (field value : String) : Except SettingsError Unit :=
  if isBlank value then .error (.invalid field value .blank) else .ok ()

def oneOf (field value : String) (allowed : List String) : Except SettingsError Unit :=
  if allowed.contains value then .ok () else .error (.invalid field value (.notOneOf allowed))

def required {α : Type} (field : String) : Option α → Except SettingsError α
  | some value => .ok value
  | none => .error (.missing field)

end Check

/-- How a report is written. -/
inductive OutputFormat where
  | text
  | json
deriving Repr, DecidableEq

namespace OutputFormat

def name : OutputFormat → String
  | text => "text"
  | json => "json"

def all : List OutputFormat := [text, json]

/-- The format with this name; the field is the one to blame for any other name. -/
def ofName (field name : String) : Except SettingsError OutputFormat := do
  Check.nonBlank field name
  Check.oneOf field name (all.map OutputFormat.name)
  return if name = "json" then json else text

end OutputFormat

/-- The class file of a report, its format and the sections to show. -/
structure Settings where
  classPath : String
  format : OutputFormat
  showPool : Bool
  showMembers : Bool
  showAttributes : Bool
deriving Repr, DecidableEq

namespace Settings

/-- The names of the settings in files and messages. -/
def classPathField : String := "input.class_path"

def formatField : String := "output.format"

def check (settings : Settings) : Except SettingsError Unit := Check.path classPathField settings.classPath

end Settings

end ClassInspect
