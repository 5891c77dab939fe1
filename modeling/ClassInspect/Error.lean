import ClassInspect.ClassFile.Fault
import ClassInspect.Host.Failure
import ClassInspect.Json.Data

/-!
# Errors

An error tells what went wrong: the settings could not be established, the class data could not be decoded, a
report could not be serialized, or the host failed. The exit code sets the first two apart.
-/

namespace ClassInspect

/-- Why a value of a setting is refused. -/
inductive Refusal where
  | emptyPath
  | nulInPath
  | blank
  | notOneOf (allowed : List String)
deriving Repr, DecidableEq

def Refusal.text : Refusal → String
  | emptyPath => "Path cannot be empty"
  | nulInPath => "Path contains null bytes"
  | blank => "Value cannot be empty or whitespace-only"
  | notOneOf allowed => "Unsupported value. Valid values: " ++ ", ".intercalate allowed

/-- Why the settings could not be established. -/
inductive SettingsError where
  /-- The configuration text is not a TOML document of the expected shape. -/
  | malformed
  | unreadable (path : String) (failure : HostFailure)
  | invalid (field value : String) (reason : Refusal)
  | missing (field : String)
deriving Repr, DecidableEq

def SettingsError.message : SettingsError → String
  | malformed => "TOML parsing error"
  | unreadable path failure => s!"Configuration error: cannot read config file '{path}': {failure.message}"
  | invalid field value reason => s!"Invalid value '{value}' for {field}: {reason.text}"
  | missing field => s!"Missing required configuration: {field}"

inductive Error where
  | host (failure : HostFailure)
  | settings (cause : SettingsError)
  | decoding (fault : Fault)
  | serialization (failure : SerialFailure)
deriving Repr, DecidableEq

namespace Error

def message : Error → String
  | host failure => "IO error: " ++ failure.message
  | settings cause => cause.message
  | decoding fault => fault.message
  | serialization failure => "Serialization error: " ++ failure.message

def isSettings : Error → Bool
  | settings _ => true
  | _ => false

def isDecoding : Error → Bool
  | decoding _ => true
  | _ => false

def exitCode : Error → Nat
  | host _ | serialization _ => 1
  | settings _ => 2
  | decoding _ => 3

end Error

end ClassInspect
