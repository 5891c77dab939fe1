import ClassInspect.CommandLine.Dump
import ClassInspect.Dump
import ClassInspect.Program.Outcome

/-!
# The report program

Reads the command line, establishes the settings and writes the report to standard output. The exit code
tells the stage that failed: 2 for the command line or the settings, 3 for the class data, 1 for the host.
-/

namespace ClassInspect.ClassDump

def event (level : Log.Level) (message : String) : Log.Event := { level, origin := .command, message, fields := [] }

/-- What is noted while the settings are established. -/
def configEvents (arguments : DumpArguments) : List Log.Event :=
  match arguments.config with
  | some path => [Dump.event .info s!"📁 Loading configuration from: {path}"]
  | none => []

def formatName : OutputFormat → String
  | .text => "Text"
  | .json => "Json"

def settingsText (settings : Settings) : String :=
  s!"DumpSettings \x7b class_path: {Quoted.text settings.classPath}, format: {formatName settings.format}, " ++
    s!"show_constant_pool: {settings.showPool}, show_members: {settings.showMembers}, " ++
    s!"show_attributes: {settings.showAttributes} \x7d"

/-- The outcome for the settings that a command line asks for. -/
def report (surroundings : Surroundings) (filter : Log.Filter) (arguments : DumpArguments) (settings : Settings) :
    ProgramOutcome :=
  let log := logText .compact filter
  let before := configEvents arguments ++ event .debug s!"Dump settings: {settingsText settings}" ::
    Dump.events settings surroundings.read
  let outcome := Dump.run settings surroundings.read surroundings.output
  match outcome.result with
  | .ok _ => { exitCode := 0, output := outcome.output, errors := log before }
  | .error error =>
    let failure := event .error s!"❌ Failed to dump '{settings.classPath}': {error.message}"
    { exitCode := error.exitCode, output := outcome.output
      errors := log (before ++ [failure]) ++ s!"❌ {settings.classPath}: {error.message}\n" }

/-- The outcome for arguments that were understood. -/
def runArguments (surroundings : Surroundings) (arguments : DumpArguments) : ProgramOutcome :=
  let filter := Log.Filter.choose surroundings.logRequest arguments.verbose
  match arguments.resolve surroundings.environment surroundings.read with
  | .ok settings => report surroundings filter arguments settings
  | .error cause =>
    let error := Error.settings cause
    let failure := event .error s!"❌ Configuration validation failed: {error.message}"
    { exitCode := error.exitCode, output := []
      errors := logText .compact filter (configEvents arguments ++ [failure]) ++ s!"❌ {error.message}\n" }

/-- Runs the program with the arguments behind its name. -/
def run (surroundings : Surroundings) (arguments : List String) : ProgramOutcome :=
  match DumpArguments.parse arguments with
  | .ok arguments => runArguments surroundings arguments
  | .error .help => { exitCode := 0, output := DumpArguments.helpText.toUTF8.data.toList, errors := "" }
  | .error (.refused error) => { exitCode := 2, output := [], errors := error.text }

end ClassInspect.ClassDump
