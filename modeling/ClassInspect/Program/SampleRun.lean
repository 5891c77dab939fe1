import ClassInspect.CommandLine.Sample
import ClassInspect.Program.Outcome
import ClassInspect.Sample
import ClassInspect.Text.Quoted

/-!
# The sample program as a command

Runs the sample on standard output and notes on standard error what it was asked for and what it observed.
-/

namespace ClassInspect.SampleRun

def event (level : Log.Level) (message : String) : Log.Event := { level, origin := .library, message, fields := [] }

def argumentsText (arguments : SampleArguments) : String :=
  let rest := ", ".intercalate (arguments.rest.map Quoted.text)
  s!"CliConfig \x7b verbose: {arguments.verbose}, json_logs: {arguments.jsonLogs}, args: [{rest}] \x7d"

/-- What is noted before the run. -/
def requestEvents (arguments : SampleArguments) : List Log.Event :=
  event .debug s!"CLI config: {argumentsText arguments}" ::
    if arguments.rest.isEmpty then []
    else [event .debug s!"Ignoring {arguments.rest.length} extra argument(s)"]

/-- Runs the program with the arguments behind its name. JSON lines are not affected by `--verbose`. -/
def run (surroundings : Surroundings) (arguments : List String) : ProgramOutcome :=
  let arguments := SampleArguments.parse arguments
  let shape := if arguments.jsonLogs then Log.Shape.json else .compact
  let filter := Log.Filter.choose surroundings.logRequest (arguments.verbose && !arguments.jsonLogs)
  let outcome := Sample.run .stub surroundings.output
  let before := requestEvents arguments ++ [Sample.comparisonEvent]
  match outcome.result with
  | .ok report =>
    { exitCode := 0, output := outcome.output
      errors := logText shape filter (before ++ [event .debug s!"Run report: {report.json.compact}"]) }
  | .error error =>
    { exitCode := error.exitCode, output := outcome.output
      errors := logText shape filter (before ++ [event .error s!"❌ Sample run failed: {error.message}"]) }

end ClassInspect.SampleRun
