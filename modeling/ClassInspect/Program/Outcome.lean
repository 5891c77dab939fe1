import ClassInspect.Bytes.BigEndian
import ClassInspect.Host.Directory
import ClassInspect.Host.Environment
import ClassInspect.Host.Sink
import ClassInspect.Log.Event

/-!
# Programs and what they leave behind

A program gets its arguments and a `Surroundings`, and leaves an exit code, the bytes that standard output
took, and the text on standard error.
-/

namespace ClassInspect

/-- What a program finds around itself. -/
structure Surroundings where
  environment : Environment
  read : String → Except HostFailure Bytes
  /-- The level of detail that the environment asks the log for. -/
  logRequest : Option String
  output : Sink

/-- What a program leaves behind. -/
structure ProgramOutcome where
  exitCode : Nat
  output : Bytes
  errors : String

/-- The lines of the events that a filter shows. -/
def logText (shape : Log.Shape) (filter : Log.Filter) (events : List Log.Event) : String :=
  String.join ((events.filter filter.shows).map (Log.line shape))

end ClassInspect
