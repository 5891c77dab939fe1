import ClassInspect.Program.ClassDump
import ClassInspect.Program.SampleRun

/-!
# The commands

Under a name that ends in `sample` the executable is the sample program, and otherwise the report program.
Both are pure; here the files and variables that they can ask for are fetched beforehand, and what they
leave behind is written out.
-/

namespace ClassInspect.Command

def failureOf (error : IO.Error) : HostFailure :=
  match error with
  | .noFileOrDirectory .. => .notFound
  | .inappropriateType _ 20 _ => .notDirectory
  | .inappropriateType _ 21 _ => .isDirectory
  | .invalidArgument _ 36 _ => .nameTooLong
  | other => .other (toString other)

def readFile (path : String) : IO (Except HostFailure Bytes) := do
  if path.contains '\x00' then return .error .nulInPath
  try
    return .ok (← IO.FS.readBinFile path).data.toList
  catch error => return .error (failureOf error)

/-- What was fetched, by name; anything else counts as missing. -/
def fetched {α : Type} (known : List (String × α)) (name : String) : Option α := known.lookup name

def readFetched (files : List (String × Except HostFailure Bytes)) (path : String) : Except HostFailure Bytes :=
  (fetched files path).getD (.error .notFound)

/-- Fetches the variables that the text of a configuration file names. -/
def fetchVariables (config : Except HostFailure Bytes) : IO (List (String × String)) := do
  match config >>= textOfBytes with
  | .error _ => return []
  | .ok text =>
    let values ← (Substitution.names text).mapM fun name => do return (← IO.getEnv name).map (name, ·)
    return values.filterMap id

/-- Fetches all that the report program can ask for. -/
def surroundingsOf (arguments : List String) : IO Surroundings := do
  let logRequest ← IO.getEnv "RUST_LOG"
  let empty : Surroundings := { environment := fun _ => none, read := readFetched [], logRequest, output := .unlimited }
  match DumpArguments.parse arguments with
  | .error _ => return empty
  | .ok parsed =>
    let files ← match parsed.config with
      | some path => do pure [(path, ← readFile path)]
      | none => pure []
    let values ← match files with
      | (_, config) :: _ => fetchVariables config
      | [] => pure []
    let known := { empty with environment := fetched values, read := readFetched files }
    match parsed.resolve known.environment known.read with
    | .error _ => return known
    | .ok settings =>
      let path := settings.classPath
      return { known with read := readFetched (files ++ [(path, ← readFile path)]) }

/-- Writes out what a program leaves behind. If standard output refuses, the program is asked again what it
leaves behind in that case. -/
def finish (program : Sink → ProgramOutcome) : IO UInt32 := do
  let outcome := program .unlimited
  let refused ← try
      let stdout ← IO.getStdout
      stdout.write ⟨outcome.output.toArray⟩
      stdout.flush
      pure none
    catch error => pure (some (failureOf error))
  let outcome := match refused with
    | none => outcome
    | some failure => program (.limited 0 failure (.error failure))
  (← IO.getStderr).putStr outcome.errors
  return UInt32.ofNat outcome.exitCode

end ClassInspect.Command

open ClassInspect in
def main (arguments : List String) : IO UInt32 := do
  let name := ((← IO.appPath).fileStem).getD ""
  if name.endsWith "sample" then
    let logRequest ← IO.getEnv "RUST_LOG"
    Command.finish fun output =>
      SampleRun.run { environment := fun _ => none, read := fun _ => .error .notFound, logRequest, output } arguments
  else
    let surroundings ← Command.surroundingsOf arguments
    Command.finish fun output => ClassDump.run { surroundings with output } arguments
