import ClassInspect.ClassFile.Reader
import ClassInspect.Host.Sink
import ClassInspect.Log.Event
import ClassInspect.Report.Data
import ClassInspect.Report.Text

/-!
# Reporting on a class file

Reads a class file, renders the report in full and only then writes it: a file that cannot be read or
decoded leaves the sink untouched.
-/

namespace ClassInspect

namespace Dump

/-- The report in the format of the settings. -/
def render (file : ClassFile) (summary : ClassSummary) (settings : Settings) : Except SerialFailure String :=
  match settings.format with
  | .text => .ok (Report.text file.pool summary settings)
  | .json => Report.serialized summary settings

/-- The class of a byte string with its summary. -/
def decode (data : Bytes) : Except Fault (ClassFile × ClassSummary) := do
  let file ← ClassFile.parse data
  return (file, ← file.summary)

/-- The class at a path with its summary. -/
def load (read : String → Except HostFailure Bytes) (path : String) : Except Error (ClassFile × ClassSummary) :=
  match read path with
  | .error failure => .error (.host failure)
  | .ok data => (decode data).mapError .decoding

/-- What became of a report: its summary or an error, and the bytes that the sink took. -/
structure Outcome where
  result : Except Error ClassSummary
  output : Bytes

/-- Writes the report of a class to a sink. -/
def run (settings : Settings) (read : String → Except HostFailure Bytes) (sink : Sink) : Outcome :=
  match load read settings.classPath with
  | .error error => ⟨.error error, []⟩
  | .ok (file, summary) =>
    match render file summary settings with
    | .error failure => ⟨.error (.serialization failure), []⟩
    | .ok report =>
      let written := sink.write report.toUTF8.data.toList
      ⟨(written.outcome.mapError .host).map fun _ => summary, written.taken⟩

def event (level : Log.Level) (message : String) : Log.Event := { level, origin := .library, message, fields := [] }

/-- What is noted while class data is decoded. -/
def decodingEvents (data : Bytes) : List Log.Event :=
  let slots := match ClassFile.slotsRead? data with
    | some slots => [event .debug s!"Read constant pool with {slots} slots"]
    | none => []
  let trailing := match ClassFile.trailing? data with
    | none | some 0 => []
    | some bytes => [event .warn s!"{bytes} trailing bytes after class structure"]
  slots ++ trailing

def summaryEvent (summary : ClassSummary) : Log.Event :=
  event .info (s!"Parsed {summary.name} ({summary.pool.length} constants, " ++
    s!"{summary.fields.length} fields, {summary.methods.length} methods)")

/-- What is noted while a report is made. -/
def events (settings : Settings) (read : String → Except HostFailure Bytes) : List Log.Event :=
  let decoding := match read settings.classPath with
    | .ok data => decodingEvents data
    | .error _ => []
  let summary := match load read settings.classPath with
    | .ok (_, summary) => [summaryEvent summary]
    | .error _ => []
  event .debug s!"Loading class file {settings.classPath}" :: decoding ++ summary

end Dump

end ClassInspect
