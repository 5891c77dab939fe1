import ClassInspect.ClassFile.Layout
import ClassInspect.Dump
import ClassInspect.Proofs.ClassFile.Summary
import ClassInspect.Proofs.Host.Sink
import ClassInspect.Proofs.Report.Serialization

/-!
# A report is written whole, in part or not at all

Everything that can be wrong with a class file comes to light before the first byte is written, and a summary can always
be serialized. A failed decoding therefore leaves the sink untouched, and once there is a report only the sink decides what
becomes of it. The format and the sections of the report have no say in whether a dump succeeds.
-/

namespace ClassInspect.Dump

variable {read : String → Except HostFailure Bytes} {path : String}

theorem decode_eq_ok_iff {data : Bytes} {file : ClassFile} {summary : ClassSummary} :
    decode data = .ok (file, summary) ↔ ClassFile.parse data = .ok file ∧ file.summary = .ok summary := by
  simp only [decode, bind_eq_ok_iff, pure_eq_ok_iff, Prod.mk.injEq]
  apply Iff.intro
  · intro hdecode
    obtain ⟨parsed, hparse, resolved, hsummary, rfl, rfl⟩ := hdecode
    exact ⟨hparse, hsummary⟩
  · intro hdecode
    exact ⟨file, hdecode.1, summary, hdecode.2, rfl, rfl⟩

theorem decode_eq_error_iff {data : Bytes} {fault : Fault} :
    decode data = .error fault ↔
      ClassFile.parse data = .error fault ∨ ∃ file, ClassFile.parse data = .ok file ∧ file.summary = .error fault := by
  rw [decode]
  cases hparse : ClassFile.parse data with
  | error own => simp [bind, Except.bind]
  | ok file => cases hsummary : file.summary <;> simp [bind, Except.bind, pure, Except.pure, hsummary]

theorem load_eq_ok_iff {file : ClassFile} {summary : ClassSummary} :
    load read path = .ok (file, summary) ↔
      ∃ data, read path = .ok data ∧ ClassFile.parse data = .ok file ∧ file.summary = .ok summary := by
  simp only [← decode_eq_ok_iff]
  rw [load]
  cases hread : read path with
  | error failure => simp
  | ok data => cases hdecode : decode data <;> simp [Except.mapError, hdecode]

theorem load_eq_error_iff {error : Error} :
    load read path = .error error ↔
      (∃ failure, read path = .error failure ∧ error = .host failure) ∨
        ∃ data fault, read path = .ok data ∧ decode data = .error fault ∧ error = .decoding fault := by
  rw [load]
  cases hread : read path with
  | error failure => simp [eq_comm]
  | ok data => cases hdecode : decode data <;> simp [Except.mapError, hdecode, eq_comm]

/-- The text of the report in the format of the settings. -/
def reportText (file : ClassFile) (summary : ClassSummary) (settings : Settings) : String :=
  match settings.format with
  | .text => Report.text file.pool summary settings
  | .json => Report.json summary settings

def reportBytes (file : ClassFile) (summary : ClassSummary) (settings : Settings) : Bytes :=
  (reportText file summary settings).toUTF8.data.toList

theorem render_eq (file : ClassFile) (summary : ClassSummary) (settings : Settings) :
    render file summary settings = .ok (reportText file summary settings) := by
  cases hformat : settings.format with
  | text => rw [render, reportText, hformat]
  | json =>
    rw [render, reportText, hformat]
    exact Report.serialized_eq summary settings

variable {settings : Settings} {sink : Sink} {file : ClassFile} {summary : ClassSummary}

theorem run_of_load_error {error : Error} (hload : load read settings.classPath = .error error) (sink : Sink) :
    run settings read sink = ⟨.error error, []⟩ := by
  rw [run, hload]

theorem run_of_load_ok (hload : load read settings.classPath = .ok (file, summary)) (sink : Sink) :
    run settings read sink =
      ⟨((sink.write (reportBytes file summary settings)).outcome.mapError .host).map fun _ => summary,
        (sink.write (reportBytes file summary settings)).taken⟩ := by
  simp only [run, hload, render_eq]
  rfl

/-- With a report at hand, the way of its writing is the way of the dump. -/
theorem run_of_delivers (hload : load read settings.classPath = .ok (file, summary))
    (hdelivers : sink.Delivers (reportBytes file summary settings).length) :
    run settings read sink = ⟨.ok summary, reportBytes file summary settings⟩ := by
  rw [run_of_load_ok hload, Sink.write_of_delivers hdelivers]
  rfl

theorem run_of_fails {taken : Nat} {failure : HostFailure} (hload : load read settings.classPath = .ok (file, summary))
    (hfails : sink.Fails (reportBytes file summary settings).length taken failure) :
    run settings read sink = ⟨.error (.host failure), (reportBytes file summary settings).take taken⟩ := by
  rw [run_of_load_ok hload, Sink.write_of_fails hfails]
  rfl

theorem run_ways (hload : load read settings.classPath = .ok (file, summary)) (sink : Sink) :
    (sink.Delivers (reportBytes file summary settings).length ∧
      run settings read sink = ⟨.ok summary, reportBytes file summary settings⟩) ∨
    ∃ taken failure, sink.Fails (reportBytes file summary settings).length taken failure ∧
      run settings read sink = ⟨.error (.host failure), (reportBytes file summary settings).take taken⟩ := by
  rcases sink.delivers_or_fails (reportBytes file summary settings).length with hdelivers | ⟨taken, failure, hfails⟩
  · exact .inl ⟨hdelivers, run_of_delivers hload hdelivers⟩
  · exact .inr ⟨taken, failure, hfails, run_of_fails hload hfails⟩

theorem run_eq_ok_iff (hload : load read settings.classPath = .ok (file, summary)) :
    run settings read sink = ⟨.ok summary, reportBytes file summary settings⟩ ↔
      sink.Delivers (reportBytes file summary settings).length := by
  apply Iff.intro
  · intro hrun
    rcases run_ways hload sink with ⟨hdelivers, _⟩ | ⟨taken, failure, _, hown⟩
    · exact hdelivers
    · rw [hown] at hrun
      simp at hrun
  · exact run_of_delivers hload

theorem run_eq_error_iff (hload : load read settings.classPath = .ok (file, summary)) {failure : HostFailure}
    {output : Bytes} :
    run settings read sink = ⟨.error (.host failure), output⟩ ↔
      ∃ taken, sink.Fails (reportBytes file summary settings).length taken failure ∧
        output = (reportBytes file summary settings).take taken := by
  apply Iff.intro
  · intro hrun
    rcases run_ways hload sink with ⟨_, hown⟩ | ⟨taken, own, hfails, hown⟩
    · rw [hown] at hrun
      simp at hrun
    · rw [hown] at hrun
      simp only [Outcome.mk.injEq, Except.error.injEq, Error.host.injEq] at hrun
      obtain ⟨rfl, rfl⟩ := hrun
      exact ⟨taken, hfails, rfl⟩
  · intro hfailed
    obtain ⟨taken, hfails, rfl⟩ := hfailed
    exact run_of_fails hload hfails

theorem result_eq_ok_iff (hload : load read settings.classPath = .ok (file, summary)) :
    (run settings read sink).result = .ok summary ↔
      (run settings read sink).output = reportBytes file summary settings ∧ sink.flush = .ok () := by
  rcases run_ways hload sink with ⟨hdelivers, hrun⟩ | ⟨taken, failure, hfails, hrun⟩
  · rw [hrun]
    exact iff_of_true rfl ⟨rfl, hdelivers.flushed⟩
  · rw [hrun]
    apply iff_of_false nofun
    intro hall
    have hlength := congrArg List.length hall.1
    rw [List.length_take] at hlength
    rcases hfails.lt_or_flush with hshort | hflush
    · omega
    · rw [hflush] at hall
      simp at hall

/-- A dump with a report at hand hands over a front part of it, and either returns the summary of the class or fails as
the host did. -/
theorem run_cases (hload : load read settings.classPath = .ok (file, summary)) (sink : Sink) :
    (run settings read sink).output <+: reportBytes file summary settings ∧
      ((run settings read sink).result = .ok summary ∨
        ∃ failure, (run settings read sink).result = .error (.host failure)) := by
  rcases run_ways hload sink with ⟨_, hrun⟩ | ⟨taken, failure, _, hrun⟩
  · rw [hrun]
    exact ⟨List.prefix_rfl, .inl rfl⟩
  · rw [hrun]
    exact ⟨List.take_prefix _ _, .inr ⟨failure, rfl⟩⟩

theorem result_ne_serialization (settings : Settings) (read : String → Except HostFailure Bytes) (sink : Sink)
    (failure : SerialFailure) : (run settings read sink).result ≠ .error (.serialization failure) := by
  cases hload : load read settings.classPath with
  | error error =>
    rw [run_of_load_error hload]
    rcases load_eq_error_iff.mp hload with ⟨own, _, rfl⟩ | ⟨data, fault, _, _, rfl⟩ <;> simp
  | ok loaded => rcases (run_cases hload sink).2 with hok | ⟨own, herror⟩ <;> simp [*]

/-- A sink that never fails leaves the result to the class file alone. -/
theorem result_of_reliable (hsink : sink.Reliable) :
    (run settings read sink).result = (load read settings.classPath).map Prod.snd := by
  cases hload : load read settings.classPath with
  | error error =>
    rw [run_of_load_error hload]
    rfl
  | ok loaded =>
    rw [run_of_delivers hload (hsink.delivers _)]
    rfl

/-- A class file that cannot be read, parsed or summarised fails the dump with just this error and leaves the sink
untouched. Otherwise the sink has taken a front part of the report. The dump returns the summary exactly if that is the
whole report and the flush succeeded, which is to say if the sink delivers the report, as every reliable sink does; in all
other cases it stops where the sink fails, with the failure of the sink. No dump ends with a failed serialization, and
with sinks that never fail the format and the sections make no difference to the result. -/
theorem run_all_part_or_nothing (settings : Settings) (read : String → Except HostFailure Bytes) (sink : Sink) :
    (∀ failure, read settings.classPath = .error failure → run settings read sink = ⟨.error (.host failure), []⟩) ∧
    (∀ data fault, read settings.classPath = .ok data → ClassFile.parse data = .error fault →
      run settings read sink = ⟨.error (.decoding fault), []⟩) ∧
    (∀ data file fault, read settings.classPath = .ok data → ClassFile.parse data = .ok file →
      file.summary = .error fault → run settings read sink = ⟨.error (.decoding fault), []⟩) ∧
    (∀ data file summary, read settings.classPath = .ok data → ClassFile.parse data = .ok file →
      file.summary = .ok summary →
        (run settings read sink).output <+: reportBytes file summary settings ∧
        ((run settings read sink).result = .ok summary ↔
          (run settings read sink).output = reportBytes file summary settings ∧ sink.flush = .ok ()) ∧
        ((run settings read sink).result = .ok summary ∨
          ∃ failure, (run settings read sink).result = .error (.host failure)) ∧
        (run settings read sink = ⟨.ok summary, reportBytes file summary settings⟩ ↔
          sink.Delivers (reportBytes file summary settings).length) ∧
        (∀ failure output, run settings read sink = ⟨.error (.host failure), output⟩ ↔
          ∃ taken, sink.Fails (reportBytes file summary settings).length taken failure ∧
            output = (reportBytes file summary settings).take taken) ∧
        (sink.Reliable → run settings read sink = ⟨.ok summary, reportBytes file summary settings⟩)) ∧
    (∀ failure, (run settings read sink).result ≠ .error (.serialization failure)) ∧
    ∀ otherSettings otherSink, otherSettings.classPath = settings.classPath → sink.Reliable → otherSink.Reliable →
      (run otherSettings read otherSink).result = (run settings read sink).result := by
  refine ⟨?_, ?_, ?_, ?_, result_ne_serialization settings read sink, ?_⟩
  · intro failure hread
    exact run_of_load_error (load_eq_error_iff.mpr (.inl ⟨failure, hread, rfl⟩)) sink
  · intro data fault hread hparse
    have hdecode := decode_eq_error_iff.mpr (.inl hparse)
    exact run_of_load_error (load_eq_error_iff.mpr (.inr ⟨data, fault, hread, hdecode, rfl⟩)) sink
  · intro data file fault hread hparse hsummary
    have hdecode := decode_eq_error_iff.mpr (.inr ⟨file, hparse, hsummary⟩)
    exact run_of_load_error (load_eq_error_iff.mpr (.inr ⟨data, fault, hread, hdecode, rfl⟩)) sink
  · intro data file summary hread hparse hsummary
    have hload := load_eq_ok_iff.mpr ⟨data, hread, hparse, hsummary⟩
    obtain ⟨hfront, hresult⟩ := run_cases hload sink
    refine ⟨hfront, result_eq_ok_iff hload, hresult, run_eq_ok_iff hload, fun _ _ => run_eq_error_iff hload, ?_⟩
    intro hsink
    exact run_of_delivers hload (hsink.delivers _)
  · intro otherSettings otherSink hpath hsink hother
    rw [result_of_reliable hother, result_of_reliable hsink, hpath]

/-- A class called `A` with nothing in it. -/
def bare : ClassFile where
  minorVersion := 0
  majorVersion := 52
  pool := ⟨#[.utf8 "A", .classRef 1]⟩
  access := ⟨0x21⟩
  thisClass := 2
  superClass := 0
  interfaces := []
  fields := []
  methods := []
  attributes := []

def bareSettings (format : OutputFormat) (sections : Bool) : Settings := ⟨"A.class", format, sections, sections, sections⟩

def bareSummary : ClassSummary where
  name := "A"
  superName := none
  version := "52.0"
  access := ["public", "super"]
  interfaces := []
  fields := []
  methods := []
  attributes := []
  pool := [⟨1, .utf8 "A"⟩, ⟨2, .classRef 1⟩]

/-- The bare class with room for `this` and no more, no data at all, and two formats with room for everything. -/
theorem run_all_part_or_nothing_bare :
    run (bareSettings .text false) (fun _ => .ok bare.encode) (Sink.limited 4 (.other "full") (.ok ())) =
      ⟨.error (.host (.other "full")), [0x74, 0x68, 0x69, 0x73]⟩ ∧
    run (bareSettings .json true) (fun _ => .ok []) Sink.unlimited = ⟨.error (.decoding (.unexpectedEnd 0 4)), []⟩ ∧
    run (bareSettings .json true) (fun _ => .ok bare.encode) Sink.unlimited =
      ⟨.ok bareSummary, (Report.json bareSummary (bareSettings .json true)).toUTF8.data.toList⟩ ∧
    (run (bareSettings .text false) (fun _ => .ok bare.encode) Sink.unlimited).result =
      (run (bareSettings .json true) (fun _ => .ok bare.encode) Sink.unlimited).result := by
  have hparse : ClassFile.parse bare.encode = .ok bare := by decide +kernel
  have hsummary : bare.summary = .ok bareSummary := rfl
  have hreport : 4 < (reportBytes bare bareSummary (bareSettings .text false)).length ∧
      [0x74, 0x68, 0x69, 0x73] = (reportBytes bare bareSummary (bareSettings .text false)).take 4 := by
    decide +kernel
  have hsink := Sink.unlimited_reliable
  refine ⟨?_, ?_, ?_, ?_⟩
  · have hcases := (run_all_part_or_nothing (bareSettings .text false) (fun _ => .ok bare.encode)
      (Sink.limited 4 (.other "full") (.ok ()))).2.2.2.1 _ _ _ rfl hparse hsummary
    exact (hcases.2.2.2.2.1 _ _).mpr ⟨4, Sink.limited_fails hreport.1, hreport.2⟩
  · exact (run_all_part_or_nothing _ _ _).2.1 [] _ rfl rfl
  · exact ((run_all_part_or_nothing _ _ _).2.2.2.1 _ _ _ rfl hparse hsummary).2.2.2.2.2 hsink
  · exact (run_all_part_or_nothing _ _ _).2.2.2.2.2 _ _ rfl hsink hsink

end ClassInspect.Dump
