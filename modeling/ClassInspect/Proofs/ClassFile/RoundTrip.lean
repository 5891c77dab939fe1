import ClassInspect.Proofs.ClassFile.Lookup
import ClassInspect.Proofs.ClassFile.Reading

/-!
# Parsing and the grammar

`ClassFile.parse` accepts a byte string exactly if the grammar derives a class with a name from its front.
Read from right to left, everything that can be written is read back, whatever bytes follow. Read from left
to right, an accepted class is spelled out in the input: the bytes of each of its parts stand there, in
order, with nothing between them.
-/

namespace ClassInspect.ClassFile

theorem exists_thisClassName_eq_ok_iff {file : ClassFile} : (∃ name, file.thisClassName = .ok name) ↔ file.Named := by
  simp only [thisClassName, ConstantPool.className_eq_ok_iff]
  exact exists_comm

/-- Parsing fails as reading the structure does. -/
theorem parse_of_run_error {data : Bytes} {fault : Fault} (hrun : Decoder.classFile ⟨data, 0⟩ = .error fault) :
    parse data = .error fault := by
  change Except.bind (Decoder.classFile ⟨data, 0⟩) _ = _
  rw [hrun]
  rfl

/-- Behind the structure, parsing follows the index of the class and takes nothing from it but its faults. -/
theorem parse_of_run_ok {data : Bytes} {file : ClassFile} {cursor : Cursor}
    (hrun : Decoder.classFile ⟨data, 0⟩ = .ok (file, cursor)) :
    parse data = file.thisClassName.map fun _ => file := by
  change Except.bind (Decoder.classFile ⟨data, 0⟩) _ = _
  rw [hrun]
  change Except.bind file.thisClassName _ = _
  cases file.thisClassName with
  | error fault => rfl
  | ok name => rfl

theorem parse_eq_ok_iff_reads {data : Bytes} {file : ClassFile} :
    parse data = .ok file ↔
      (∃ content tail, data = content ++ tail ∧ Decoder.classFile.Reads content file) ∧ file.Named := by
  rw [← exists_thisClassName_eq_ok_iff]
  constructor
  · intro hparse
    cases hrun : Decoder.classFile ⟨data, 0⟩ with
    | error fault =>
      rw [parse_of_run_error hrun] at hparse
      exact absurd hparse (by simp)
    | ok result =>
      obtain ⟨own, cursor⟩ := result
      rw [parse_of_run_ok hrun] at hparse
      cases hname : own.thisClassName with
      | error fault =>
        rw [hname] at hparse
        exact absurd hparse (by simp [Except.map])
      | ok name =>
        rw [hname] at hparse
        obtain rfl : own = file := Except.ok.inj hparse
        obtain ⟨content, hdata, -, hreads⟩ := Decoder.exists_reads_of_run hrun
        exact ⟨⟨content, cursor.rest, hdata, hreads⟩, name, hname⟩
  · rintro ⟨⟨content, tail, rfl, hreads⟩, name, hname⟩
    rw [parse_of_run_ok (hreads 0 tail), hname]
    rfl

/-- A named class has a slot, so the stated size of its pool is never the second way to say that there are none. -/
theorem Named.size_pos {file : ClassFile} (hnamed : file.Named) : 0 < file.pool.size := by
  obtain ⟨name, value, hname, -⟩ := hnamed
  obtain ⟨-, hslot⟩ := ConstantPool.get?_eq_some_iff.mp hname
  exact Nat.lt_of_le_of_lt (Nat.zero_le _) (Array.getElem?_eq_some_iff.mp hslot).1

/-- Whatever follows it, a class file of a named class is parsed as this class. -/
theorem LaidOut.parse_append {file : ClassFile} {count : UInt16} {content : Bytes} (hlaid : file.LaidOut count content)
    (hnamed : file.Named) (tail : Bytes) : parse (content ++ tail) = .ok file :=
  parse_eq_ok_iff_reads.mpr ⟨⟨content, tail, rfl, Decoder.reads_classFile_iff.mpr ⟨count, hlaid⟩⟩, hnamed⟩

/-- Every class that can be written is read back from its bytes, whatever follows them. -/
theorem parse_encode_append (file : ClassFile) (hfile : file.Encodable) (tail : Bytes) :
    parse (file.encode ++ tail) = .ok file :=
  hfile.laidOut.parse_append hfile.named tail

/-- A class whose last four slots hold a long and a double, whose name has a zero and a supplementary character,
and whose only method has an attribute. -/
def specimen : ClassFile where
  minorVersion := 3
  majorVersion := 52
  pool := ⟨#[.utf8 "A\u0000😀", .classRef 1, .long (-2), .unusable, .double 0x7FF8000000000001, .unusable]⟩
  access := ⟨0x21⟩
  thisClass := 2
  superClass := 0
  interfaces := [2]
  fields := []
  methods := [{ access := ⟨9⟩, name := 1, descriptor := 1, attributes := [{ name := 1, info := [0xCA, 0xFE] }] }]
  attributes := [{ name := 1, info := [] }]

theorem specimen_paired : Layout.Paired specimen.pool.slots.toList := by
  refine ⟨by decide, fun k => ?_⟩
  match k with
  | 0 | 1 | 2 | 3 | 4 | 5 => simp [specimen, Constant.Wide]
  | k + 6 => simp [specimen]

theorem specimen_encodable : specimen.Encodable where
  size_le := by decide
  paired := specimen_paired
  texts := by
    intro value hvalue
    have hname : value = "A\u0000😀" := by simpa [specimen] using hvalue
    rw [hname]
    decide +kernel
  tables := by
    refine ⟨by decide, ⟨by decide, by simp [specimen]⟩, ⟨by decide, ?_⟩, ⟨by decide, ?_⟩⟩
    · simp [specimen, Member.Fits, Layout.CountFits, Attribute.Fits]
    · simp [specimen, Attribute.Fits]
  named := ⟨1, _, rfl, rfl⟩

theorem parse_encode_append_specimen :
    specimen.Encodable ∧ parse (specimen.encode ++ [0xCA, 0xFE]) = .ok specimen :=
  ⟨specimen_encodable, parse_encode_append specimen specimen_encodable [0xCA, 0xFE]⟩

/-- A byte string parses as a class exactly if it starts with a class file of this class, whose stated pool size is one
more than the number of slots, and the class has a name. -/
theorem parse_eq_ok_iff_laidOut {data : Bytes} {file : ClassFile} :
    parse data = .ok file ↔
      ∃ count content tail, data = content ++ tail ∧ count.toNat = file.pool.size + 1 ∧ file.LaidOut count content ∧
        file.Named := by
  rw [parse_eq_ok_iff_reads]
  simp only [Decoder.reads_classFile_iff]
  constructor
  · rintro ⟨⟨content, tail, rfl, count, hlaid⟩, hnamed⟩
    have hsize := hlaid.size
    have hpos := hnamed.size_pos
    exact ⟨count, content, tail, rfl, by omega, hlaid, hnamed⟩
  · rintro ⟨count, content, tail, rfl, -, hlaid, hnamed⟩
    exact ⟨⟨content, tail, rfl, count, hlaid⟩, hnamed⟩

end ClassInspect.ClassFile
