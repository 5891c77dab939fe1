import ClassInspect.Proofs.ClassFile.Faults

/-!
# What more bytes can change

A byte string that is refused may be the front of a longer one, a download that is not complete. Its verdict is
then final or accurate. A defect stays the verdict whatever follows it. A lack of bytes names the field that was
being read: until that field is complete the verdict stays as it is, and once it is complete the parse has moved
past it, so a later complaint is about a later field.
-/

namespace ClassInspect.ClassFile

variable {data : Bytes} {fault : Fault} {offset wanted : Nat}

/-- Only reading the structure can find bytes missing; the look-up behind it reads none. -/
theorem parse_eq_end_iff :
    parse data = .error (.unexpectedEnd offset wanted) ↔
      Decoder.classFile ⟨data, 0⟩ = .error (.unexpectedEnd offset wanted) := by
  refine ⟨fun hparse => ?_, parse_of_run_error⟩
  cases hrun : Decoder.classFile ⟨data, 0⟩ with
  | error own =>
    rw [parse_of_run_error hrun] at hparse
    rw [Except.error.inj hparse]
  | ok result =>
    rw [parse_of_run_ok hrun, thisClassName] at hparse
    cases hname : result.1.pool.className result.1.thisClass with
    | ok name => simp [hname, Except.map] at hparse
    | error own =>
      rw [hname] at hparse
      have hown : own = .unexpectedEnd offset wanted := Except.error.inj hparse
      simp [hown, ConstantPool.className_eq_error_iff] at hname

/-- A defect in front of any bytes is the defect of the whole. -/
theorem parse_append_of_isEnd_eq_false (hparse : parse data = .error fault) (hfault : fault.isEnd = false)
    (more : Bytes) : parse (data ++ more) = .error fault := by
  rw [parse_eq_error_iff hfault] at hparse ⊢
  rcases hparse with hrefuses | ⟨file, count, content, tail, rfl, hlaid, hname⟩
  · left
    intro start tail
    rw [List.append_assoc]
    exact hrefuses start (more ++ tail)
  · right
    exact ⟨file, count, content, tail ++ more, List.append_assoc _ _ _, hlaid, hname⟩

theorem bounds_of_parse_end (hparse : parse data = .error (.unexpectedEnd offset wanted)) :
    offset ≤ data.length ∧ data.length < offset + wanted := by
  have hbounds := Decoder.bounds_of_run_end (parse_eq_end_iff.mp hparse)
  omega

/-- With more bytes the parse goes on at the field it stopped in. -/
theorem exists_resume_of_parse_end (hparse : parse data = .error (.unexpectedEnd offset wanted)) :
    ∃ next : Bytes → Decoder ClassFile, (∀ content, (next content).Sequential) ∧
      ∀ more, Decoder.classFile ⟨data ++ more, 0⟩ =
        (Decoder.bytes wanted >>= next) ⟨data.drop offset ++ more, offset⟩ :=
  Decoder.exists_resume_of_run_end (parse_eq_end_iff.mp hparse)

theorem length_drop_append_add (hparse : parse data = .error (.unexpectedEnd offset wanted)) (more : Bytes) :
    (data.drop offset ++ more).length + offset = (data ++ more).length := by
  have hstart := (bounds_of_parse_end hparse).1
  rw [List.length_append, List.length_drop, List.length_append]
  omega

/-- While the field is not complete, the same bytes of it are missing. -/
theorem parse_append_of_length_lt (hparse : parse data = .error (.unexpectedEnd offset wanted)) {more : Bytes}
    (hshort : (data ++ more).length < offset + wanted) :
    parse (data ++ more) = .error (.unexpectedEnd offset wanted) := by
  obtain ⟨next, -, hresume⟩ := exists_resume_of_parse_end hparse
  apply parse_eq_end_iff.mpr
  rw [hresume]
  apply Decoder.run_bytes_bind_of_lt
  have hlength := length_drop_append_add hparse more
  omega

/-- Once the field is complete, bytes can be missing behind it only. -/
theorem le_of_parse_append_end (hparse : parse data = .error (.unexpectedEnd offset wanted)) {more : Bytes}
    (hlong : offset + wanted ≤ (data ++ more).length) {later need : Nat}
    (hlater : parse (data ++ more) = .error (.unexpectedEnd later need)) : offset + wanted ≤ later := by
  obtain ⟨next, hnext, hresume⟩ := exists_resume_of_parse_end hparse
  have hlength := length_drop_append_add hparse more
  have hrun := parse_eq_end_iff.mp hlater
  rw [hresume, Decoder.run_bytes_bind_of_le (by omega)] at hrun
  have := hnext ((data.drop offset ++ more).take wanted)
  exact (Decoder.bounds_of_run_end hrun).1

/-- A failure for a defect is the failure of every longer byte string. A failure for want of bytes names a field that
the input ends in; it is the failure of every longer byte string that still ends in this field, and in all others no
field up to its end is missing any more. -/
theorem parse_error_append (hparse : parse data = .error fault) (more : Bytes) :
    (fault.isEnd = false → parse (data ++ more) = .error fault) ∧
    ∀ offset wanted, fault = .unexpectedEnd offset wanted →
      (offset ≤ data.length ∧ data.length < offset + wanted) ∧
      ((data ++ more).length < offset + wanted → parse (data ++ more) = .error (.unexpectedEnd offset wanted)) ∧
      (offset + wanted ≤ (data ++ more).length →
        ∀ later need, parse (data ++ more) = .error (.unexpectedEnd later need) → offset + wanted ≤ later) := by
  refine ⟨fun hfault => parse_append_of_isEnd_eq_false hparse hfault more, ?_⟩
  intro offset wanted hend
  rw [hend] at hparse
  refine ⟨bounds_of_parse_end hparse, parse_append_of_length_lt hparse, ?_⟩
  intro hlong later need
  exact le_of_parse_append_end hparse hlong

/-- A byte string that ends inside its major version, and one with a wrong magic number. -/
theorem parse_error_append_samples :
    (parse [0xCA, 0xFE, 0xBA, 0xBE, 0, 3, 0] = .error (.unexpectedEnd 6 2) ∧
      (6 ≤ 7 ∧ 7 < 6 + 2) ∧
      parse ([0xCA, 0xFE, 0xBA, 0xBE, 0, 3, 0] ++ []) = .error (.unexpectedEnd 6 2) ∧
      ∀ later need, parse ([0xCA, 0xFE, 0xBA, 0xBE, 0, 3, 0] ++ [52]) = .error (.unexpectedEnd later need) → 8 ≤ later) ∧
    (parse [0xCA, 0xFE, 0xBA, 0xBF] = .error (.badMagic 0xCAFEBABF) ∧
      parse ([0xCA, 0xFE, 0xBA, 0xBF] ++ [0]) = .error (.badMagic 0xCAFEBABF)) := by
  have hend : parse [0xCA, 0xFE, 0xBA, 0xBE, 0, 3, 0] = .error (.unexpectedEnd 6 2) := by decide
  have hmagic : parse [0xCA, 0xFE, 0xBA, 0xBF] = .error (.badMagic 0xCAFEBABF) := by decide
  have hverdict := (parse_error_append hend [52]).2 6 2 rfl
  refine ⟨⟨hend, hverdict.1, ?_, hverdict.2.2 (by decide)⟩, hmagic, ?_⟩
  · exact ((parse_error_append hend []).2 6 2 rfl).2.1 (by decide)
  · exact (parse_error_append hmagic [0]).1 rfl

end ClassInspect.ClassFile
