import ClassInspect.Proofs.ClassFile.RoundTrip

/-!
# Class files delimit themselves

Where a class file ends is decided by its own bytes. The bytes that a parse has taken fix its result, so what
stands behind them is never looked at; and none of them can be spared, since a parse of fewer follows the
full one up to the field that crosses the cut and stops there. It asks for bytes of that field and for no
others, so the field it names lies inside the class file.
-/

namespace ClassInspect.ClassFile

theorem trailing?_append {content tail : Bytes} {file : ClassFile} (hreads : Decoder.classFile.Reads content file) :
    trailing? (content ++ tail) = some tail.length := by
  unfold trailing? Cursor.start
  rw [hreads 0 tail]
  rfl

/-- A class file that is cut short is one whose end is missing, at a field of the whole. -/
theorem parse_take_of_reads {content : Bytes} {file : ClassFile} (hreads : Decoder.classFile.Reads content file)
    {k : Nat} (hk : k < content.length) :
    ∃ offset wanted, parse (content.take k) = .error (.unexpectedEnd offset wanted) ∧ offset ≤ k ∧
      k < offset + wanted ∧ offset + wanted ≤ content.length := by
  have hwhole := hreads 0 []
  rw [List.append_nil, ← List.take_append_drop k content] at hwhole
  have hback : content.drop k ≠ [] := by
    intro hnil
    exact absurd (List.drop_eq_nil_iff.mp hnil) (Nat.not_le_of_lt hk)
  obtain ⟨offset, wanted, hrun, hinside⟩ := Decoder.run_cut hwhole hback
  have hbounds := Decoder.bounds_of_run_end hrun
  rw [List.take_append_drop, Nat.zero_add] at hinside
  rw [List.length_take_of_le (Nat.le_of_lt hk), Nat.zero_add] at hbounds
  exact ⟨offset, wanted, parse_of_run_error hrun, hbounds.2.1, hbounds.2.2, hinside⟩

/-- An accepted byte string has a front, what the reader has left behind taken away, that fixes the result in every
continuation, and of which every proper initial part ends inside one of its fields. -/
theorem parse_self_delimiting {data : Bytes} {file : ClassFile} (hparse : parse data = .ok file) :
    ∃ n ≤ data.length, trailing? data = some (data.length - n) ∧
      (∀ other, data.take n <+: other → parse other = .ok file) ∧
      ∀ k < n, ∃ offset wanted, parse (data.take k) = .error (.unexpectedEnd offset wanted) ∧ offset ≤ k ∧
        k < offset + wanted ∧ offset + wanted ≤ n := by
  obtain ⟨⟨content, tail, rfl, hreads⟩, hnamed⟩ := parse_eq_ok_iff_reads.mp hparse
  refine ⟨content.length, by simp, ?_, ?_, ?_⟩
  · rw [trailing?_append hreads, List.length_append, Nat.add_sub_cancel_left]
  · rw [List.take_left]
    rintro other ⟨behind, rfl⟩
    exact parse_eq_ok_iff_reads.mpr ⟨⟨content, behind, rfl, hreads⟩, hnamed⟩
  · intro k hk
    rw [List.take_append_of_le_length (Nat.le_of_lt hk)]
    exact parse_take_of_reads hreads hk

theorem parse_self_delimiting_specimen :
    parse (specimen.encode ++ [0xCA, 0xFE]) = .ok specimen ∧
      ∃ n ≤ (specimen.encode ++ [0xCA, 0xFE]).length,
        trailing? (specimen.encode ++ [0xCA, 0xFE]) = some ((specimen.encode ++ [0xCA, 0xFE]).length - n) ∧
        (∀ other, (specimen.encode ++ [0xCA, 0xFE]).take n <+: other → parse other = .ok specimen) ∧
        ∀ k < n, ∃ offset wanted,
          parse ((specimen.encode ++ [0xCA, 0xFE]).take k) = .error (.unexpectedEnd offset wanted) ∧ offset ≤ k ∧
            k < offset + wanted ∧ offset + wanted ≤ n :=
  have hparse := specimen_encodable.laidOut.parse_append specimen_encodable.named [0xCA, 0xFE]
  ⟨hparse, parse_self_delimiting hparse⟩

end ClassInspect.ClassFile
