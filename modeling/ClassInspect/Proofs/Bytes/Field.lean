import ClassInspect.Bytes.Field
import ClassInspect.Proofs.ClassFile.Reading

/-!
# What a sequence of fields hands out

Every field is one read of its width, and the value it gives is the bytes it took under another name: kind and
pattern of the value give back the field and these bytes. A step of a cursor therefore has two outcomes only, and
which one it is depends on the number of bytes left. Over a whole sequence, failed steps included, the bytes handed
out are the bytes passed, which `Passes` says of two cursors; nothing is skipped and nothing is read twice.
-/

namespace ClassInspect

/-- The field whose reading gives the value. -/
def FieldValue.field : FieldValue → Field
  | u1 _ => .u1
  | u2 _ => .u2
  | u4 _ => .u4
  | u8 _ => .u8
  | f4 _ => .f4
  | f8 _ => .f8
  | bytes content => .bytes content.length

namespace Field

def value : Field → Bytes → FieldValue
  | u1, content => .u1 (UInt8.ofNat (BigEndian.toNat content))
  | u2, content => .u2 (UInt16.ofNat (BigEndian.toNat content))
  | u4, content => .u4 (UInt32.ofNat (BigEndian.toNat content))
  | u8, content => .u8 (UInt64.ofNat (BigEndian.toNat content))
  | f4, content => .f4 (UInt32.ofNat (BigEndian.toNat content))
  | f8, content => .f8 (UInt64.ofNat (BigEndian.toNat content))
  | bytes _, content => .bytes content

variable {field : Field} {content : Bytes} {value : FieldValue}

theorem read_eq {m : Type → Type} [Monad m] [LawfulMonad m] [MonadStateOf Cursor m] [MonadExceptOf Fault m]
    (field : Field) :
    (field.read : m FieldValue) = Decoder.bytes field.width >>= fun content => pure (field.value content) := by
  cases field <;>
    simp only [read, width, Field.value, Decoder.u1, Decoder.u2, Decoder.u4, Decoder.u8, Decoder.number, bind_assoc,
      pure_bind]

/-- A field reads the patterns of the values of its kind. -/
theorem reads_read_iff : Decoder.Reads field.read content value ↔ value.field = field ∧ content = value.pattern := by
  cases field with
  -- the one kind of which there are many fields, so a value of it fixes the width too
  | bytes length =>
    rw [read, Decoder.reads_map_iff]
    simp only [Decoder.reads_bytes_iff]
    constructor
    · rintro ⟨taken, ⟨rfl, rfl⟩, rfl⟩
      exact ⟨rfl, rfl⟩
    · rintro ⟨hfield, rfl⟩
      cases value with
      | bytes taken => exact ⟨taken, ⟨rfl, Field.bytes.inj hfield⟩, rfl⟩
      | _ => exact absurd hfield (by simp [FieldValue.field])
  | _ =>
    simp only [read, Decoder.reads_map_iff, Decoder.reads_u1_iff, Decoder.reads_u2_iff, Decoder.reads_u4_iff,
      Decoder.reads_u8_iff, Layout.u1, Layout.u2, Layout.u4, Layout.u8]
    cases value <;> simp [FieldValue.field, FieldValue.pattern]

/-- The bytes of a field can be told from its value. -/
theorem value_eq_iff (hlength : content.length = field.width) :
    field.value content = value ↔ value.field = field ∧ value.pattern = content := by
  have hreads : Decoder.Reads field.read content value ↔ ∃ taken, (content = taken ∧ taken.length = field.width) ∧
      value = field.value taken := by
    rw [read_eq, Decoder.reads_map_iff]
    simp only [Decoder.reads_bytes_iff]
  rw [eq_comm (a := value.pattern), ← reads_read_iff, hreads]
  constructor
  · rintro rfl
    exact ⟨content, ⟨rfl, hlength⟩, rfl⟩
  · rintro ⟨taken, ⟨rfl, -⟩, rfl⟩
    rfl

end Field

namespace Cursor

variable {cursor middle moved : Cursor} {field : Field} {front back : Bytes}

/-! ### One step -/

theorem step_of_le (hwidth : field.width ≤ cursor.remaining) :
    cursor.step field =
      (.ok (field.value (cursor.rest.take field.width)),
        ⟨cursor.rest.drop field.width, cursor.offset + field.width⟩) := by
  have hrun : (Decoder.bytes field.width : ExceptT Fault (StateM Cursor) Bytes).run.run cursor =
      (.ok (cursor.rest.take field.width), ⟨cursor.rest.drop field.width, cursor.offset + field.width⟩) :=
    congrFun (if_pos (List.length_take_of_le hwidth)) cursor
  rw [step, Field.read_eq, ExceptT.run_bind, StateT.run_bind, hrun]
  rfl

/-- A read that does not fit fails before it moves the cursor. -/
theorem step_of_lt (hwidth : cursor.remaining < field.width) :
    cursor.step field = (.error (.unexpectedEnd cursor.offset field.width), cursor) := by
  have hshort : (cursor.rest.take field.width).length ≠ field.width := by
    rw [List.length_take]
    exact Nat.ne_of_lt (Nat.lt_of_le_of_lt (Nat.min_le_right _ _) hwidth)
  have hrun : (Decoder.bytes field.width : ExceptT Fault (StateM Cursor) Bytes).run.run cursor =
      (.error (.unexpectedEnd cursor.offset field.width), cursor) :=
    congrFun (if_neg hshort) cursor
  rw [step, Field.read_eq, ExceptT.run_bind, StateT.run_bind, hrun]
  rfl

theorem step_eq_error_iff {fault : Fault} :
    cursor.step field = (.error fault, moved) ↔
      cursor.remaining < field.width ∧ fault = .unexpectedEnd cursor.offset field.width ∧ moved = cursor := by
  by_cases hwidth : cursor.remaining < field.width
  · rw [step_of_lt hwidth]
    simp [hwidth, eq_comm]
  · rw [step_of_le (Nat.le_of_not_lt hwidth)]
    simp [hwidth]

theorem step_eq_ok_iff {value : FieldValue} :
    cursor.step field = (.ok value, moved) ↔
      field.width ≤ cursor.remaining ∧ value.field = field ∧ value.pattern = cursor.rest.take field.width ∧
        moved = ⟨cursor.rest.drop field.width, cursor.offset + field.width⟩ := by
  by_cases hwidth : field.width ≤ cursor.remaining
  · have hlength : (cursor.rest.take field.width).length = field.width := List.length_take_of_le hwidth
    rw [step_of_le hwidth, Prod.mk.injEq, Except.ok.injEq, Field.value_eq_iff hlength, and_assoc]
    simp [hwidth, eq_comm]
  · rw [step_of_lt (Nat.lt_of_not_le hwidth)]
    simp [hwidth]

/-! ### All steps -/

/-- The cursor behind a sequence of fields. -/
def after (cursor : Cursor) (fields : List Field) : Cursor :=
  fields.foldl (fun reached field => (reached.step field).2) cursor

/-- The bytes that the outcome of a step hands out. -/
def handedOut : Except Fault FieldValue × Cursor → Bytes
  | (.ok value, _) => value.pattern
  | (.error _, _) => []

/-- The way from one cursor to the other is exactly `content`. -/
structure Passes (cursor : Cursor) (content : Bytes) (moved : Cursor) : Prop where
  rest : cursor.rest = content ++ moved.rest
  offset : moved.offset = cursor.offset + content.length

theorem Passes.refl (cursor : Cursor) : cursor.Passes [] cursor := ⟨rfl, rfl⟩

theorem Passes.trans (hfront : cursor.Passes front middle) (hback : middle.Passes back moved) :
    cursor.Passes (front ++ back) moved := by
  refine ⟨?_, ?_⟩
  · rw [hfront.rest, hback.rest, List.append_assoc]
  · rw [hback.offset, hfront.offset, List.length_append, Nat.add_assoc]

theorem passes_step (cursor : Cursor) (field : Field) :
    cursor.Passes (handedOut (cursor.step field)) (cursor.step field).2 := by
  cases hstep : cursor.step field with
  | mk outcome moved =>
    cases outcome with
    | error fault =>
      obtain ⟨-, -, rfl⟩ := step_eq_error_iff.mp hstep
      exact Passes.refl moved
    | ok value =>
      obtain ⟨hwidth, -, hpattern, rfl⟩ := step_eq_ok_iff.mp hstep
      rw [handedOut, hpattern]
      exact ⟨(List.take_append_drop _ _).symm, by rw [List.length_take_of_le hwidth]⟩

theorem passes_after (cursor : Cursor) (fields : List Field) :
    cursor.Passes ((cursor.trace fields).flatMap handedOut) (cursor.after fields) := by
  induction fields generalizing cursor with
  | nil => exact Passes.refl cursor
  | cons field fields ih => exact (cursor.passes_step field).trans (ih _)

/-- A longer sequence goes on where the shorter one has stopped. -/
theorem trace_append (cursor : Cursor) (fields more : List Field) :
    cursor.trace (fields ++ more) = cursor.trace fields ++ (cursor.after fields).trace more := by
  induction fields generalizing cursor with
  | nil => rfl
  | cons field fields ih =>
    rw [List.cons_append, trace, trace, ih]
    rfl

variable {data content : Bytes}

/-- What a cursor has passed since the start is what stands before it. -/
theorem Passes.of_start (hpasses : (start data).Passes content cursor) :
    data = content ++ cursor.rest ∧ cursor.offset = content.length :=
  ⟨hpasses.rest, hpasses.offset.trans (Nat.zero_add _)⟩

theorem Passes.eq_take_offset (hpasses : (start data).Passes content cursor) : content = data.take cursor.offset := by
  obtain ⟨hdata, hoffset⟩ := hpasses.of_start
  rw [hoffset, hdata, List.take_left]

theorem Passes.rest_eq_drop_offset (hpasses : (start data).Passes content cursor) :
    cursor.rest = data.drop cursor.offset := by
  obtain ⟨hdata, hoffset⟩ := hpasses.of_start
  rw [hoffset, hdata, List.drop_left]

theorem Passes.remaining_add_offset (hpasses : (start data).Passes content cursor) :
    cursor.remaining + cursor.offset = data.length := by
  obtain ⟨hdata, hoffset⟩ := hpasses.of_start
  rw [hdata, hoffset, List.length_append, remaining, Nat.add_comm]

end Cursor

end ClassInspect
