import ClassInspect.Proofs.Bytes.Field

/-!
# Reading with machine words

A machine leaves the bytes where they are and counts them in words of a fixed size. `WordReader` is the cursor in
this form, and it does no arithmetic in silence: a sum or a difference that is not a word, or a slice that is not
inside the data, ends the run without a result. A length may be any word, so the sum of offset and length need not be
one. It is formed behind the comparison with the bytes left, and there it is a position in the data. So a run in words
always has a result, and it is the one of the cursor.
-/

namespace ClassInspect

/-- The bytes and the number of them that have been read, as a word of `bits` bits. -/
structure WordReader (bits : Nat) where
  data : Bytes
  offset : BitVec bits

namespace WordReader

variable {bits : Nat} {reader : WordReader bits} {field : Field} {n : BitVec bits}

def start (data : Bytes) : WordReader bits := ⟨data, 0⟩

/-- The sum of two words, if it is a word. -/
def sum? (a b : BitVec bits) : Option (BitVec bits) := if a.uaddOverflow b then none else some (a + b)

def difference? (a b : BitVec bits) : Option (BitVec bits) := if a.usubOverflow b then none else some (a - b)

/-- The bytes between two positions, if there are such positions. -/
def slice? (data : Bytes) (first last : Nat) : Option Bytes :=
  if first ≤ last ∧ last ≤ data.length then some ((data.drop first).take (last - first)) else none

def remaining? (reader : WordReader bits) : Option (BitVec bits) :=
  difference? (BitVec.ofNat bits reader.data.length) reader.offset

/-- A computation over a reader. It may have no result, and a fault leaves the reader as it stands then. -/
abbrev Checked (bits : Nat) := ExceptT Fault (StateT (WordReader bits) Option)

def take? (n : BitVec bits) : Checked bits Bytes := do
  let reader ← get
  let left ← reader.remaining?
  if left < n then
    throw (.unexpectedEnd reader.offset.toNat n.toNat)
  -- not before: near the largest word `n` has no sum with the offset
  let last ← sum? reader.offset n
  let content ← slice? reader.data reader.offset.toNat last.toNat
  set { reader with offset := last }
  return content

def step? (reader : WordReader bits) (field : Field) : Option (Except Fault FieldValue × WordReader bits) :=
  let reading : Checked bits FieldValue := do return field.value (← take? (BitVec.ofNat bits field.width))
  reading.run.run reader

def trace? : WordReader bits → List Field → Option (List (Except Fault FieldValue × WordReader bits))
  | _, [] => some []
  | reader, field :: fields => do
    let outcome ← reader.step? field
    let later ← outcome.2.trace? fields
    return outcome :: later

def cursor (reader : WordReader bits) : Cursor := ⟨reader.data.drop reader.offset.toNat, reader.offset.toNat⟩

def view (outcome : Except Fault FieldValue × WordReader bits) : Except Fault FieldValue × Cursor :=
  (outcome.1, outcome.2.cursor)

/-- The length of the data is a word and the offset is a position in it. -/
structure Fits (reader : WordReader bits) : Prop where
  length_lt : reader.data.length < 2 ^ bits
  offset_le : reader.offset.toNat ≤ reader.data.length

theorem fits_start {data : Bytes} (hdata : data.length < 2 ^ bits) : (start data : WordReader bits).Fits :=
  ⟨hdata, by simp [start]⟩

theorem cursor_start (data : Bytes) : (start data : WordReader bits).cursor = Cursor.start data := by
  simp [cursor, start, Cursor.start]

theorem remaining_cursor (reader : WordReader bits) :
    reader.cursor.remaining = reader.data.length - reader.offset.toNat := List.length_drop

theorem toNat_ofNat_of_lt {number : Nat} (hnumber : number < 2 ^ bits) : (BitVec.ofNat bits number).toNat = number := by
  rw [BitVec.toNat_ofNat, Nat.mod_eq_of_lt hnumber]

/-! ### Sums and differences that are words -/

theorem sum?_of_lt {a b : BitVec bits} (hsum : a.toNat + b.toNat < 2 ^ bits) : sum? a b = some (a + b) := by
  rw [sum?, if_neg]
  simpa [BitVec.uaddOverflow] using hsum

theorem difference?_of_le {a b : BitVec bits} (hle : b.toNat ≤ a.toNat) : difference? a b = some (a - b) := by
  rw [difference?, if_neg]
  simpa [BitVec.usubOverflow] using hle

theorem exists_remaining? (hreader : reader.Fits) :
    ∃ left, reader.remaining? = some left ∧ left.toNat = reader.cursor.remaining := by
  have hlength := toNat_ofNat_of_lt hreader.length_lt
  have hle : reader.offset.toNat ≤ (BitVec.ofNat bits reader.data.length).toNat := by
    rw [hlength]
    exact hreader.offset_le
  refine ⟨_, difference?_of_le hle, ?_⟩
  rw [BitVec.toNat_sub_of_le (BitVec.le_def.mpr hle), hlength, remaining_cursor]

/-! ### One read -/

theorem run_get_bind {β : Type} (next : WordReader bits → Checked bits β) (reader : WordReader bits) :
    (get >>= next).run.run reader = (next reader).run.run reader := rfl

theorem run_lift_bind {α β : Type} {result : Option α} {value : α} (hresult : result = some value)
    (next : α → Checked bits β) (reader : WordReader bits) :
    ((liftM result : Checked bits α) >>= next).run.run reader = (next value).run.run reader := by
  rw [hresult]
  rfl

theorem run_take?_of_lt (hreader : reader.Fits) (hn : reader.cursor.remaining < n.toNat) :
    (take? n).run.run reader = some (.error (.unexpectedEnd reader.offset.toNat n.toNat), reader) := by
  obtain ⟨left, hremaining, hleft⟩ := exists_remaining? hreader
  have hlt : left < n := by
    rw [BitVec.lt_def, hleft]
    exact hn
  rw [take?, run_get_bind, run_lift_bind hremaining, if_pos hlt]
  rfl

/-- The reader behind the next `n` bytes. -/
def advance (reader : WordReader bits) (n : BitVec bits) : WordReader bits := { reader with offset := reader.offset + n }

/-- What the comparison with the bytes left is for: behind it the sum is a position in the data. -/
theorem offset_add_le (hreader : reader.Fits) (hn : n.toNat ≤ reader.cursor.remaining) :
    reader.offset.toNat + n.toNat ≤ reader.data.length := by
  have hoffset := hreader.offset_le
  rw [remaining_cursor] at hn
  omega

theorem offset_add_lt (hreader : reader.Fits) (hn : n.toNat ≤ reader.cursor.remaining) :
    reader.offset.toNat + n.toNat < 2 ^ bits :=
  Nat.lt_of_le_of_lt (offset_add_le hreader hn) hreader.length_lt

theorem toNat_offset_advance (hreader : reader.Fits) (hn : n.toNat ≤ reader.cursor.remaining) :
    (reader.advance n).offset.toNat = reader.offset.toNat + n.toNat :=
  BitVec.toNat_add_of_lt (offset_add_lt hreader hn)

theorem fits_advance (hreader : reader.Fits) (hn : n.toNat ≤ reader.cursor.remaining) : (reader.advance n).Fits := by
  refine ⟨hreader.length_lt, ?_⟩
  rw [toNat_offset_advance hreader hn]
  exact offset_add_le hreader hn

theorem cursor_advance (hreader : reader.Fits) (hn : n.toNat ≤ reader.cursor.remaining) :
    (reader.advance n).cursor = ⟨reader.cursor.rest.drop n.toNat, reader.cursor.offset + n.toNat⟩ := by
  simp only [cursor, toNat_offset_advance hreader hn, List.drop_drop]
  rfl

theorem run_take?_of_le (hreader : reader.Fits) (hn : n.toNat ≤ reader.cursor.remaining) :
    (take? n).run.run reader = some (.ok (reader.cursor.rest.take n.toNat), reader.advance n) := by
  obtain ⟨left, hremaining, hleft⟩ := exists_remaining? hreader
  have hnot : ¬ left < n := by
    rw [BitVec.lt_def, hleft]
    exact Nat.not_lt_of_le hn
  have hsum := sum?_of_lt (offset_add_lt hreader hn)
  have hlast : (reader.offset + n).toNat = reader.offset.toNat + n.toNat := toNat_offset_advance hreader hn
  have hslice : slice? reader.data reader.offset.toNat (reader.offset + n).toNat =
      some (reader.cursor.rest.take n.toNat) := by
    rw [slice?, hlast, if_pos ⟨Nat.le_add_right _ _, offset_add_le hreader hn⟩, Nat.add_sub_cancel_left]
    rfl
  rw [take?, run_get_bind, run_lift_bind hremaining, if_neg hnot, run_lift_bind hsum, run_lift_bind hslice]
  rfl

/-! ### Steps and runs -/

/-- A step in words has a result, the one of the cursor. -/
theorem exists_step? (hreader : reader.Fits) (hfield : field.width < 2 ^ bits) :
    ∃ outcome, reader.step? field = some outcome ∧ view outcome = reader.cursor.step field ∧ outcome.2.Fits := by
  have hword := toNat_ofNat_of_lt hfield
  by_cases hwidth : field.width ≤ reader.cursor.remaining
  · have hn : (BitVec.ofNat bits field.width).toNat ≤ reader.cursor.remaining := by
      rw [hword]
      exact hwidth
    refine ⟨(.ok (field.value (reader.cursor.rest.take field.width)), reader.advance (BitVec.ofNat bits field.width)),
      ?_, ?_, fits_advance hreader hn⟩
    · rw [step?, ExceptT.run_bind, StateT.run_bind, run_take?_of_le hreader hn, hword]
      rfl
    · rw [Cursor.step_of_le hwidth, view, cursor_advance hreader hn, hword]
  · have hn : reader.cursor.remaining < (BitVec.ofNat bits field.width).toNat := by
      rw [hword]
      exact Nat.lt_of_not_le hwidth
    refine ⟨(.error (.unexpectedEnd reader.offset.toNat field.width), reader), ?_, ?_, hreader⟩
    · rw [step?, ExceptT.run_bind, StateT.run_bind, run_take?_of_lt hreader hn, hword]
      rfl
    · rw [Cursor.step_of_lt (Nat.lt_of_not_le hwidth)]
      rfl

/-- A run in words has a result, the one of the cursor. -/
theorem map_view_trace? (hreader : reader.Fits) {fields : List Field} (hfields : ∀ field ∈ fields, field.width < 2 ^ bits) :
    (reader.trace? fields).map (List.map view) = some (reader.cursor.trace fields) := by
  induction fields generalizing reader with
  | nil => rfl
  | cons field fields ih =>
    obtain ⟨hfield, hlater⟩ := List.forall_mem_cons.mp hfields
    obtain ⟨outcome, hstep, hview, hmoved⟩ := exists_step? hreader hfield
    obtain ⟨later, htrace, hmap⟩ := Option.map_eq_some_iff.mp (ih hmoved hlater)
    have hcursor : outcome.2.cursor = (reader.cursor.step field).2 := congrArg Prod.snd hview
    rw [Cursor.trace, ← hcursor, ← hmap, ← hview]
    simp [trace?, hstep, htrace]

end WordReader

namespace Cursor

/-- Behind every sequence of reads the offset is a position in the data, the bytes left are those behind it, and the
patterns of all values handed out spell the data before it. The next read fails exactly if its field is wider than what
is left; the fault names the offset and the width and the cursor stays. Otherwise it hands out the next bytes as a value
of its field and moves behind them. In words of any size that holds the lengths of the data and of the fields, no sum or
difference leaves the words and the run is the same. -/
theorem trace_spells_data (data : Bytes) (fields : List Field) :
    let reached := (start data).after fields
    reached.offset ≤ data.length ∧ reached.remaining + reached.offset = data.length ∧
    ((start data).trace fields).flatMap handedOut = data.take reached.offset ∧
    (∀ field,
      (start data).trace (fields ++ [field]) = (start data).trace fields ++ [reached.step field] ∧
      (start data).after (fields ++ [field]) = (reached.step field).2 ∧
      (∀ fault moved, reached.step field = (.error fault, moved) ↔
        reached.remaining < field.width ∧ fault = .unexpectedEnd reached.offset field.width ∧ moved = reached) ∧
      ∀ value moved, reached.step field = (.ok value, moved) ↔
        field.width ≤ reached.remaining ∧ value.field = field ∧
          value.pattern = (data.drop reached.offset).take field.width ∧
          moved = ⟨data.drop (reached.offset + field.width), reached.offset + field.width⟩) ∧
    ∀ bits, data.length < 2 ^ bits → (∀ field ∈ fields, field.width < 2 ^ bits) →
      ((WordReader.start data : WordReader bits).trace? fields).map (List.map WordReader.view) =
        some ((start data).trace fields) := by
  intro reached
  have hpasses : (start data).Passes _ reached := passes_after (start data) fields
  have hsum := hpasses.remaining_add_offset
  refine ⟨by omega, hsum, hpasses.eq_take_offset, fun field => ⟨?_, ?_, fun fault moved => step_eq_error_iff, ?_⟩, ?_⟩
  · exact trace_append (start data) fields [field]
  · exact List.foldl_append
  · intro value moved
    rw [step_eq_ok_iff, hpasses.rest_eq_drop_offset, List.drop_drop]
  · intro bits hdata hfields
    rw [WordReader.map_view_trace? (WordReader.fits_start hdata) hfields, WordReader.cursor_start]

/-- Reads that fail on both sides of one that does not, one of them for the largest 64-bit length. -/
theorem trace_spells_data_past_end :
    ([0xCA, 0xFE, 0xBA, 0xBE] : Bytes).length < 2 ^ 64 ∧
    (∀ field ∈ [Field.u8, .u2, .bytes 0xFFFFFFFFFFFFFFFF, .f4, .bytes 2], field.width < 2 ^ 64) ∧
    (start [0xCA, 0xFE, 0xBA, 0xBE]).trace [.u8, .u2, .bytes 0xFFFFFFFFFFFFFFFF, .f4, .bytes 2] =
      [(.error (.unexpectedEnd 0 8), ⟨[0xCA, 0xFE, 0xBA, 0xBE], 0⟩), (.ok (.u2 0xCAFE), ⟨[0xBA, 0xBE], 2⟩),
        (.error (.unexpectedEnd 2 0xFFFFFFFFFFFFFFFF), ⟨[0xBA, 0xBE], 2⟩),
        (.error (.unexpectedEnd 2 4), ⟨[0xBA, 0xBE], 2⟩), (.ok (.bytes [0xBA, 0xBE]), ⟨[], 4⟩)] ∧
    ((WordReader.start [0xCA, 0xFE, 0xBA, 0xBE] : WordReader 64).trace?
        [.u8, .u2, .bytes 0xFFFFFFFFFFFFFFFF, .f4, .bytes 2]).map (List.map WordReader.view) =
      some ((start [0xCA, 0xFE, 0xBA, 0xBE]).trace [.u8, .u2, .bytes 0xFFFFFFFFFFFFFFFF, .f4, .bytes 2]) := by
  have hdata : ([0xCA, 0xFE, 0xBA, 0xBE] : Bytes).length < 2 ^ 64 := by decide
  have hfields : ∀ field ∈ [Field.u8, .u2, .bytes 0xFFFFFFFFFFFFFFFF, .f4, .bytes 2], field.width < 2 ^ 64 := by decide
  exact ⟨hdata, hfields, by decide, (trace_spells_data _ _).2.2.2.2 64 hdata hfields⟩

end Cursor

end ClassInspect
