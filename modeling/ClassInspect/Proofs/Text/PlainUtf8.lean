import ClassInspect.Proofs.Text.ModifiedUtf8
import Mathlib.Data.List.Basic

/-!
# Plain UTF-8 read as modified UTF-8

The two encodings write a character of the basic plane with the same bits, except that plain UTF-8 has no second spelling
of zero. A supplementary character is four bytes there, none of which starts a group here, so each of them is marked and
its neighbours are left alone. What is read is therefore again the units of a text, and that text can be written down.
-/

namespace ClassInspect.ModifiedUtf8

/-- The bytes of a text in plain UTF-8. -/
def plainBytes (text : String) : Bytes := text.toUTF8.data.toList

/-- What a character of plain UTF-8 is read as: itself, or a mark for each of its four bytes. -/
def plainReading (char : Char) : List Char :=
  if char.toNat ≤ 0xFFFF then [char] else List.replicate 4 Utf16.replacement

theorem plainBytes_eq_flatMap (text : String) : plainBytes text = text.toList.flatMap String.utf8EncodeChar := by
  rw [plainBytes, String.toUTF8_eq_toByteArray, ← String.utf8Encode_toList, List.utf8Encode, List.data_toByteArray]

theorem toNat_continuing (bits : Nat) : (UInt8.ofNat (bits % 64 + 128)).toNat = 0x80 + bits % 0x40 := by
  rw [UInt8.toNat_ofNat']
  omega

/-! ### Characters of the basic plane -/

theorem isGroup_utf8EncodeChar {char : Char} {unit : UInt16} (hplane : char.toNat ≤ 0xFFFF)
    (hunit : unit.toNat = char.toNat) : IsGroup (String.utf8EncodeChar char) unit := by
  have hvalue : char.val.toNat = unit.toNat := hunit.symm
  have hlower := toNat_continuing unit.toNat
  rw [String.utf8EncodeChar, hvalue]
  split
  · next hone =>
    have hlead : (UInt8.ofNat unit.toNat).toNat = unit.toNat := by
      rw [UInt8.toNat_ofNat']
      omega
    apply isGroup_one (by omega)
    apply UInt16.toNat_inj.mp
    rw [UInt8.toNat_toUInt16, hlead]
  · split
    · next htwo =>
      have hlead : (UInt8.ofNat (unit.toNat / 64 % 32 + 192)).toNat = 0xC0 + unit.toNat / 0x40 := by
        rw [UInt8.toNat_ofNat']
        omega
      apply isGroup_two (by omega) (by omega)
      apply UInt16.toNat_inj.mp
      rw [toNat_unitOfTwo, hlead, hlower]
      omega
    · rw [if_pos (by omega)]
      have hlead : (UInt8.ofNat (unit.toNat / 4096 % 16 + 224)).toNat = 0xE0 + unit.toNat / 0x1000 := by
        rw [UInt8.toNat_ofNat']
        omega
      have hsecond := toNat_continuing (unit.toNat / 64)
      apply isGroup_three (by omega) (by omega) (by omega)
      apply UInt16.toNat_inj.mp
      rw [toNat_unitOfThree, hlead, hsecond, hlower]
      omega

theorem units_append_of_basic {char : Char} (hplane : char.toNat ≤ 0xFFFF) (tail : Bytes) :
    units (String.utf8EncodeChar char ++ tail) = Utf16.charUnits char ++ units tail := by
  have hunit : (UInt16.ofNat char.toNat).toNat = char.toNat := by
    rw [UInt16.toNat_ofNat']
    omega
  rw [(isGroup_utf8EncodeChar hplane hunit).units_append, Utf16.charUnits, if_pos (by omega), List.singleton_append]

/-! ### Supplementary characters -/

/-- A byte that continues a group, or that announces four bytes or more, is marked wherever a group could start. -/
theorem units_cons_of_stray {byte : UInt8}
    (hbyte : 0x80 ≤ byte.toNat ∧ byte.toNat < 0xC0 ∨ 0xF0 ≤ byte.toNat) (tail : Bytes) :
    units (byte :: tail) = malformed :: units tail := by
  have hlength : groupLength byte = 0 := by
    rw [groupLength_eq, if_neg (by omega), if_neg (by omega), if_neg (by omega)]
  have hnext : next byte tail = (malformed, tail) := by
    unfold next
    rw [hlength]
    match tail with
    | [] => rfl
    | [_] => rfl
    | _ :: _ :: _ => rfl
  rw [units_cons, hnext]

theorem units_append_of_supplementary {char : Char} (hplane : ¬ char.toNat ≤ 0xFFFF) (tail : Bytes) :
    units (String.utf8EncodeChar char ++ tail) = List.replicate 4 malformed ++ units tail := by
  have hnumber : char.val.toNat = char.toNat := rfl
  have hlead : 0xF0 ≤ (UInt8.ofNat (char.toNat / 262144 % 8 + 240)).toNat := by
    rw [UInt8.toNat_ofNat']
    omega
  have hcontinues : ∀ bits more, units (UInt8.ofNat (bits % 64 + 128) :: more) = malformed :: units more := by
    intro bits more
    have hbyte := toNat_continuing bits
    exact units_cons_of_stray (.inl (by omega)) more
  rw [String.utf8EncodeChar, hnumber, if_neg (by omega), if_neg (by omega), if_neg hplane]
  simp only [List.cons_append, List.nil_append]
  rw [units_cons_of_stray (.inr hlead), hcontinues, hcontinues, hcontinues]
  rfl

/-! ### Texts -/

theorem units_utf8EncodeChar_append (char : Char) (tail : Bytes) :
    units (String.utf8EncodeChar char ++ tail) = (plainReading char).flatMap Utf16.charUnits ++ units tail := by
  unfold plainReading
  split
  · next hplane => rw [units_append_of_basic hplane, List.flatMap_singleton]
  · next hplane =>
    rw [units_append_of_supplementary hplane]
    rfl

/-- The units of plain UTF-8 are those of the text that is read. -/
theorem units_plainBytes (text : String) :
    units (plainBytes text) = Utf16.units (String.ofList (text.toList.flatMap plainReading)) := by
  rw [plainBytes_eq_flatMap, Utf16.units, String.toList_ofList]
  induction text.toList with
  | nil => exact units_nil
  | cons char rest ih =>
    rw [List.flatMap_cons, units_utf8EncodeChar_append, ih, List.flatMap_cons, List.flatMap_append]

theorem le_of_mem_plainReading {char read : Char} (hread : read ∈ plainReading char) : read.toNat ≤ 0xFFFF := by
  unfold plainReading at hread
  split at hread
  · next hplane =>
    rw [List.mem_singleton.mp hread]
    exact hplane
  · rw [List.eq_of_mem_replicate hread]
    decide

theorem flatMap_plainReading_eq_self_iff {chars : List Char} :
    chars.flatMap plainReading = chars ↔ ∀ char ∈ chars, char.toNat ≤ 0xFFFF := by
  apply Iff.intro
  · intro hsame char hchar
    rw [← hsame, List.mem_flatMap] at hchar
    obtain ⟨own, -, hread⟩ := hchar
    exact le_of_mem_plainReading hread
  · intro hbasic
    have hown : ∀ char ∈ chars, plainReading char = [char] := fun char hchar => if_pos (hbasic char hchar)
    rw [List.flatMap_congr hown, List.flatMap_singleton']

/-- In the text of the plain bytes every character of the basic plane stands as it is and every supplementary character
is replaced by exactly four marks; so the text is found again exactly if it has no supplementary character. -/
theorem decode_plainBytes_eq (text : String) :
    decode (plainBytes text) = String.ofList (text.toList.flatMap plainReading) ∧
      (decode (plainBytes text) = text ↔ ∀ char ∈ text.toList, char.toNat ≤ 0xFFFF) := by
  have htext : decode (plainBytes text) = String.ofList (text.toList.flatMap plainReading) := by
    rw [decode, units_plainBytes, Utf16.decode_units]
  refine ⟨htext, ?_⟩
  rw [htext, ← flatMap_plainReading_eq_self_iff, ← String.toList_inj, String.toList_ofList]

/-- A character of three bytes survives next to one of four. -/
example : decode (plainBytes "€😀x") = "€����x" := by decide +kernel

end ClassInspect.ModifiedUtf8
