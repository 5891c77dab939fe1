import ClassInspect.Text.Utf16

/-!
# Units of 16 bits and their characters

`Utf16.decodeAfter` collects its answer in reverse. Here it is taken apart into one law for each way a
sequence of units can start, and with these laws every text is found again in its units.
-/

namespace ClassInspect.Utf16

/-- The characters of a sequence of units. -/
def chars (units : List UInt16) : List Char := decodeAfter units []

theorem decode_eq (units : List UInt16) : decode units = String.ofList (chars units) := rfl

theorem decodeAfter_append (units : List UInt16) (done earlier : List Char) :
    decodeAfter units (done ++ earlier) = earlier.reverse ++ decodeAfter units done := by
  fun_induction decodeAfter units done with
  | case1 done => exact List.reverse_append
  | case2 unit done => rw [decodeAfter, ← List.cons_append, List.reverse_append]
  | case3 unit next rest done hpair ih =>
    rw [decodeAfter, if_pos hpair]
    exact ih
  | case4 unit next rest done hpair ih =>
    rw [decodeAfter, if_neg hpair]
    exact ih

@[simp] theorem chars_nil : chars [] = [] := rfl

/-- A high and a low surrogate side by side are one character. -/
theorem chars_pair {high low : UInt16} (hhigh : isHigh high = true) (hlow : isLow low = true)
    (rest : List UInt16) : chars (high :: low :: rest) = pair high low :: chars rest := by
  rw [chars, decodeAfter, if_pos (by rw [hhigh, hlow]; rfl)]
  exact decodeAfter_append rest [] [pair high low]

/-- A unit that starts no pair is a character of its own. -/
theorem chars_cons {unit : UInt16} {rest : List UInt16}
    (hlone : ∀ next later, rest = next :: later → ¬ (isHigh unit = true ∧ isLow next = true)) :
    chars (unit :: rest) = lone unit :: chars rest := by
  cases rest with
  | nil => rfl
  | cons next later =>
    have hpair : ¬ (isHigh unit && isLow next) = true := by
      rw [Bool.and_eq_true]
      exact hlone next later rfl
    rw [chars, decodeAfter, if_neg hpair]
    exact decodeAfter_append (next :: later) [] [lone unit]

theorem isHigh_eq_true_iff {unit : UInt16} : isHigh unit = true ↔ 0xD800 ≤ unit.toNat ∧ unit.toNat ≤ 0xDBFF := by
  rw [isHigh, Bool.and_eq_true, decide_eq_true_iff, decide_eq_true_iff, UInt16.le_iff_toNat_le,
    UInt16.le_iff_toNat_le]
  rfl

theorem isLow_eq_true_iff {unit : UInt16} : isLow unit = true ↔ 0xDC00 ≤ unit.toNat ∧ unit.toNat ≤ 0xDFFF := by
  rw [isLow, Bool.and_eq_true, decide_eq_true_iff, decide_eq_true_iff, UInt16.le_iff_toNat_le,
    UInt16.le_iff_toNat_le]
  rfl

/-- No character has the number of a surrogate. -/
theorem toNat_char_bounds (char : Char) :
    char.toNat < 0xD800 ∨ 0xDFFF < char.toNat ∧ char.toNat < 0x110000 := char.valid

/-- A character is one unit with its number or a pair of surrogates. -/
theorem charUnits_cases (char : Char) :
    (∃ unit, charUnits char = [unit] ∧ unit.toNat = char.toNat ∧ isHigh unit = false ∧ isLow unit = false) ∨
      ∃ high low, charUnits char = [high, low] ∧ isHigh high = true ∧ isLow low = true ∧ pair high low = char := by
  have hbounds := toNat_char_bounds char
  by_cases hplane : char.toNat < 0x10000
  · have hunit : (UInt16.ofNat char.toNat).toNat = char.toNat := by
      rw [UInt16.toNat_ofNat']
      omega
    refine .inl ⟨UInt16.ofNat char.toNat, if_pos hplane, hunit, ?_, ?_⟩
    · rw [← Bool.not_eq_true, isHigh_eq_true_iff, hunit]
      omega
    · rw [← Bool.not_eq_true, isLow_eq_true_iff, hunit]
      omega
  · -- the two surrogates carry the upper and the lower ten bits
    have hupper : (UInt16.ofNat (0xD800 + (char.toNat - 0x10000) / 0x400)).toNat =
        0xD800 + (char.toNat - 0x10000) / 0x400 := by
      rw [UInt16.toNat_ofNat']
      omega
    have hlower : (UInt16.ofNat (0xDC00 + (char.toNat - 0x10000) % 0x400)).toNat =
        0xDC00 + (char.toNat - 0x10000) % 0x400 := by
      rw [UInt16.toNat_ofNat']
      omega
    have hnumber : 0x10000 + (0xD800 + (char.toNat - 0x10000) / 0x400 - 0xD800) * 0x400 +
        (0xDC00 + (char.toNat - 0x10000) % 0x400 - 0xDC00) = char.toNat := by omega
    refine .inr ⟨_, _, if_neg hplane, isHigh_eq_true_iff.mpr (by omega), isLow_eq_true_iff.mpr (by omega), ?_⟩
    rw [pair, hupper, hlower, hnumber, Char.ofNat_toNat]

theorem lone_of_not_surrogate {unit : UInt16} (hhigh : isHigh unit = false) (hlow : isLow unit = false) :
    lone unit = Char.ofNat unit.toNat := by
  rw [lone, hhigh, hlow]
  rfl

theorem chars_charUnits_append (char : Char) (rest : List UInt16) :
    chars (charUnits char ++ rest) = char :: chars rest := by
  obtain ⟨unit, hunits, hnumber, hhigh, hlow⟩ | ⟨high, low, hunits, hhigh, hlow, hpair⟩ := charUnits_cases char
  · have hlone : ∀ next later, rest = next :: later → ¬ (isHigh unit = true ∧ isLow next = true) := by
      simp [hhigh]
    rw [hunits, List.singleton_append, chars_cons hlone, lone_of_not_surrogate hhigh hlow, hnumber, Char.ofNat_toNat]
  · rw [hunits, List.cons_append, List.singleton_append, chars_pair hhigh hlow, hpair]

/-- Every text is found again in its units. -/
theorem decode_units (text : String) : decode (units text) = text := by
  have hchars : ∀ list : List Char, chars (list.flatMap charUnits) = list := by
    intro list
    induction list with
    | nil => rfl
    | cons char rest ih => rw [List.flatMap_cons, chars_charUnits_append, ih]
  rw [decode_eq, units, hchars, String.ofList_toList]

end ClassInspect.Utf16
