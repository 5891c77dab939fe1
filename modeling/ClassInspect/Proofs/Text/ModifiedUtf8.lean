import ClassInspect.Text.ModifiedUtf8
import ClassInspect.Proofs.Text.Utf16
import Mathlib.Algebra.Ring.Nat

/-!
# Modified UTF-8 and its units

The bit patterns of the encoding, once and for all as arithmetic: which bytes announce a group of which
length, which bytes continue one, and what number a complete group spells. `IsGroup` is the table of these
patterns as a reader would write it down, free of masks and shifts. The one fact that the decoder needs is that
a complete group, in front of any further bytes, is read as its unit alone.
-/

namespace ClassInspect.ModifiedUtf8

/-! ### Bytes as numbers -/

theorem isContinuation_eq_true_iff {byte : UInt8} :
    isContinuation byte = true ↔ 0x80 ≤ byte.toNat ∧ byte.toNat < 0xC0 := by
  have hall : ∀ n, n < 256 → (isContinuation (UInt8.ofNat n) = true ↔ 0x80 ≤ n ∧ n < 0xC0) := by decide +kernel
  have hbyte := hall byte.toNat byte.toNat_lt
  rwa [UInt8.ofNat_toNat] at hbyte

theorem groupLength_eq (lead : UInt8) :
    groupLength lead =
      if lead.toNat < 0x80 then 1
      else if 0xC0 ≤ lead.toNat ∧ lead.toNat < 0xE0 then 2
      else if 0xE0 ≤ lead.toNat ∧ lead.toNat < 0xF0 then 3
      else 0 := by
  have hall : ∀ n, n < 256 → groupLength (UInt8.ofNat n) =
      if n < 0x80 then 1 else if 0xC0 ≤ n ∧ n < 0xE0 then 2 else if 0xE0 ≤ n ∧ n < 0xF0 then 3 else 0 := by
    decide +kernel
  have hlead := hall lead.toNat lead.toNat_lt
  rwa [UInt8.ofNat_toNat] at hlead

private theorem toNat_low_bits (byte : UInt8) (mask : UInt8) (width : Nat) (hmask : mask.toNat = 2 ^ width - 1) :
    (byte &&& mask).toUInt16.toNat = byte.toNat % 2 ^ width := by
  rw [UInt8.toNat_toUInt16, UInt8.toNat_and, hmask, Nat.and_two_pow_sub_one_eq_mod]

theorem toNat_unitOfTwo (lead second : UInt8) :
    (unitOfTwo lead second).toNat = lead.toNat % 0x20 * 0x40 + second.toNat % 0x40 := by
  have hlead : ((lead &&& 0x1F).toUInt16 <<< 6).toNat = (lead.toNat % 0x20) <<< 6 := by
    rw [UInt16.toNat_shiftLeft, toNat_low_bits lead 0x1F 5 rfl]
    change (lead.toNat % 0x20) <<< 6 % 2 ^ 16 = _
    rw [Nat.shiftLeft_eq]
    omega
  rw [unitOfTwo, UInt16.toNat_or, hlead, toNat_low_bits second 0x3F 6 rfl,
    ← Nat.shiftLeft_add_eq_or_of_lt (by omega)]
  omega

theorem toNat_unitOfThree (lead second third : UInt8) :
    (unitOfThree lead second third).toNat =
      lead.toNat % 0x10 * 0x1000 + second.toNat % 0x40 * 0x40 + third.toNat % 0x40 := by
  have hlead : ((lead &&& 0x0F).toUInt16 <<< 12).toNat = (lead.toNat % 0x10) <<< 12 := by
    rw [UInt16.toNat_shiftLeft, toNat_low_bits lead 0x0F 4 rfl]
    change (lead.toNat % 0x10) <<< 12 % 2 ^ 16 = _
    rw [Nat.shiftLeft_eq]
    omega
  have hsecond : ((second &&& 0x3F).toUInt16 <<< 6).toNat = (second.toNat % 0x40) <<< 6 := by
    rw [UInt16.toNat_shiftLeft, toNat_low_bits second 0x3F 6 rfl]
    change (second.toNat % 0x40) <<< 6 % 2 ^ 16 = _
    rw [Nat.shiftLeft_eq]
    omega
  -- the upper two parts together are a multiple of 64, and the third part is below that
  have hupper : (lead.toNat % 0x10) <<< 12 + (second.toNat % 0x40) <<< 6 =
      (lead.toNat % 0x10 * 0x40 + second.toNat % 0x40) <<< 6 := by
    simp only [Nat.shiftLeft_eq]
    omega
  rw [unitOfThree, UInt16.toNat_or, UInt16.toNat_or, hlead, hsecond, toNat_low_bits third 0x3F 6 rfl,
    ← Nat.shiftLeft_add_eq_or_of_lt (by rw [Nat.shiftLeft_eq]; omega), hupper,
    ← Nat.shiftLeft_add_eq_or_of_lt (by omega), Nat.shiftLeft_eq]
  omega

/-! ### Groups as bit patterns -/

/-- The byte `10xxxxxx`. -/
def continuation (x : BitVec 6) : UInt8 := ⟨0b10#2 ++ x⟩

/-- The bytes are a complete group, and the unit is made of its free bits in order. -/
inductive IsGroup : Bytes → UInt16 → Prop
  /-- `0xxxxxxx` -/
  | one (x : BitVec 7) : IsGroup [⟨0b0#1 ++ x⟩] ⟨0#9 ++ x⟩
  /-- `110xxxxx 10yyyyyy` -/
  | two (x : BitVec 5) (y : BitVec 6) : IsGroup [⟨0b110#3 ++ x⟩, continuation y] ⟨0#5 ++ x ++ y⟩
  /-- `1110xxxx 10yyyyyy 10zzzzzz` -/
  | three (x : BitVec 4) (y z : BitVec 6) :
      IsGroup [⟨0b1110#4 ++ x⟩, continuation y, continuation z] ⟨x ++ y ++ z⟩

private theorem toNat_bits_append {v w : Nat} (upper : BitVec v) (lower : BitVec w) :
    (upper ++ lower).toNat = upper.toNat * 2 ^ w + lower.toNat := by
  rw [BitVec.toNat_append, ← Nat.shiftLeft_add_eq_or_of_lt lower.isLt, Nat.shiftLeft_eq]

/-- A number whose upper part is the mark ends in bits of its own. -/
private theorem exists_bits {v : Nat} (mark : BitVec v) (w number : Nat)
    (hmark : number / 2 ^ w = mark.toNat) : ∃ x : BitVec w, number = (mark ++ x).toNat := by
  refine ⟨BitVec.ofNat w number, ?_⟩
  rw [toNat_bits_append, BitVec.toNat_ofNat, ← hmark, Nat.div_add_mod']

theorem toNat_continuation (x : BitVec 6) : (continuation x).toNat = 0x80 + x.toNat := toNat_bits_append _ _

theorem exists_continuation {byte : UInt8} (hbyte : 0x80 ≤ byte.toNat ∧ byte.toNat < 0xC0) :
    ∃ x, byte = continuation x := by
  obtain ⟨x, hx⟩ := exists_bits 0b10#2 6 byte.toNat (by change _ = 2; omega)
  exact ⟨x, UInt8.toNat_inj.mp hx⟩

theorem toNat_leadOfOne (x : BitVec 7) : (⟨0b0#1 ++ x⟩ : UInt8).toNat = x.toNat :=
  (toNat_bits_append _ _).trans (Nat.zero_add _)

theorem toNat_leadOfTwo (x : BitVec 5) : (⟨0b110#3 ++ x⟩ : UInt8).toNat = 0xC0 + x.toNat := toNat_bits_append _ _

theorem toNat_leadOfThree (x : BitVec 4) : (⟨0b1110#4 ++ x⟩ : UInt8).toNat = 0xE0 + x.toNat := toNat_bits_append _ _

theorem toUInt16_leadOfOne (x : BitVec 7) : (⟨0b0#1 ++ x⟩ : UInt8).toUInt16 = ⟨0#9 ++ x⟩ := by
  apply UInt16.toNat_inj.mp
  rw [UInt8.toNat_toUInt16, toNat_leadOfOne, UInt16.toNat_ofBitVec, toNat_bits_append]
  exact (Nat.zero_add _).symm

theorem unitOfTwo_eq (x : BitVec 5) (y : BitVec 6) :
    unitOfTwo ⟨0b110#3 ++ x⟩ (continuation y) = ⟨0#5 ++ x ++ y⟩ := by
  apply UInt16.toNat_inj.mp
  have hx := x.isLt
  have hy := y.isLt
  rw [toNat_unitOfTwo, toNat_leadOfTwo, toNat_continuation, UInt16.toNat_ofBitVec, toNat_bits_append, toNat_bits_append]
  change _ = (0 * 2 ^ 5 + x.toNat) * 2 ^ 6 + y.toNat
  omega

theorem unitOfThree_eq (x : BitVec 4) (y z : BitVec 6) :
    unitOfThree ⟨0b1110#4 ++ x⟩ (continuation y) (continuation z) = ⟨x ++ y ++ z⟩ := by
  apply UInt16.toNat_inj.mp
  have hx := x.isLt
  have hy := y.isLt
  have hz := z.isLt
  rw [toNat_unitOfThree, toNat_leadOfThree, toNat_continuation, toNat_continuation, UInt16.toNat_ofBitVec,
    toNat_bits_append, toNat_bits_append]
  omega

theorem isGroup_one {lead : UInt8} {unit : UInt16} (hlead : lead.toNat < 0x80) (hunit : lead.toUInt16 = unit) :
    IsGroup [lead] unit := by
  obtain ⟨x, hx⟩ := exists_bits 0b0#1 7 lead.toNat (by change _ = 0; omega)
  obtain rfl : lead = ⟨0b0#1 ++ x⟩ := UInt8.toNat_inj.mp hx
  rw [← hunit, toUInt16_leadOfOne]
  exact .one x

theorem isGroup_two {lead second : UInt8} {unit : UInt16} (hlead : 0xC0 ≤ lead.toNat ∧ lead.toNat < 0xE0)
    (hsecond : 0x80 ≤ second.toNat ∧ second.toNat < 0xC0) (hunit : unitOfTwo lead second = unit) :
    IsGroup [lead, second] unit := by
  obtain ⟨x, hx⟩ := exists_bits 0b110#3 5 lead.toNat (by change _ = 6; omega)
  obtain rfl : lead = ⟨0b110#3 ++ x⟩ := UInt8.toNat_inj.mp hx
  obtain ⟨y, rfl⟩ := exists_continuation hsecond
  rw [← hunit, unitOfTwo_eq]
  exact .two x y

theorem isGroup_three {lead second third : UInt8} {unit : UInt16} (hlead : 0xE0 ≤ lead.toNat ∧ lead.toNat < 0xF0)
    (hsecond : 0x80 ≤ second.toNat ∧ second.toNat < 0xC0) (hthird : 0x80 ≤ third.toNat ∧ third.toNat < 0xC0)
    (hunit : unitOfThree lead second third = unit) : IsGroup [lead, second, third] unit := by
  obtain ⟨x, hx⟩ := exists_bits 0b1110#4 4 lead.toNat (by change _ = 14; omega)
  obtain rfl : lead = ⟨0b1110#4 ++ x⟩ := UInt8.toNat_inj.mp hx
  obtain ⟨y, rfl⟩ := exists_continuation hsecond
  obtain ⟨z, rfl⟩ := exists_continuation hthird
  rw [← hunit, unitOfThree_eq]
  exact .three x y z

theorem IsGroup.exists_lead {bytes : Bytes} {unit : UInt16} (hgroup : IsGroup bytes unit) :
    ∃ lead more, bytes = lead :: more ∧ ∀ byte ∈ more, ∃ x, byte = continuation x := by
  cases hgroup with
  | one x => exact ⟨_, [], rfl, nofun⟩
  | two x y => exact ⟨_, [_], rfl, by simp⟩
  | three x y z => exact ⟨_, [_, _], rfl, by simp⟩

/-! ### One group in front of any bytes -/

theorem next_of_one {lead : UInt8} (hlead : lead.toNat < 0x80) (rest : Bytes) :
    next lead rest = (lead.toUInt16, rest) := by
  have hlength : groupLength lead = 1 := by rw [groupLength_eq, if_pos hlead]
  unfold next
  rw [hlength]
  match rest with
  | [] => rfl
  | [_] => rfl
  | _ :: _ :: _ => rfl

theorem next_of_two {lead second : UInt8} (hlead : 0xC0 ≤ lead.toNat ∧ lead.toNat < 0xE0)
    (hsecond : 0x80 ≤ second.toNat ∧ second.toNat < 0xC0) (tail : Bytes) :
    next lead (second :: tail) = (unitOfTwo lead second, tail) := by
  have hlength : groupLength lead = 2 := by rw [groupLength_eq, if_neg (by omega), if_pos hlead]
  unfold next
  rw [hlength]
  exact if_pos (isContinuation_eq_true_iff.mpr hsecond)

theorem next_of_three {lead second third : UInt8} (hlead : 0xE0 ≤ lead.toNat ∧ lead.toNat < 0xF0)
    (hsecond : 0x80 ≤ second.toNat ∧ second.toNat < 0xC0) (hthird : 0x80 ≤ third.toNat ∧ third.toNat < 0xC0)
    (tail : Bytes) :
    next lead (second :: third :: tail) = (unitOfThree lead second third, tail) := by
  have hlength : groupLength lead = 3 := by
    rw [groupLength_eq, if_neg (by omega), if_neg (by omega), if_pos hlead]
  unfold next
  rw [hlength]
  exact if_pos (by rw [isContinuation_eq_true_iff.mpr hsecond, isContinuation_eq_true_iff.mpr hthird]; rfl)

/-- A complete group is read as its unit, whatever stands behind it. -/
theorem IsGroup.next_eq {bytes : Bytes} {unit : UInt16} (hgroup : IsGroup bytes unit) {lead : UInt8} {rest tail : Bytes}
    (hbytes : lead :: rest = bytes ++ tail) : next lead rest = (unit, tail) := by
  cases hgroup with
  | one x =>
    obtain ⟨rfl, rfl⟩ := List.cons.inj hbytes
    have hx := x.isLt
    rw [next_of_one (by rw [toNat_leadOfOne]; omega), toUInt16_leadOfOne]
  | two x y =>
    obtain ⟨rfl, rfl⟩ := List.cons.inj hbytes
    have hx := x.isLt
    have hy := y.isLt
    have hlead := toNat_leadOfTwo x
    have hsecond := toNat_continuation y
    rw [← unitOfTwo_eq]
    exact next_of_two (by omega) (by omega) tail
  | three x y z =>
    obtain ⟨rfl, rfl⟩ := List.cons.inj hbytes
    have hx := x.isLt
    have hy := y.isLt
    have hz := z.isLt
    have hlead := toNat_leadOfThree x
    have hsecond := toNat_continuation y
    have hthird := toNat_continuation z
    rw [← unitOfThree_eq]
    exact next_of_three (by omega) (by omega) (by omega) tail

theorem unitsAfter_append (raw : Bytes) (done earlier : List UInt16) :
    unitsAfter raw (done ++ earlier) = earlier.reverse ++ unitsAfter raw done := by
  fun_induction unitsAfter raw done with
  | case1 done => rw [unitsAfter, List.reverse_append]
  | case2 lead rest done ih =>
    rw [unitsAfter]
    exact ih

@[simp] theorem units_nil : units [] = [] := by rw [units, unitsAfter, List.reverse_nil]

theorem units_cons (lead : UInt8) (rest : Bytes) :
    units (lead :: rest) = (next lead rest).1 :: units (next lead rest).2 := by
  rw [units, unitsAfter]
  exact unitsAfter_append (next lead rest).2 [] [(next lead rest).1]

theorem IsGroup.units_append {bytes : Bytes} {unit : UInt16} (hgroup : IsGroup bytes unit) (tail : Bytes) :
    units (bytes ++ tail) = unit :: units tail := by
  obtain ⟨lead, rest, rfl, -⟩ := hgroup.exists_lead
  rw [List.cons_append, units_cons, hgroup.next_eq List.cons_append.symm]

/-! ### The bytes of a unit -/

/-- A mark above the bits of a byte is added to it. -/
private theorem toNat_or_mark {byte mark : UInt8} (width high : Nat) (hmark : mark.toNat = 2 ^ width * high)
    (hbyte : byte.toNat < 2 ^ width) : (byte ||| mark).toNat = mark.toNat + byte.toNat := by
  rw [UInt8.toNat_or, Nat.or_comm, hmark, ← Nat.two_pow_add_eq_or_of_lt hbyte]

private theorem toNat_marked (bits : UInt8) : ((bits &&& 0x3F) ||| 0x80).toNat = 0x80 + bits.toNat % 0x40 := by
  have hbits : (bits &&& 0x3F).toNat = bits.toNat % 0x40 := by
    rw [UInt8.toNat_and]
    exact Nat.and_two_pow_sub_one_eq_mod bits.toNat 6
  rw [toNat_or_mark 6 2 rfl (by omega), hbits]
  rfl

private theorem toNat_shifted (unit amount : UInt16) (hamount : amount.toNat < 16) :
    (unit >>> amount).toUInt8.toNat = unit.toNat / 2 ^ amount.toNat % 0x100 := by
  rw [UInt16.toNat_toUInt8, UInt16.toNat_shiftRight, Nat.mod_eq_of_lt hamount, Nat.shiftRight_eq_div_pow]

theorem unitBytes_eq (unit : UInt16) :
    unitBytes unit =
      if 1 ≤ unit.toNat ∧ unit.toNat ≤ 0x7F then [unit.toUInt8]
      else if unit.toNat ≤ 0x7FF then
        [(unit >>> 6).toUInt8 ||| 0xC0, (unit.toUInt8 &&& 0x3F) ||| 0x80]
      else
        [(unit >>> 12).toUInt8 ||| 0xE0, ((unit >>> 6).toUInt8 &&& 0x3F) ||| 0x80,
          (unit.toUInt8 &&& 0x3F) ||| 0x80] := by
  simp only [unitBytes, Bool.and_eq_true, decide_eq_true_eq, UInt16.le_iff_toNat_le]
  rfl

private theorem toNat_lowerBits (unit : UInt16) :
    ((unit.toUInt8 &&& 0x3F) ||| 0x80).toNat = 0x80 + unit.toNat % 0x40 := by
  rw [toNat_marked, UInt16.toNat_toUInt8]
  omega

private theorem toNat_upperBits (unit : UInt16) : (unit >>> 6).toUInt8.toNat = unit.toNat / 0x40 % 0x100 :=
  toNat_shifted unit 6 (by decide)

theorem isGroup_oneByte {unit : UInt16} (hunit : unit.toNat ≤ 0x7F) : IsGroup [unit.toUInt8] unit := by
  have hbyte : unit.toUInt8.toNat = unit.toNat := by
    rw [UInt16.toNat_toUInt8]
    omega
  have hvalue : unit.toUInt8.toUInt16 = unit := by
    apply UInt16.toNat_inj.mp
    rw [UInt8.toNat_toUInt16, hbyte]
  exact isGroup_one (by omega) hvalue

theorem isGroup_twoBytes {unit : UInt16} (hunit : unit.toNat ≤ 0x7FF) :
    IsGroup [(unit >>> 6).toUInt8 ||| 0xC0, (unit.toUInt8 &&& 0x3F) ||| 0x80] unit := by
  have hupper := toNat_upperBits unit
  have hlower := toNat_lowerBits unit
  have hlead : ((unit >>> 6).toUInt8 ||| 0xC0).toNat = 0xC0 + unit.toNat / 0x40 := by
    rw [toNat_or_mark 6 3 rfl (by omega), hupper, Nat.mod_eq_of_lt (by omega)]
    rfl
  have hvalue : unitOfTwo ((unit >>> 6).toUInt8 ||| 0xC0) ((unit.toUInt8 &&& 0x3F) ||| 0x80) = unit := by
    apply UInt16.toNat_inj.mp
    rw [toNat_unitOfTwo, hlead, hlower]
    omega
  exact isGroup_two (by omega) (by omega) hvalue

/-- Three bytes have room for every unit. -/
theorem isGroup_threeBytes (unit : UInt16) :
    IsGroup [(unit >>> 12).toUInt8 ||| 0xE0, ((unit >>> 6).toUInt8 &&& 0x3F) ||| 0x80,
      (unit.toUInt8 &&& 0x3F) ||| 0x80] unit := by
  have hunit := unit.toNat_lt
  have hlower := toNat_lowerBits unit
  have hhigh : (unit >>> 12).toUInt8.toNat = unit.toNat / 0x1000 := by
    rw [toNat_shifted unit 12 (by decide)]
    change unit.toNat / 0x1000 % 0x100 = _
    omega
  have hlead : ((unit >>> 12).toUInt8 ||| 0xE0).toNat = 0xE0 + unit.toNat / 0x1000 := by
    rw [toNat_or_mark 4 14 rfl (by omega), hhigh]
    rfl
  have hsecond : (((unit >>> 6).toUInt8 &&& 0x3F) ||| 0x80).toNat = 0x80 + unit.toNat / 0x40 % 0x40 := by
    rw [toNat_marked, toNat_upperBits]
    omega
  have hvalue : unitOfThree ((unit >>> 12).toUInt8 ||| 0xE0) (((unit >>> 6).toUInt8 &&& 0x3F) ||| 0x80)
      ((unit.toUInt8 &&& 0x3F) ||| 0x80) = unit := by
    apply UInt16.toNat_inj.mp
    rw [toNat_unitOfThree, hlead, hsecond, hlower]
    omega
  exact isGroup_three (by omega) (by omega) (by omega) hvalue

theorem isGroup_unitBytes (unit : UInt16) : IsGroup (unitBytes unit) unit := by
  rw [unitBytes_eq]
  split
  · next hone => exact isGroup_oneByte hone.2
  · split
    · next htwo => exact isGroup_twoBytes htwo
    · exact isGroup_threeBytes unit

/-- The bytes of a unit are read as this unit, whatever stands behind them. -/
theorem units_unitBytes_append (unit : UInt16) (tail : Bytes) :
    units (unitBytes unit ++ tail) = unit :: units tail := (isGroup_unitBytes unit).units_append tail

theorem units_encodeUnits (us : List UInt16) : units (encodeUnits us) = us := by
  induction us with
  | nil => exact units_nil
  | cons unit us ih =>
    change units (unitBytes unit ++ encodeUnits us) = _
    rw [units_unitBytes_append, ih]

/-- Every text is found again in its bytes. -/
theorem decode_encode (text : String) : decode (encode text) = text := by
  rw [decode, encode, units_encodeUnits, Utf16.decode_units]

end ClassInspect.ModifiedUtf8
