import ClassInspect.Bytes.BigEndian
import Mathlib.Algebra.Ring.Nat
import Mathlib.Data.List.Induction

/-!
# Big-endian numbers and their bytes

Reading and writing a number of fixed width are inverse to each other. A run of `width` bytes spells a
number below `256 ^ width`, and every such number has exactly one run of that width, so a decoder that
knows the width of a field loses nothing and invents nothing.
-/

namespace ClassInspect.BigEndian

@[simp] theorem length_ofNat (width number : Nat) : (ofNat width number).length = width := by
  induction width generalizing number with
  | zero => rfl
  | succ width ih => rw [ofNat, List.length_append, ih, List.length_singleton]

theorem toNat_append_singleton (content : Bytes) (byte : UInt8) :
    toNat (content ++ [byte]) = toNat content * 256 + byte.toNat := by
  rw [toNat, List.foldl_append, List.foldl_cons, List.foldl_nil, toNat]

theorem toNat_lt (content : Bytes) : toNat content < 256 ^ content.length := by
  -- the last byte is the least significant one, so the induction takes bytes off the end
  induction content using List.reverseRecOn with
  | nil => decide
  | append_singleton front byte ih =>
    have hbyte := byte.toNat_lt
    rw [toNat_append_singleton, List.length_append, List.length_singleton, Nat.pow_succ]
    omega

theorem toNat_ofNat {width number : Nat} (hnumber : number < 256 ^ width) :
    toNat (ofNat width number) = number := by
  induction width generalizing number with
  | zero =>
    have hzero : number = 0 := by simpa using hnumber
    rw [hzero]
    rfl
  | succ width ih =>
    have hquotient : number / 256 < 256 ^ width := by
      rw [Nat.div_lt_iff_lt_mul (by decide), ← Nat.pow_succ]
      exact hnumber
    rw [ofNat, toNat_append_singleton, ih hquotient, UInt8.toNat_ofNat']
    omega

theorem ofNat_toNat (content : Bytes) : ofNat content.length (toNat content) = content := by
  induction content using List.reverseRecOn with
  | nil => rfl
  | append_singleton front byte ih =>
    have hbyte := byte.toNat_lt
    have hquotient : (toNat front * 256 + byte.toNat) / 256 = toNat front := by omega
    have hlast : UInt8.ofNat (toNat front * 256 + byte.toNat) = byte := by
      apply UInt8.toNat_inj.mp
      rw [UInt8.toNat_ofNat']
      omega
    rw [toNat_append_singleton, List.length_append, List.length_singleton, ofNat, hquotient, hlast, ih]

/-- A run of bytes has the given width and spells the given number exactly if it is how the number is
written. -/
theorem length_eq_and_toNat_eq_iff {width number : Nat} {content : Bytes} :
    content.length = width ∧ toNat content = number ↔ number < 256 ^ width ∧ content = ofNat width number := by
  constructor
  · rintro ⟨rfl, rfl⟩
    exact ⟨toNat_lt content, (ofNat_toNat content).symm⟩
  · rintro ⟨hnumber, rfl⟩
    exact ⟨length_ofNat width number, toNat_ofNat hnumber⟩

end ClassInspect.BigEndian
