/-!
# Big-endian numbers

A number field of a class file is a run of bytes, most significant byte first. `toNat` reads such a
run of any width and `ofNat` writes the low bytes of a number, so the two fix the format of every
fixed-width field.
-/

namespace ClassInspect

/-- A byte string. -/
abbrev Bytes := List UInt8

namespace BigEndian

/-- The number that a byte string spells, most significant byte first. -/
def toNat (bytes : Bytes) : Nat :=
  bytes.foldl (fun number byte => number * 256 + byte.toNat) 0

/-- The `width` low bytes of a number, most significant byte first. -/
def ofNat : (width number : Nat) → Bytes
  | 0, _ => []
  | width + 1, number => ofNat width (number / 256) ++ [UInt8.ofNat number]

end BigEndian

end ClassInspect
