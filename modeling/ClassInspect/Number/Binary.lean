/-!
# Binary floating-point numbers

Floating-point constants are kept as bit patterns. A pattern of a format stands for a dyadic number
`± significand · 2 ^ exponent`, an infinity or a NaN; `BinaryFormat.value` reads it off exactly.
-/

namespace ClassInspect

/-- An interchange format: a sign bit, then the exponent field, then the fraction field. -/
structure BinaryFormat where
  exponentBits : Nat
  fractionBits : Nat
deriving Repr, DecidableEq

/-- What a bit pattern stands for. -/
inductive BinaryValue where
  | nan
  | infinite (negative : Bool)
  /-- The number `significand · 2 ^ exponent`, negated if `negative`. -/
  | finite (negative : Bool) (significand : Nat) (exponent : Int)
deriving Repr, DecidableEq

namespace BinaryFormat

def single : BinaryFormat := ⟨8, 23⟩

def double : BinaryFormat := ⟨11, 52⟩

def bias (format : BinaryFormat) : Nat := Nat.pow 2 (format.exponentBits - 1) - 1

/-- The exponent shared by the subnormal numbers and the smallest normal ones. -/
def leastExponent (format : BinaryFormat) : Int := 1 - (format.bias + format.fractionBits : Nat)

def value (format : BinaryFormat) (bits : Nat) : BinaryValue :=
  let fraction := bits % Nat.pow 2 format.fractionBits
  let field := bits / Nat.pow 2 format.fractionBits % Nat.pow 2 format.exponentBits
  let negative := bits / Nat.pow 2 (format.fractionBits + format.exponentBits) % 2 == 1
  if field = Nat.pow 2 format.exponentBits - 1 then
    if fraction = 0 then .infinite negative else .nan
  else if field = 0 then .finite negative fraction format.leastExponent
  else .finite negative (Nat.pow 2 format.fractionBits + fraction) (format.leastExponent + (field - 1 : Nat))

/-- Halves are rounded to the even neighbour. -/
def roundedShift (number places : Nat) : Nat :=
  let quotient := number / Nat.pow 2 places
  let twice := 2 * (number % Nat.pow 2 places)
  if twice < Nat.pow 2 places then quotient
  else if twice = Nat.pow 2 places then quotient + quotient % 2
  else quotient + 1

/-- The bits of the double nearest to `± significand · 2 ^ exponent`, for a number in the range of
the normal doubles or zero. A significand that rounds up to the next power of two carries into the
exponent field. -/
def doubleBits (negative : Bool) (significand : Nat) (exponent : Int) : UInt64 :=
  let sign := if negative then Nat.pow 2 63 else 0
  if significand = 0 then UInt64.ofNat sign
  else
    let length := significand.log2
    let aligned := if length ≤ 52 then significand * Nat.pow 2 (52 - length) else roundedShift significand (length - 52)
    let field := (exponent + length + 1022).toNat
    UInt64.ofNat (sign + field * Nat.pow 2 52 + aligned)

/-- The double nearest to an integer. -/
def doubleOfInt (number : Int) : UInt64 := doubleBits (number < 0) number.natAbs 0

/-- The double that equals a single; a NaN stays one and an infinity keeps its sign. -/
def widen (bits : UInt32) : UInt64 :=
  match single.value bits.toNat with
  | .nan => 0x7FF8000000000000
  | .infinite negative => if negative then 0xFFF0000000000000 else 0x7FF0000000000000
  | .finite negative significand exponent => doubleBits negative significand exponent

end BinaryFormat

end ClassInspect
