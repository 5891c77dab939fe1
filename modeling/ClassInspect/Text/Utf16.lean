/-!
# Sixteen-bit text units

A character of the basic plane is one 16-bit unit and a supplementary character is a pair of
surrogates. `decode` reads any sequence of units: pairs are combined and a surrogate without its
partner becomes the replacement character. `units` is the way back.
-/

namespace ClassInspect.Utf16

/-- Stands for what could not be decoded. -/
def replacement : Char := '\uFFFD'

def isHigh (unit : UInt16) : Bool := 0xD800 ≤ unit && unit ≤ 0xDBFF

def isLow (unit : UInt16) : Bool := 0xDC00 ≤ unit && unit ≤ 0xDFFF

/-- The supplementary character that a high and a low surrogate spell. -/
def pair (high low : UInt16) : Char :=
  Char.ofNat (0x10000 + (high.toNat - 0xD800) * 0x400 + (low.toNat - 0xDC00))

/-- The character of a unit that is no half of a pair. -/
def lone (unit : UInt16) : Char :=
  if isHigh unit || isLow unit then replacement else Char.ofNat unit.toNat

/-- Decodes the units behind the characters already decoded, which stand in reverse. -/
def decodeAfter : List UInt16 → List Char → List Char
  | [], done => done.reverse
  | [unit], done => (lone unit :: done).reverse
  | unit :: next :: rest, done =>
    if isHigh unit && isLow next then decodeAfter rest (pair unit next :: done)
    else decodeAfter (next :: rest) (lone unit :: done)

/-- The text of a sequence of units; surrogates without a partner are replaced. -/
def decode (units : List UInt16) : String := String.ofList (decodeAfter units [])

/-- The one or two units of a character. -/
def charUnits (char : Char) : List UInt16 :=
  if char.toNat < 0x10000 then [UInt16.ofNat char.toNat]
  else
    let value := char.toNat - 0x10000
    [UInt16.ofNat (0xD800 + value / 0x400), UInt16.ofNat (0xDC00 + value % 0x400)]

def units (text : String) : List UInt16 := text.toList.flatMap charUnits

end ClassInspect.Utf16
