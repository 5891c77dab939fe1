import ClassInspect.Bytes.BigEndian
import ClassInspect.Text.Utf16

/-!
# Modified UTF-8

Text in a class file is a sequence of 16-bit units, each written on its own in one to three bytes:
zero takes two bytes and a supplementary character takes two groups of three. `units` groups any
byte string: a byte that starts no complete group counts as one replacement unit and reading goes on
with the next byte, so damage stays local. Overlong groups are accepted.
-/

namespace ClassInspect.ModifiedUtf8

/-- The unit that stands for a byte outside every group. -/
def malformed : UInt16 := 0xFFFD

def isContinuation (byte : UInt8) : Bool := byte &&& 0xC0 == 0x80

/-- The length of the group that a byte announces; zero if it starts none. -/
def groupLength (lead : UInt8) : Nat :=
  if lead &&& 0x80 == 0 then 1
  else if lead &&& 0xE0 == 0xC0 then 2
  else if lead &&& 0xF0 == 0xE0 then 3
  else 0

def unitOfTwo (lead second : UInt8) : UInt16 :=
  (lead &&& 0x1F).toUInt16 <<< 6 ||| (second &&& 0x3F).toUInt16

def unitOfThree (lead second third : UInt8) : UInt16 :=
  (lead &&& 0x0F).toUInt16 <<< 12 ||| (second &&& 0x3F).toUInt16 <<< 6 ||| (third &&& 0x3F).toUInt16

/-- The unit that starts at a byte, and the bytes behind its group. -/
def next (lead : UInt8) (rest : Bytes) : UInt16 × Bytes :=
  match groupLength lead, rest with
  | 1, _ => (lead.toUInt16, rest)
  | 2, second :: tail =>
    if isContinuation second then (unitOfTwo lead second, tail) else (malformed, rest)
  | 3, second :: third :: tail =>
    if isContinuation second && isContinuation third then (unitOfThree lead second third, tail)
    else (malformed, rest)
  | _, _ => (malformed, rest)

theorem length_next_le (lead : UInt8) (rest : Bytes) : (next lead rest).2.length ≤ rest.length := by
  unfold next
  split
  · exact Nat.le_refl _
  · split
    · exact Nat.le_succ _
    · exact Nat.le_refl _
  · split
    · exact Nat.le_add_right _ 2
    · exact Nat.le_refl _
  · exact Nat.le_refl _

/-- Groups the bytes behind the units already read, which stand in reverse. -/
def unitsAfter : Bytes → List UInt16 → List UInt16
  | [], done => done.reverse
  | lead :: rest, done => unitsAfter (next lead rest).2 ((next lead rest).1 :: done)
termination_by raw => raw.length
decreasing_by exact Nat.lt_succ_of_le (length_next_le lead rest)

/-- The 16-bit units of a byte string. -/
def units (raw : Bytes) : List UInt16 := unitsAfter raw []

/-- The text of a byte string. -/
def decode (raw : Bytes) : String := Utf16.decode (units raw)

/-- The bytes of one unit: zero and the units from 0x80 to 0x7FF take two, larger ones three. -/
def unitBytes (unit : UInt16) : Bytes :=
  if 0x0001 ≤ unit && unit ≤ 0x007F then [unit.toUInt8]
  else if unit ≤ 0x07FF then
    [(unit >>> 6).toUInt8 ||| 0xC0, (unit.toUInt8 &&& 0x3F) ||| 0x80]
  else
    [(unit >>> 12).toUInt8 ||| 0xE0, ((unit >>> 6).toUInt8 &&& 0x3F) ||| 0x80, (unit.toUInt8 &&& 0x3F) ||| 0x80]

def encodeUnits (us : List UInt16) : Bytes := us.flatMap unitBytes

/-- The bytes of a text. -/
def encode (text : String) : Bytes := encodeUnits (Utf16.units text)

end ClassInspect.ModifiedUtf8
