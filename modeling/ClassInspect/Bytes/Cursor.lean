import ClassInspect.Bytes.BigEndian
import ClassInspect.ClassFile.Fault

/-!
# Reading a byte string from front to back

A `Cursor` is a position in a byte string. One operation moves it: `Decoder.bytes` hands out the next
`n` bytes, or refuses without moving when fewer are left. A `Decoder` is a computation over a cursor
that stops at the first fault; every field, list and table of the class file format is built from
the few decoders here.

A fault ends a decoder, so what becomes of its cursor does not matter. It does matter to a reader that
goes on after a fault. The reads are therefore written for every monad that has a cursor and faults.
-/

namespace ClassInspect

/-- A position in a byte string: the bytes still to read and the number of bytes before them. -/
structure Cursor where
  rest : Bytes
  offset : Nat
deriving Repr, DecidableEq

namespace Cursor

def start (data : Bytes) : Cursor := ⟨data, 0⟩

def remaining (cursor : Cursor) : Nat := cursor.rest.length

end Cursor

/-- A step of decoding: consumes bytes at the cursor, or stops with a fault. -/
abbrev Decoder (α : Type) := StateT Cursor (Except Fault) α

namespace Decoder

section Reads

variable {m : Type → Type} [Monad m] [MonadStateOf Cursor m] [MonadExceptOf Fault m]

/-- The next `n` bytes. The length of what could be taken decides, so the cost is that of the bytes
taken and not of the bytes left. -/
@[inline] def bytes (n : Nat) : m Bytes := do
  let cursor ← get
  let taken := cursor.rest.take n
  if taken.length = n then
    set (⟨cursor.rest.drop n, cursor.offset + n⟩ : Cursor)
    return taken
  else
    throw (.unexpectedEnd cursor.offset n)

/-- A big-endian number of the given width in bytes. -/
@[inline] def number (width : Nat) : m Nat := do
  return BigEndian.toNat (← bytes width)

@[inline] def u1 : m UInt8 := do return UInt8.ofNat (← number 1)

@[inline] def u2 : m UInt16 := do return UInt16.ofNat (← number 2)

@[inline] def u4 : m UInt32 := do return UInt32.ofNat (← number 4)

@[inline] def u8 : m UInt64 := do return UInt64.ofNat (← number 8)

end Reads

def fail {α : Type} (fault : Fault) : Decoder α := fun _ => .error fault

/-- `n` items in a row, behind those already read, which stand in reverse. -/
def repeatedAfter {α : Type} (item : Decoder α) : Nat → List α → Decoder (List α)
  | 0, done => pure done.reverse
  | n + 1, done => do
    let next ← item
    repeatedAfter item n (next :: done)

def repeated {α : Type} (item : Decoder α) (n : Nat) : Decoder (List α) := repeatedAfter item n []

/-- A list whose length stands before it as a two-byte number. -/
def counted {α : Type} (item : Decoder α) : Decoder (List α) := do
  let count ← u2
  repeated item count.toNat

end Decoder

end ClassInspect
