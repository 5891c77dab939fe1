import ClassInspect.Bytes.Cursor

/-!
# Fields read one by one

A field is one read of fixed width. `Cursor.step` reads a field and tells where the read has left the
cursor, and `Cursor.trace` goes on from there after failures too.
-/

namespace ClassInspect

inductive Field where
  | u1
  | u2
  | u4
  | u8
  /-- A single, as its bit pattern. -/
  | f4
  /-- A double, as its bit pattern. -/
  | f8
  | bytes (length : Nat)
deriving Repr, DecidableEq

inductive FieldValue where
  | u1 (value : UInt8)
  | u2 (value : UInt16)
  | u4 (value : UInt32)
  | u8 (value : UInt64)
  | f4 (bits : UInt32)
  | f8 (bits : UInt64)
  | bytes (content : Bytes)
deriving Repr, DecidableEq

namespace Field

def width : Field → Nat
  | u1 => 1
  | u2 => 2
  | u4 | f4 => 4
  | u8 | f8 => 8
  | bytes length => length

@[inline] def read {m : Type → Type} [Monad m] [MonadStateOf Cursor m] [MonadExceptOf Fault m] :
    Field → m FieldValue
  | u1 => return .u1 (← Decoder.u1)
  | u2 => return .u2 (← Decoder.u2)
  | u4 => return .u4 (← Decoder.u4)
  | u8 => return .u8 (← Decoder.u8)
  | f4 => return .f4 (← Decoder.u4)
  | f8 => return .f8 (← Decoder.u8)
  | bytes length => return .bytes (← Decoder.bytes length)

end Field

/-- The bytes that spell a value. -/
def FieldValue.pattern : FieldValue → Bytes
  | u1 value => BigEndian.ofNat 1 value.toNat
  | u2 value => BigEndian.ofNat 2 value.toNat
  | u4 value | f4 value => BigEndian.ofNat 4 value.toNat
  | u8 value | f8 value => BigEndian.ofNat 8 value.toNat
  | bytes content => content

namespace Cursor

/-- Reads a field and keeps the cursor, whatever the outcome. -/
def step (cursor : Cursor) (field : Field) : Except Fault FieldValue × Cursor :=
  let reading : ExceptT Fault (StateM Cursor) FieldValue := field.read
  reading.run.run cursor

/-- Reads fields in order and tells the outcome of each with the cursor behind it. -/
def trace (cursor : Cursor) : List Field → List (Except Fault FieldValue × Cursor)
  | [] => []
  | field :: fields =>
    let outcome := cursor.step field
    outcome :: outcome.2.trace fields

end Cursor

end ClassInspect
