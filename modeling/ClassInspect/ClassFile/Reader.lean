import ClassInspect.Bytes.Cursor
import ClassInspect.ClassFile.Basic
import ClassInspect.Text.ModifiedUtf8

/-!
# Decoding class files

The class file format, one decoder for each of its parts in the order of the bytes. A class file is
accepted if its structure can be read to the end of the class attributes and its own name resolves;
bytes behind the structure are left alone.
-/

namespace ClassInspect

namespace Decoder

/-- A text entry: its length in bytes, then its bytes. -/
def utf8 : Decoder Constant := do
  let length ← u2
  return .utf8 (ModifiedUtf8.decode (← bytes length.toNat))

/-- Two pool indices. -/
def indexPair (make : UInt16 → UInt16 → Constant) : Decoder Constant := do
  let first ← u2
  let second ← u2
  return make first second

/-- The payload of a constant with the given tag, for the slot with the given index. -/
def constantOfTag (index : UInt16) (tag : UInt8) : Decoder Constant :=
  match tag with
  | 1 => utf8
  | 3 => do return .integer (← u4).toInt32
  | 4 => do return .float (← u4)
  | 5 => do return .long (← u8).toInt64
  | 6 => do return .double (← u8)
  | 7 => do return .classRef (← u2)
  | 8 => do return .string (← u2)
  | 9 => indexPair .fieldRef
  | 10 => indexPair .methodRef
  | 11 => indexPair .interfaceMethodRef
  | 12 => indexPair .nameAndType
  | 15 => do
    let kind ← u1
    let reference ← u2
    return .methodHandle kind reference
  | 16 => do return .methodType (← u2)
  | 18 => indexPair .invokeDynamic
  | _ => fail (.invalidTag tag index)

def constant (index : UInt16) : Decoder Constant := do constantOfTag index (← u1)

/-- Fills the given number of slots behind those already read; `index` is that of the next slot. A wide
constant fills two slots, so there must be one more to fill. -/
def slots : Nat → UInt16 → Array Constant → Decoder (Array Constant)
  | 0, _, done => pure done
  | 1, index, done => do
    let last ← constant index
    if last.isWide then fail (.invalidIndex index .twoSlots)
    pure (done.push last)
  | left + 2, index, done => do
    let next ← constant index
    if next.isWide then slots left (index + 2) ((done.push next).push .unusable)
    else slots (left + 1) (index + 1) (done.push next)

/-- The constant pool, whose stated size is one more than its number of slots. -/
def constantPool : Decoder ConstantPool := do
  let count ← u2
  return ⟨← slots (count.toNat - 1) 1 #[]⟩

def attributeEntry : Decoder Attribute := do
  let name ← u2
  let length ← u4
  return { name, info := ← bytes length.toNat }

def member : Decoder Member := do
  let access ← u2
  let name ← u2
  let descriptor ← u2
  return { access := ⟨access⟩, name, descriptor, attributes := ← counted attributeEntry }

/-- The number with which every class file starts. -/
def classMagic : UInt32 := 0xCAFEBABE

def magic : Decoder Unit := do
  let found ← u4
  if found != classMagic then fail (.badMagic found)

/-- The part of a class file up to the end of its constant pool: the minor and the major version and the pool. -/
def preamble : Decoder (UInt16 × UInt16 × ConstantPool) := do
  magic
  let minor ← u2
  let major ← u2
  return (minor, major, ← constantPool)

/-- A class file from its first byte to the last byte of its attributes. -/
def classFile : Decoder ClassFile := do
  let (minorVersion, majorVersion, pool) ← preamble
  let access ← u2
  let thisClass ← u2
  let superClass ← u2
  let interfaces ← counted u2
  let fields ← counted member
  let methods ← counted member
  let attributes ← counted attributeEntry
  return { minorVersion, majorVersion, pool, access := ⟨access⟩, thisClass, superClass, interfaces, fields, methods,
           attributes }

end Decoder

namespace ClassFile

/-- Decodes the class file at the front of a byte string. -/
def parse (data : Bytes) : Except Fault ClassFile := do
  let (file, _) ← Decoder.classFile (Cursor.start data)
  let _ ← file.thisClassName
  return file

/-- The number of slots of the constant pool, once it has been read. -/
def slotsRead? (data : Bytes) : Option Nat :=
  match Decoder.preamble (Cursor.start data) with
  | .ok ((_, _, pool), _) => some pool.size
  | .error _ => none

/-- The number of bytes behind the structure, once it has been read. -/
def trailing? (data : Bytes) : Option Nat :=
  match Decoder.classFile (Cursor.start data) with
  | .ok (_, cursor) => some cursor.remaining
  | .error _ => none

end ClassFile

end ClassInspect
