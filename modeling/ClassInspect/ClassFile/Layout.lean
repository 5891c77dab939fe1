import ClassInspect.ClassFile.Basic
import ClassInspect.Text.ModifiedUtf8

/-!
# The byte layout of class files

How a class file is written: big-endian fields, lists with their length before them, and one entry for
each constant with its tag before it. The second slot of a wide constant has no bytes of its own.
-/

namespace ClassInspect

namespace Layout

def u1 (value : UInt8) : Bytes := BigEndian.ofNat 1 value.toNat

def u2 (value : UInt16) : Bytes := BigEndian.ofNat 2 value.toNat

def u4 (value : UInt32) : Bytes := BigEndian.ofNat 4 value.toNat

def u8 (value : UInt64) : Bytes := BigEndian.ofNat 8 value.toNat

/-- A list with its length before it. -/
def counted {α : Type} (item : α → Bytes) (items : List α) : Bytes :=
  BigEndian.ofNat 2 items.length ++ items.flatMap item

/-- A run of bytes behind its length, which takes `width` bytes. -/
def sized (width : Nat) (content : Bytes) : Bytes := BigEndian.ofNat width content.length ++ content

/-- The bytes of a constant. -/
def constant : Constant → Bytes
  | .utf8 value => u1 1 ++ sized 2 (ModifiedUtf8.encode value)
  | .integer value => u1 3 ++ u4 value.toUInt32
  | .float bits => u1 4 ++ u4 bits
  | .long value => u1 5 ++ u8 value.toUInt64
  | .double bits => u1 6 ++ u8 bits
  | .classRef name => u1 7 ++ u2 name
  | .string content => u1 8 ++ u2 content
  | .fieldRef owner nameAndType => u1 9 ++ u2 owner ++ u2 nameAndType
  | .methodRef owner nameAndType => u1 10 ++ u2 owner ++ u2 nameAndType
  | .interfaceMethodRef owner nameAndType => u1 11 ++ u2 owner ++ u2 nameAndType
  | .nameAndType name descriptor => u1 12 ++ u2 name ++ u2 descriptor
  | .methodHandle kind reference => u1 15 ++ u1 kind ++ u2 reference
  | .methodType descriptor => u1 16 ++ u2 descriptor
  | .invokeDynamic bootstrap nameAndType => u1 18 ++ u2 bootstrap ++ u2 nameAndType
  | .unusable => []

def constantPool (pool : ConstantPool) : Bytes :=
  BigEndian.ofNat 2 (pool.size + 1) ++ pool.slots.toList.flatMap constant

def attributeEntry (entry : Attribute) : Bytes := u2 entry.name ++ sized 4 entry.info

def member (entry : Member) : Bytes :=
  u2 entry.access.bits ++ u2 entry.name ++ u2 entry.descriptor ++ counted attributeEntry entry.attributes

end Layout

/-- The bytes of a class file. -/
def ClassFile.encode (file : ClassFile) : Bytes :=
  Layout.u4 0xCAFEBABE ++ Layout.u2 file.minorVersion ++ Layout.u2 file.majorVersion ++
    Layout.constantPool file.pool ++ Layout.u2 file.access.bits ++ Layout.u2 file.thisClass ++
    Layout.u2 file.superClass ++ Layout.counted Layout.u2 file.interfaces ++
    Layout.counted Layout.member file.fields ++ Layout.counted Layout.member file.methods ++
    Layout.counted Layout.attributeEntry file.attributes

end ClassInspect
