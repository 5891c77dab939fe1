/-!
# Constants

The entries of a constant pool. Numbers of floating point are held as bit patterns, and all other
references are indices into the same pool.
-/

namespace ClassInspect

/-- One slot of a constant pool. -/
inductive Constant where
  | utf8 (value : String)
  | integer (value : Int32)
  | float (bits : UInt32)
  | long (value : Int64)
  | double (bits : UInt64)
  | classRef (name : UInt16)
  | string (content : UInt16)
  | fieldRef (owner nameAndType : UInt16)
  | methodRef (owner nameAndType : UInt16)
  | interfaceMethodRef (owner nameAndType : UInt16)
  | nameAndType (name descriptor : UInt16)
  | methodHandle (kind : UInt8) (reference : UInt16)
  | methodType (descriptor : UInt16)
  | invokeDynamic (bootstrap nameAndType : UInt16)
  /-- The second slot of a `long` or `double`. -/
  | unusable
deriving Repr, DecidableEq

namespace Constant

/-- The name of the kind of constant. -/
def kindName : Constant → String
  | utf8 _ => "Utf8"
  | integer _ => "Integer"
  | float _ => "Float"
  | long _ => "Long"
  | double _ => "Double"
  | classRef _ => "Class"
  | string _ => "String"
  | fieldRef .. => "Fieldref"
  | methodRef .. => "Methodref"
  | interfaceMethodRef .. => "InterfaceMethodref"
  | nameAndType .. => "NameAndType"
  | methodHandle .. => "MethodHandle"
  | methodType _ => "MethodType"
  | invokeDynamic .. => "InvokeDynamic"
  | unusable => "Unusable"

/-- The constant takes two slots. -/
def isWide : Constant → Bool
  | long _ | double _ => true
  | _ => false

def isUsable : Constant → Bool
  | unusable => false
  | _ => true

/-- The class and the name and type that a field or method reference links. -/
def memberLinks : Constant → Option (UInt16 × UInt16)
  | fieldRef owner member | methodRef owner member | interfaceMethodRef owner member => some (owner, member)
  | _ => none

end Constant

end ClassInspect
