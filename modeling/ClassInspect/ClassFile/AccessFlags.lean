/-!
# Access flags

Sixteen bits of properties. A few bits mean different things on classes, fields and methods, so a flag's
name depends on where the flags stand.
-/

namespace ClassInspect

/-- The access and property bits of a class, field or method. -/
structure AccessFlags where
  bits : UInt16
deriving Repr, DecidableEq

/-- Where a set of flags stands. -/
inductive FlagOwner where
  | classFile
  | field
  | method
deriving Repr, DecidableEq

namespace AccessFlags

/-- At least one bit of the mask is set. -/
def contains (flags : AccessFlags) (mask : UInt16) : Bool := flags.bits &&& mask != 0

def isPublic (flags : AccessFlags) : Bool := flags.contains 0x0001
def isPrivate (flags : AccessFlags) : Bool := flags.contains 0x0002
def isProtected (flags : AccessFlags) : Bool := flags.contains 0x0004
def isStatic (flags : AccessFlags) : Bool := flags.contains 0x0008
def isFinal (flags : AccessFlags) : Bool := flags.contains 0x0010
def isSuper (flags : AccessFlags) : Bool := flags.contains 0x0020
def isInterface (flags : AccessFlags) : Bool := flags.contains 0x0200
def isAbstract (flags : AccessFlags) : Bool := flags.contains 0x0400
def isSynthetic (flags : AccessFlags) : Bool := flags.contains 0x1000
def isAnnotation (flags : AccessFlags) : Bool := flags.contains 0x2000
def isEnum (flags : AccessFlags) : Bool := flags.contains 0x4000

/-- The named flags of each kind of owner, in the order in which they are listed. -/
def named : FlagOwner → List (UInt16 × String)
  | .classFile => [
    (0x0001, "public"), (0x0010, "final"), (0x0020, "super"), (0x0200, "interface"), (0x0400, "abstract"),
    (0x1000, "synthetic"), (0x2000, "annotation"), (0x4000, "enum")]
  | .field => [
    (0x0001, "public"), (0x0002, "private"), (0x0004, "protected"), (0x0008, "static"), (0x0010, "final"),
    (0x0040, "volatile"), (0x0080, "transient"), (0x1000, "synthetic"), (0x4000, "enum")]
  | .method => [
    (0x0001, "public"), (0x0002, "private"), (0x0004, "protected"), (0x0008, "static"), (0x0010, "final"),
    (0x0020, "synchronized"), (0x0040, "bridge"), (0x0080, "varargs"), (0x0100, "native"), (0x0400, "abstract"),
    (0x0800, "strict"), (0x1000, "synthetic")]

/-- The names of the flags that are set. -/
def names (flags : AccessFlags) (owner : FlagOwner) : List String :=
  ((named owner).filter fun (mask, _) => flags.contains mask).map Prod.snd

end AccessFlags

end ClassInspect
