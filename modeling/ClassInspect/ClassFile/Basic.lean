import ClassInspect.ClassFile.AccessFlags
import ClassInspect.ClassFile.Pool

/-!
# Class files

The structure of a class file as it stands on disk: names are pool indices, and attribute payloads are
uninterpreted bytes. The queries here follow the indices of a class that need not be consistent.
-/

namespace ClassInspect

/-- A named payload. -/
structure Attribute where
  name : UInt16
  info : List UInt8
deriving Repr, DecidableEq

/-- A field or a method. -/
structure Member where
  access : AccessFlags
  name : UInt16
  descriptor : UInt16
  attributes : List Attribute
deriving Repr, DecidableEq

structure ClassFile where
  minorVersion : UInt16
  majorVersion : UInt16
  pool : ConstantPool
  access : AccessFlags
  thisClass : UInt16
  superClass : UInt16
  interfaces : List UInt16
  fields : List Member
  methods : List Member
  attributes : List Attribute
deriving Repr, DecidableEq

namespace ClassFile

def thisClassName (file : ClassFile) : Except Fault String := file.pool.className file.thisClass

/-- Absent for a class whose super class index is zero. -/
def superClassName (file : ClassFile) : Except Fault (Option String) :=
  if file.superClass = 0 then .ok none else (file.pool.className file.superClass).map some

def interfaceNames (file : ClassFile) : Except Fault (List String) := file.interfaces.mapM file.pool.className

def memberName (file : ClassFile) (member : Member) : Except Fault String := file.pool.utf8 member.name

def memberDescriptor (file : ClassFile) (member : Member) : Except Fault String := file.pool.utf8 member.descriptor

def attributeNames (file : ClassFile) (attributes : List Attribute) : Except Fault (List String) :=
  attributes.mapM fun entry => file.pool.utf8 entry.name

/-- The member's name and descriptor both resolve, to the ones given. -/
def isNamed (file : ClassFile) (name descriptor : String) (member : Member) : Bool :=
  (file.memberName member).toOption == some name && (file.memberDescriptor member).toOption == some descriptor

/-- The position of the first method with this name and descriptor. -/
def findMethodIndex? (file : ClassFile) (name descriptor : String) : Option Nat :=
  file.methods.findIdx? (file.isNamed name descriptor)

/-- The first method with this name and descriptor. -/
def findMethod? (file : ClassFile) (name descriptor : String) : Option Member :=
  file.methods.find? (file.isNamed name descriptor)

end ClassFile

end ClassInspect
