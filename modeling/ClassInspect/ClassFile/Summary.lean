import ClassInspect.ClassFile.Basic
import ClassInspect.Descriptor.Reader

/-!
# The resolved view of a class

A summary holds the texts that the indices of a class lead to, position by position. It exists if all of
them resolve; otherwise the first defect is the answer, in the order fields, methods, the class itself,
its super class, its interfaces and its attributes.
-/

namespace ClassInspect

/-- A field or method with its texts. Only methods have argument slots. -/
structure MemberSummary where
  name : String
  descriptor : String
  access : List String
  attributes : List String
  argumentSlots : Option Nat
deriving Repr, DecidableEq

/-- The name directly followed by the descriptor. -/
def MemberSummary.signature (member : MemberSummary) : String := member.name ++ member.descriptor

/-- A usable slot of the constant pool. -/
structure PoolEntry where
  index : UInt16
  constant : Constant
deriving Repr, DecidableEq

structure ClassSummary where
  name : String
  superName : Option String
  version : String
  access : List String
  interfaces : List String
  fields : List MemberSummary
  methods : List MemberSummary
  attributes : List String
  pool : List PoolEntry
deriving Repr, DecidableEq

namespace ClassFile

def fieldSummary (file : ClassFile) (field : Member) : Except Fault MemberSummary := do
  let name ← file.memberName field
  let descriptor ← file.memberDescriptor field
  let attributes ← file.attributeNames field.attributes
  return { name, descriptor, access := field.access.names .field, attributes, argumentSlots := none }

/-- The descriptor of a method has to be well formed. -/
def methodSummary (file : ClassFile) (method : Member) : Except Fault MemberSummary := do
  let name ← file.memberName method
  let descriptor ← file.memberDescriptor method
  let slots ← ClassInspect.argumentSlots descriptor method.access.isStatic
  let attributes ← file.attributeNames method.attributes
  return { name, descriptor, access := method.access.names .method, attributes, argumentSlots := some slots }

def summary (file : ClassFile) : Except Fault ClassSummary := do
  let fields ← file.fields.mapM file.fieldSummary
  let methods ← file.methods.mapM file.methodSummary
  let name ← file.thisClassName
  let superName ← file.superClassName
  let interfaces ← file.interfaceNames
  let attributes ← file.attributeNames file.attributes
  return {
    name, superName, interfaces, fields, methods, attributes
    version := s!"{file.majorVersion}.{file.minorVersion}"
    access := file.access.names .classFile
    pool := file.pool.entries.map fun (index, constant) => { index, constant } }

end ClassFile

end ClassInspect
