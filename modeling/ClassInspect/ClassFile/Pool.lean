import ClassInspect.ClassFile.Constant
import ClassInspect.ClassFile.Fault
import ClassInspect.Number.Style
import ClassInspect.Text.Quoted

/-!
# The constant pool

Slots are numbered from one, and index zero never names a slot. A look-up follows a chain of indices
and stops at the first link that leads to no entry of the expected kind; the fault names that link.
-/

namespace ClassInspect

/-- The slots of a class file, the first of which has index one. -/
structure ConstantPool where
  slots : Array Constant
deriving Repr, DecidableEq

/-- The class, name and descriptor that a member reference leads to. -/
structure MemberRef where
  className : String
  name : String
  descriptor : String
deriving Repr, DecidableEq

namespace ConstantPool

/-- The number of slots, unusable ones included. -/
def size (pool : ConstantPool) : Nat := pool.slots.size

def get? (pool : ConstantPool) (index : UInt16) : Option Constant :=
  if index = 0 then none else pool.slots[index.toNat - 1]?

/-- The usable slots behind those already listed, which stand in reverse. An index is 16 bits wide. -/
def entriesAfter : List Constant → UInt16 → List (UInt16 × Constant) → List (UInt16 × Constant)
  | [], _, done => done.reverse
  | slot :: rest, index, done =>
    entriesAfter rest (index + 1) (if slot.isUsable then (index, slot) :: done else done)

/-- The usable slots with their indices. -/
def entries (pool : ConstantPool) : List (UInt16 × Constant) := entriesAfter pool.slots.toList 1 []

def utf8 (pool : ConstantPool) (index : UInt16) : Except Fault String :=
  match pool.get? index with
  | some (.utf8 value) => .ok value
  | _ => .error (.invalidIndex index .utf8)

def className (pool : ConstantPool) (index : UInt16) : Except Fault String :=
  match pool.get? index with
  | some (.classRef name) => pool.utf8 name
  | _ => .error (.invalidIndex index .classEntry)

/-- The name and the descriptor of a `NameAndType` entry. -/
def nameAndType (pool : ConstantPool) (index : UInt16) : Except Fault (String × String) :=
  match pool.get? index with
  | some (.nameAndType name descriptor) => do
    let name ← pool.utf8 name
    let descriptor ← pool.utf8 descriptor
    return (name, descriptor)
  | _ => .error (.invalidIndex index .nameAndType)

def memberRef (pool : ConstantPool) (index : UInt16) : Except Fault MemberRef :=
  match (pool.get? index).bind Constant.memberLinks with
  | some (owner, member) => do
    let className ← pool.className owner
    let (name, descriptor) ← pool.nameAndType member
    return { className, name, descriptor }
  | none => .error (.invalidIndex index .memberReference)

/-- A text for an entry, with its links followed; absent where a link is broken or the slot has no entry. -/
def describe (pool : ConstantPool) (index : UInt16) : Option String :=
  match pool.get? index with
  | none | some .unusable => none
  | some (.utf8 value) => some (Quoted.text value)
  | some (.integer value) => some s!"{value.toInt}"
  | some (.float bits) => some (FloatStyle.listingText .single bits.toNat ++ "f")
  | some (.long value) => some s!"{value.toInt}L"
  | some (.double bits) => some (FloatStyle.listingText .double bits.toNat ++ "d")
  | some (.classRef _) => (pool.className index).toOption
  | some (.string content) => (pool.utf8 content).toOption.map Quoted.text
  | some (.fieldRef ..) | some (.methodRef ..) | some (.interfaceMethodRef ..) =>
    (pool.memberRef index).toOption.map fun member => s!"{member.className}.{member.name}:{member.descriptor}"
  | some (.nameAndType ..) => (pool.nameAndType index).toOption.map fun (name, descriptor) => s!"{name}:{descriptor}"
  | some (.methodHandle kind reference) => some s!"kind={kind} #{reference}"
  | some (.methodType descriptor) => (pool.utf8 descriptor).toOption
  | some (.invokeDynamic bootstrap nameAndType) => some s!"bootstrap={bootstrap} #{nameAndType}"

end ConstantPool

end ClassInspect
