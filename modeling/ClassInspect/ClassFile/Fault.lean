/-!
# What can be wrong with a class file

Every way in which class data can fail to decode, as a cause. The wording of each stands in
`Fault.message` alone.
-/

namespace ClassInspect

/-- What a constant pool index was expected to lead to. -/
inductive Expected where
  | utf8
  | classEntry
  | nameAndType
  | memberReference
  /-- A `Long` or `Double` with room for its second slot. -/
  | twoSlots
deriving Repr, DecidableEq

namespace Expected

def text : Expected → String
  | utf8 => "Utf8"
  | classEntry => "Class"
  | nameAndType => "NameAndType"
  | memberReference => "member reference"
  | twoSlots => "two-slot Long or Double"

end Expected

/-- The cause for which class data is refused. -/
inductive Fault where
  | badMagic (found : UInt32)
  | unexpectedEnd (offset wanted : Nat)
  | invalidTag (tag : UInt8) (index : UInt16)
  | invalidIndex (index : UInt16) (expected : Expected)
  | invalidDescriptor (text : String)
deriving Repr, DecidableEq

namespace Fault

/-- Eight upper-case hexadecimal digits. -/
def magicText (magic : UInt32) : String :=
  let digits := (Nat.toDigits 16 magic.toNat).map Char.toUpper
  String.ofList (List.replicate (8 - digits.length) '0' ++ digits)

def message : Fault → String
  | badMagic found => s!"Not a class file: bad magic 0x{magicText found}"
  | unexpectedEnd offset wanted => s!"Unexpected end of class data at offset {offset} (wanted {wanted} bytes)"
  | invalidTag tag index => s!"Invalid constant pool tag {tag} at index {index}"
  | invalidIndex index expected => s!"Constant pool index {index} is not a valid {expected.text} entry"
  | invalidDescriptor text => s!"Invalid method descriptor: {text}"

end Fault

end ClassInspect
