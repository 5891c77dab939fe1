import ClassInspect.ClassFile.Fault
import ClassInspect.Descriptor.Basic
import ClassInspect.Text.Split

/-!
# Reading descriptors

A descriptor is read from front to back: each type is taken off the front of the text, and what is left
is shorter. The closing parenthesis that ends the parameters is the first one in the text, also inside
an object name.
-/

namespace ClassInspect

namespace FieldType

/-- No array type has more levels. -/
def mostDimensions : Nat := 255

/-- Takes a type that is no array off the front of a text. -/
def readElement : List Char → Option (FieldType × List Char)
  | 'B' :: rest => some (byte, rest)
  | 'C' :: rest => some (char, rest)
  | 'D' :: rest => some (double, rest)
  | 'F' :: rest => some (float, rest)
  | 'I' :: rest => some (int, rest)
  | 'J' :: rest => some (long, rest)
  | 'S' :: rest => some (short, rest)
  | 'Z' :: rest => some (boolean, rest)
  | 'L' :: rest =>
    match splitAtFirst ';' rest with
    | none | some ([], _) => none
    | some (name, after) => some (object (String.ofList name), after)
  | _ => none

/-- The number of array marks at the front of a text. -/
def levels (text : List Char) : Nat := (text.takeWhile (· == '[')).length

/-- Takes a type off the front of a text. -/
def read (text : List Char) : Option (FieldType × List Char) :=
  if mostDimensions < levels text then none
  else match readElement (text.dropWhile (· == '[')) with
    | none => none
    | some (element, rest) => some (element.nested (levels text), rest)

theorem length_readElement_lt {text rest : List Char} {type : FieldType}
    (hread : readElement text = some (type, rest)) : rest.length < text.length := by
  unfold readElement at hread
  split at hread
  case h_9 tail =>
    split at hread
    · simp at hread
    · simp at hread
    · rename_i hsplit
      obtain ⟨-, rfl⟩ := Prod.mk.inj (Option.some.inj hread)
      exact Nat.lt_succ_of_lt (length_splitAtFirst_lt hsplit)
  case h_10 => simp at hread
  all_goals
    obtain ⟨-, rfl⟩ := Prod.mk.inj (Option.some.inj hread)
    exact Nat.lt_succ_self _

/-- Reading a type consumes text. -/
theorem length_read_lt {text rest : List Char} {type : FieldType} (hread : read text = some (type, rest)) :
    rest.length < text.length := by
  have hle := length_dropWhile_le (· == '[') text
  unfold read at hread
  split at hread
  · simp at hread
  · split at hread
    · simp at hread
    · rename_i helement
      have hlt := length_readElement_lt helement
      obtain ⟨-, rfl⟩ := Prod.mk.inj (Option.some.inj hread)
      omega

end FieldType

namespace MethodDescriptor

/-- The types that make up a whole text, behind those already read, which stand in reverse. -/
def readParamsAfter (text : List Char) (done : List FieldType) : Option (List FieldType) :=
  match text with
  | [] => some done.reverse
  | head :: tail =>
    match hread : FieldType.read (head :: tail) with
    | none => none
    | some (type, rest) =>
      have := FieldType.length_read_lt hread
      readParamsAfter rest (type :: done)
termination_by text.length
decreasing_by exact this

def readParams (text : List Char) : Option (List FieldType) := readParamsAfter text []

/-- The result type that makes up a whole text. -/
def readResult (text : List Char) : Option (Option FieldType) :=
  if text = ['V'] then some none
  else match FieldType.read text with
    | some (type, []) => some (some type)
    | _ => none

def read? : List Char → Option MethodDescriptor
  | '(' :: rest =>
    match splitAtFirst ')' rest with
    | none => none
    | some (params, result) => do
      let params ← readParams params
      let result ← readResult result
      return ⟨params, result⟩
  | _ => none

/-- Reads a descriptor; one that is refused is named in the fault. -/
def parse (text : String) : Except Fault MethodDescriptor :=
  match read? text.toList with
  | some descriptor => .ok descriptor
  | none => .error (.invalidDescriptor text)

end MethodDescriptor

/-- The slots that the arguments of a method with this descriptor take. -/
def argumentSlots (descriptor : String) (isStatic : Bool) : Except Fault Nat := do
  return (← MethodDescriptor.parse descriptor).argumentSlots isStatic

end ClassInspect
