/-!
# Field types and method descriptors

A descriptor spells the parameter types and the result type of a method in one line. Here are its
parts as data, the text that spells each of them, the readable name of a type, and the number of local
variable slots that arguments take.
-/

namespace ClassInspect

/-- The type of a field, a parameter or a result. -/
inductive FieldType where
  | byte
  | char
  | double
  | float
  | int
  | long
  | short
  | boolean
  | object (name : String)
  | array (element : FieldType)
deriving Repr, DecidableEq

namespace FieldType

/-- The slots that a value takes: two for `long` and `double`, one for all others. -/
def slots : FieldType → Nat
  | long | double => 2
  | _ => 1

/-- The spelling of a type in a descriptor. -/
def text : FieldType → List Char
  | byte => ['B']
  | char => ['C']
  | double => ['D']
  | float => ['F']
  | int => ['I']
  | long => ['J']
  | short => ['S']
  | boolean => ['Z']
  | object name => 'L' :: name.toList ++ [';']
  | array element => '[' :: element.text

/-- The number of array levels around the innermost type. -/
def dimensions : FieldType → Nat
  | array element => element.dimensions + 1
  | _ => 0

/-- The type inside all array levels. -/
def innermost : FieldType → FieldType
  | array element => element.innermost
  | type => type

/-- A type inside the given number of array levels. -/
def nested (element : FieldType) : Nat → FieldType
  | 0 => element
  | levels + 1 => array (element.nested levels)

/-- The name of a type as a programmer writes it. -/
def readable : FieldType → String
  | byte => "byte"
  | char => "char"
  | double => "double"
  | float => "float"
  | int => "int"
  | long => "long"
  | short => "short"
  | boolean => "boolean"
  | object name => name.map fun c => if c = '/' then '.' else c
  | array element => element.readable ++ "[]"

end FieldType

/-- The parameter types and the result type of a method; no result type means `void`. -/
structure MethodDescriptor where
  params : List FieldType
  result : Option FieldType
deriving Repr, DecidableEq

namespace MethodDescriptor

/-- The spelling of the result. -/
def resultText : Option FieldType → List Char
  | none => ['V']
  | some type => type.text

/-- The spelling of a descriptor. -/
def text (descriptor : MethodDescriptor) : List Char :=
  '(' :: descriptor.params.flatMap FieldType.text ++ ')' :: resultText descriptor.result

/-- The slots that the parameters take. -/
def paramSlots (descriptor : MethodDescriptor) : Nat :=
  descriptor.params.foldr (fun type slots => type.slots + slots) 0

/-- The slots that all arguments take; the receiver of an instance method is one more. -/
def argumentSlots (descriptor : MethodDescriptor) (isStatic : Bool) : Nat :=
  descriptor.paramSlots + if isStatic then 0 else 1

end MethodDescriptor

end ClassInspect
