import ClassInspect.Number.Style

/-!
# JSON values and their text

Values with object members in the order given, and two ways to write them: `compact` on one line without
blanks, and `pretty` with one element per line and two blanks for each level. Both append to a text, so
long documents are written in one pass.
-/

namespace ClassInspect

inductive Json where
  | null
  | bool (value : Bool)
  | int (value : Int)
  /-- A double, as its bit pattern. -/
  | float (bits : UInt64)
  | string (value : String)
  | array (items : List Json)
  | object (members : List (String × Json))
deriving Repr

namespace Json

/-- Numbers have at least one digit behind the point, are written positionally while the exponent of the
leading digit is between -5 and 15, and of two equally near decimals the even one is taken. -/
def floatStyle : FloatStyle := { tie := .even, positional := some (-5, 15), pointZero := true }

def floatText (bits : UInt64) : String :=
  match BinaryFormat.double.value bits.toNat with
  | .finite negative significand exponent => floatStyle.finiteText .double negative significand exponent
  | _ => "null"

/-- Four hexadecimal digits. -/
def codeUnit (char : Char) : List Char :=
  let digits := Nat.toDigits 16 char.toNat
  '\\' :: 'u' :: List.replicate (4 - digits.length) '0' ++ digits

/-- Quotes, backslashes and controls are escaped, and nothing else. -/
def escape (char : Char) : List Char :=
  match char with
  | '"' => ['\\', '"']
  | '\\' => ['\\', '\\']
  | '\n' => ['\\', 'n']
  | '\r' => ['\\', 'r']
  | '\t' => ['\\', 't']
  | '\x08' => ['\\', 'b']
  | '\x0c' => ['\\', 'f']
  | _ => if char.toNat < 0x20 then codeUnit char else [char]

def stringText (value : String) : String := String.ofList ('"' :: value.toList.flatMap escape ++ ['"'])

/-- The text of a value without parts. -/
def atomText : Json → String
  | null => "null"
  | bool value => if value then "true" else "false"
  | int value => toString value
  | float bits => floatText bits
  | string value => stringText value
  | array _ => "[]"
  | object _ => "\x7b\x7d"

/-- A new line with the given number of levels. -/
def newline (level : Nat) : String := String.ofList ('\n' :: List.replicate (2 * level) ' ')

mutual

/-- Appends a value in the pretty form; `level` is the level of the line on which it starts. -/
def prettyAfter (level : Nat) (text : String) : Json → String
  | array (item :: items) =>
    prettyItems (level + 1) items (prettyAfter (level + 1) (text ++ "[" ++ newline (level + 1)) item) ++
      newline level ++ "]"
  | object ((key, value) :: members) =>
    prettyMembers (level + 1) members
        (prettyAfter (level + 1) (text ++ "\x7b" ++ newline (level + 1) ++ stringText key ++ ": ") value) ++
      newline level ++ "\x7d"
  | value => text ++ value.atomText

def prettyItems (level : Nat) (items : List Json) (text : String) : String :=
  match items with
  | [] => text
  | item :: rest => prettyItems level rest (prettyAfter level (text ++ "," ++ newline level) item)

def prettyMembers (level : Nat) (members : List (String × Json)) (text : String) : String :=
  match members with
  | [] => text
  | (key, value) :: rest =>
    prettyMembers level rest (prettyAfter level (text ++ "," ++ newline level ++ stringText key ++ ": ") value)

end

mutual

/-- Appends a value in the compact form. -/
def compactAfter (text : String) : Json → String
  | array (item :: items) => compactItems items (compactAfter (text ++ "[") item) ++ "]"
  | object ((key, value) :: members) =>
    compactMembers members (compactAfter (text ++ "\x7b" ++ stringText key ++ ":") value) ++ "\x7d"
  | value => text ++ value.atomText

def compactItems (items : List Json) (text : String) : String :=
  match items with
  | [] => text
  | item :: rest => compactItems rest (compactAfter (text ++ ",") item)

def compactMembers (members : List (String × Json)) (text : String) : String :=
  match members with
  | [] => text
  | (key, value) :: rest => compactMembers rest (compactAfter (text ++ "," ++ stringText key ++ ":") value)

end

def pretty (value : Json) : String := prettyAfter 0 "" value

def compact (value : Json) : String := compactAfter "" value

end Json

end ClassInspect
