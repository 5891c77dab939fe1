import ClassInspect.Text.Unprintable

/-!
# Quoted text

Text between double quotes on one line: the quote and the backslash are escaped, four controls have a
short form, and every other character without a visible form is spelled in hexadecimal.
-/

namespace ClassInspect.Quoted

/-- The hexadecimal spelling of a character, without leading zeros. -/
def codePoint (char : Char) : List Char :=
  '\\' :: 'u' :: '\x7b' :: Nat.toDigits 16 char.toNat ++ ['\x7d']

def escape (char : Char) : List Char :=
  match char with
  | '\x00' => ['\\', '0']
  | '\t' => ['\\', 't']
  | '\r' => ['\\', 'r']
  | '\n' => ['\\', 'n']
  | '"' => ['\\', '"']
  | '\\' => ['\\', '\\']
  | _ => if isUnprintable char then codePoint char else [char]

def text (content : String) : String :=
  String.ofList ('"' :: content.toList.flatMap escape ++ ['"'])

end ClassInspect.Quoted
