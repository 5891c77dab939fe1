/-!
# White space

The property White_Space: the blanks, tabs, line ends and separators that count as empty text.
-/

namespace ClassInspect

def isWhiteSpace (char : Char) : Bool :=
  let code := char.toNat
  (0x09 ≤ code && code ≤ 0x0D) || code == 0x20 || code == 0x85 || code == 0xA0 || code == 0x1680 ||
    (0x2000 ≤ code && code ≤ 0x200A) || code == 0x2028 || code == 0x2029 || code == 0x202F || code == 0x205F ||
    code == 0x3000

/-- There is nothing but white space in the text. -/
def isBlank (text : String) : Bool := text.toList.all isWhiteSpace

end ClassInspect
