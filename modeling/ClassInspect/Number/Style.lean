import ClassInspect.Number.Shortest

/-!
# Writing decimals

How a floating-point number is laid out once its digits are chosen. A `FloatStyle` holds the
decisions of one kind of output.
-/

namespace ClassInspect

/-- The decisions that lay out a finite number. -/
structure FloatStyle where
  /-- Which of two equally near decimals is written. -/
  tie : Tie
  /-- The exponents of the leading digit that are written positionally; all of them if absent. -/
  positional : Option (Int × Int)
  /-- A whole number in positional form ends in `.0`. -/
  pointZero : Bool
deriving Repr

namespace FloatStyle

def zeros (n : Nat) : List Char := List.replicate n '0'

/-- Digits with the point in its place. -/
def positionalText (style : FloatStyle) (digits : List Char) (exponent : Int) : List Char :=
  let places := (-exponent).toNat
  if places = 0 then digits ++ zeros exponent.toNat ++ (if style.pointZero then ['.', '0'] else [])
  else if places < digits.length then
    digits.take (digits.length - places) ++ '.' :: digits.drop (digits.length - places)
  else '0' :: '.' :: zeros (places - digits.length) ++ digits

/-- The leading digit, the others behind a point, and a signed exponent. -/
def scientificText (digits : List Char) (leading : Int) : List Char :=
  let mantissa := match digits with
    | [] => []
    | [digit] => [digit]
    | digit :: rest => digit :: '.' :: rest
  mantissa ++ 'e' :: (if leading < 0 then '-' else '+') :: Nat.toDigits 10 leading.natAbs

def decimalText (style : FloatStyle) (number : Decimal) : List Char :=
  let digits := Nat.toDigits 10 number.digits
  let leading := number.exponent + digits.length - 1
  match style.positional with
  | none => style.positionalText digits number.exponent
  | some (least, greatest) =>
    if least ≤ leading && leading ≤ greatest then style.positionalText digits number.exponent
    else scientificText digits leading

/-- A finite number of a format; zero keeps its sign. -/
def finiteText (style : FloatStyle) (format : BinaryFormat) (negative : Bool) (significand : Nat) (exponent : Int) :
    String :=
  let text := style.decimalText (Shortest.decimal format style.tie significand exponent)
  String.ofList (if negative then '-' :: text else text)

/-- Listings write every number positionally and nothing behind a whole number; of two equally near
decimals they take the larger. -/
def listing : FloatStyle := { tie := .up, positional := none, pointZero := false }

/-- A number in a listing. -/
def listingText (format : BinaryFormat) (bits : Nat) : String :=
  match format.value bits with
  | .nan => "NaN"
  | .infinite false => "inf"
  | .infinite true => "-inf"
  | .finite negative significand exponent => listing.finiteText format negative significand exponent

end FloatStyle

end ClassInspect
