import ClassInspect.Toml.Value

/-!
# Numbers, truth values and times in TOML

A bare value is judged by its whole text. Digits may be separated by single underscores; a number has no
leading zero, and only a number without a sign may be written in another base. Times may leave out the
seconds, and dates have to exist.
-/

namespace ClassInspect.Toml.Scalar

/-- Digits of a class, with single underscores between them. -/
def isDigits (isDigit : Char → Bool) : List Char → Bool
  | [] => false
  | [digit] => isDigit digit
  | digit :: '_' :: rest => isDigit digit && isDigits isDigit rest
  | digit :: rest => isDigit digit && isDigits isDigit rest

/-- Decimal digits with no zero before others. -/
def isUnsigned (text : List Char) : Bool :=
  isDigits Char.isDigit text && (text.length == 1 || text.head? != some '0')

def isHexDigit (char : Char) : Bool :=
  char.isDigit || ('a' ≤ char && char ≤ 'f') || ('A' ≤ char && char ≤ 'F')

def dropSign : List Char → List Char
  | '+' :: rest | '-' :: rest => rest
  | text => text

def isInteger (text : List Char) : Bool :=
  match text with
  | '0' :: 'x' :: digits => isDigits isHexDigit digits
  | '0' :: 'o' :: digits => isDigits (fun char => '0' ≤ char && char ≤ '7') digits
  | '0' :: 'b' :: digits => isDigits (fun char => char = '0' || char = '1') digits
  | _ => isUnsigned (dropSign text)

def isExponentMark (char : Char) : Bool := char = 'e' || char = 'E'

/-- A whole part and, behind a point, a fraction, which may be left out unless it is needed. -/
def isMantissa (text : List Char) (needsFraction : Bool) : Bool :=
  let whole := text.takeWhile (· != '.')
  match text.dropWhile (· != '.') with
  | [] => isUnsigned whole && !needsFraction
  | _ :: fraction => isUnsigned whole && isDigits Char.isDigit fraction

/-- A number with a fraction, an exponent or both. -/
def isFloat (text : List Char) : Bool :=
  let unsigned := dropSign text
  if unsigned = ['i', 'n', 'f'] || unsigned = ['n', 'a', 'n'] then true
  else
    let mantissa := unsigned.takeWhile (!isExponentMark ·)
    match unsigned.dropWhile (!isExponentMark ·) with
    | [] => isMantissa mantissa true
    | _ :: exponent => isMantissa mantissa false && isDigits Char.isDigit (dropSign exponent)

/-- A number of exactly `width` digits at the front of a text. -/
def fixedNumber (width : Nat) (text : List Char) : Option (Nat × List Char) :=
  let digits := text.take width
  if digits.length = width && digits.all Char.isDigit then
    some (digits.foldl (fun number digit => number * 10 + (digit.toNat - '0'.toNat)) 0, text.drop width)
  else none

/-- The text behind an expected character. -/
def behind (expected : Char) : List Char → Option (List Char)
  | char :: rest => if char = expected then some rest else none
  | [] => none

def isLeapYear (year : Nat) : Bool := year % 4 == 0 && (year % 100 != 0 || year % 400 == 0)

def daysInMonth (year month : Nat) : Nat :=
  if month = 2 then if isLeapYear year then 29 else 28
  else if month = 4 || month = 6 || month = 9 || month = 11 then 30
  else 31

/-- The text behind a date that exists. -/
def date (text : List Char) : Option (List Char) := do
  let (year, text) ← fixedNumber 4 text
  let (month, text) ← fixedNumber 2 (← behind '-' text)
  let (day, text) ← fixedNumber 2 (← behind '-' text)
  if 1 ≤ month && month ≤ 12 && 1 ≤ day && day ≤ daysInMonth year month then some text else none

/-- The text behind a time of day. A minute may have a second number 60. -/
def time (text : List Char) : Option (List Char) := do
  let (hour, text) ← fixedNumber 2 text
  let (minute, text) ← fixedNumber 2 (← behind ':' text)
  if 23 < hour || 59 < minute then none
  else match text with
    | ':' :: text => do
      let (second, text) ← fixedNumber 2 text
      if 60 < second then none
      else match text with
        | '.' :: fraction =>
          if (fraction.head?.map Char.isDigit).getD false then some (fraction.dropWhile Char.isDigit) else none
        | _ => some text
    | _ => some text

/-- The text behind the distance from universal time, if there is one. -/
def offset (text : List Char) : Option (List Char) :=
  match text with
  | 'Z' :: rest | 'z' :: rest => some rest
  | '+' :: rest | '-' :: rest => do
    let (hours, rest) ← fixedNumber 2 rest
    let (minutes, rest) ← fixedNumber 2 (← behind ':' rest)
    if hours ≤ 23 && minutes ≤ 59 then some rest else none
  | _ => some text

/-- A date, a time, or both with an optional offset. -/
def isDateTime (text : List Char) : Bool :=
  match date text with
  | some [] => true
  | some (mark :: rest) =>
    (mark = 'T' || mark = 't' || mark = ' ') && (time rest).bind offset == some []
  | none => time text == some []

/-- A bare value by its whole text. -/
def value? (text : List Char) : Option Value :=
  if text = ['t', 'r', 'u', 'e'] then some (.boolean true)
  else if text = ['f', 'a', 'l', 's', 'e'] then some (.boolean false)
  else if isInteger text then some .integer
  else if isFloat text then some .float
  else if isDateTime text then some .dateTime
  else none

end ClassInspect.Toml.Scalar
