import ClassInspect.Number.Binary

/-!
# The shortest decimal of a binary number

A decimal reads back as a binary number if it lies in the interval of reals that round to it. The
shortest decimal is found on coarser to finer decimal grids: on each grid the two neighbours of the
number are tried, the first grid with a neighbour in the interval wins, and of two such neighbours
the nearer. All comparisons are between integers.
-/

namespace ClassInspect

/-- The number `digits · 10 ^ exponent`. -/
structure Decimal where
  digits : Nat
  exponent : Int
deriving Repr, DecidableEq

/-- Which of two equally near decimals is taken. -/
inductive Tie where
  | up
  | even
deriving Repr, DecidableEq

namespace Decimal

/-- The number of decimal digits. -/
def length (number : Nat) : Nat := (Nat.toDigits 10 number).length

/-- The same number without zeros at the end of its digits. -/
def trimmed (digits : Nat) (exponent : Int) : Decimal :=
  if h : digits ≠ 0 ∧ digits % 10 = 0 then trimmed (digits / 10) (exponent + 1)
  else ⟨digits, exponent⟩
termination_by digits
decreasing_by exact Nat.div_lt_self (Nat.pos_of_ne_zero h.1) (by decide)

end Decimal

namespace Shortest

/-- A positive number as `4 · significand` quarter units of the last place, with its distances to the
ends of the interval that rounds to it. -/
structure Rounding where
  /-- The number, in quarter units. -/
  quarters : Nat
  /-- How far down the interval reaches, in quarter units. -/
  below : Nat
  /-- How far up the interval reaches, in quarter units. -/
  above : Nat
  /-- A quarter unit is `2 ^ scale`. -/
  scale : Int
  /-- The ends of the interval round to the number as well. -/
  closed : Bool
deriving Repr

/-- A number at the start of a binade is twice as near to the number below it. -/
def rounding (format : BinaryFormat) (significand : Nat) (exponent : Int) : Rounding :=
  let startsBinade := significand = Nat.pow 2 format.fractionBits ∧ format.leastExponent < exponent
  { quarters := 4 * significand, below := if startsBinade then 1 else 2, above := 2, scale := exponent - 2,
    closed := significand % 2 == 0 }

/-- The exponent of the leading decimal digit of `number · 2 ^ scale`, for a positive number. -/
def leadingExponent (number : Nat) (scale : Int) : Int :=
  let denominator := Nat.pow 2 (-scale).toNat
  let places := Decimal.length denominator
  let whole := number * Nat.pow 2 scale.toNat * Nat.pow 10 places / denominator
  (Decimal.length whole : Int) - 1 - places

/-- The point of the grid of multiples of `10 ^ grid` that reads back as the number, if there is one. -/
def onGrid (number : Rounding) (tie : Tie) (grid : Int) : Option Nat :=
  let unit := Nat.pow 2 number.scale.toNat * Nat.pow 10 (-grid).toNat
  let step := Nat.pow 2 (-number.scale).toNat * Nat.pow 10 grid.toNat
  let value := number.quarters * unit
  let low := (number.quarters - number.below) * unit
  let high := (number.quarters + number.above) * unit
  let inside (point : Nat) : Bool :=
    if number.closed then low ≤ point * step && point * step ≤ high
    else low < point * step && point * step < high
  let floor := value / step
  match inside floor, inside (floor + 1) with
  | false, false => none
  | true, false => some floor
  | false, true => some (floor + 1)
  | true, true =>
    let twice := 2 * (value % step)
    if twice < step then some floor
    else if step < twice then some (floor + 1)
    else match tie with
      | .up => some (floor + 1)
      | .even => some (floor + floor % 2)

/-- The grid `places` digits behind the leading one, and the finer ones while the search lasts. -/
def search (number : Rounding) (tie : Tie) (leading : Int) : Nat → Nat → Decimal
  | _, 0 => ⟨0, 0⟩
  | places, more + 1 =>
    let grid := leading - places
    match onGrid number tie grid with
    | some digits => Decimal.trimmed digits grid
    | none => search number tie leading (places + 1) more

/-- No double needs more digits than this to read back. -/
def mostDigits : Nat := 17

/-- The shortest decimal that reads back as `significand · 2 ^ exponent` in the format. -/
def decimal (format : BinaryFormat) (tie : Tie) (significand : Nat) (exponent : Int) : Decimal :=
  if significand = 0 then ⟨0, 0⟩
  else
    let number := rounding format significand exponent
    search number tie (leadingExponent number.quarters number.scale) 0 mostDigits

end Shortest

end ClassInspect
