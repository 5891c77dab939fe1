import ClassInspect.Error
import ClassInspect.Host.Sink
import ClassInspect.Log.Event

/-!
# The sample program

A fixed little computation: two numbers are added, the sum is compared with the expected one, and twice the
accumulator is printed on one line. A source of texts is at hand and is not used.
-/

namespace ClassInspect

/-- Something that hands out texts. -/
structure TextSource where
  texts : List String
deriving Repr, DecidableEq

/-- A source with nothing to hand out. -/
def TextSource.stub : TextSource := ⟨[]⟩

namespace Sample

/-- The sum of two integers as the nearest double, given by its bits. -/
def add (a : Int32) (b : Int64) : UInt64 := BinaryFormat.doubleOfInt (a.toInt + b.toInt)

def firstOperand : Int32 := 10

def secondOperand : Int64 := 20

def expectedSum : UInt64 := BinaryFormat.doubleOfInt 30

def accumulatorOnMatch : Int := 10

/-- What a run observed. -/
structure Report where
  /-- The bits of a double. -/
  sum : UInt64
  branchTaken : Bool
  accumulator : Int
  printed : Int
deriving Repr, DecidableEq

def report : Report :=
  let sum := add firstOperand secondOperand
  let branchTaken := sum == expectedSum
  let accumulator := if branchTaken then accumulatorOnMatch else 0
  { sum, branchTaken, accumulator, printed := accumulator + accumulator }

namespace Report

def json (report : Report) : Json :=
  .object [("sum", .float report.sum), ("branch_taken", .bool report.branchTaken),
    ("accumulator", .int report.accumulator), ("printed", .int report.printed)]

end Report

/-- What became of a run: its report or an error, and the bytes that the sink took. -/
structure Outcome where
  result : Except Error Report
  output : Bytes

/-- Runs the computation and writes its line; the source makes no difference. -/
def run (_source : TextSource) (sink : Sink) : Outcome :=
  let written := sink.write (toString report.printed ++ "\n").toUTF8.data.toList
  ⟨(written.outcome.mapError .host).map fun _ => report, written.taken⟩

/-- What is noted when the comparison was made. -/
def comparisonEvent : Log.Event :=
  { level := .debug, origin := .library, message := "Evaluated comparison"
    fields := [("sum", .float report.sum), ("branch_taken", .bool report.branchTaken),
      ("accumulator", .int report.accumulator)] }

end Sample

end ClassInspect
