import ClassInspect.Bytes.BigEndian
import ClassInspect.Host.Failure

/-!
# Where output goes

A sink takes as many of the offered bytes as it likes and may refuse at any time. Writing a whole byte
string offers what is left again and again, so what a sink has taken is always a front part of it.
-/

namespace ClassInspect

structure Sink where
  /-- What becomes of an offer, given the number of bytes taken before and the number offered: the number
  of bytes taken, or a refusal. -/
  accept : (taken offered : Nat) → Except HostFailure Nat
  /-- What becomes of a flush. -/
  flush : Except HostFailure Unit

/-- What a sink has taken, and whether all went well. -/
structure Written where
  taken : Bytes
  outcome : Except HostFailure Unit

namespace Sink

/-- Takes everything. -/
def unlimited : Sink := { accept := fun _ offered => .ok offered, flush := .ok () }

/-- Takes a given number of bytes in all, as many as fit of each offer, and then refuses. -/
def limited (limit : Nat) (refusal : HostFailure) (flush : Except HostFailure Unit) : Sink :=
  { accept := fun taken offered => if taken < limit then .ok (min offered (limit - taken)) else .error refusal
    flush }

/-- Offers the rest of a byte string, behind the bytes that were taken. -/
def writeAfter (sink : Sink) (taken : Bytes) : Bytes → Written
  | [] => ⟨taken, .ok ()⟩
  | byte :: more =>
    match sink.accept taken.length (more.length + 1) with
    | .error failure => ⟨taken, .error failure⟩
    | .ok 0 => ⟨taken, .error .nothingWritten⟩
    | .ok (n + 1) => sink.writeAfter (taken ++ byte :: more.take n) (more.drop n)
termination_by rest => rest.length
decreasing_by simp only [List.length_drop, List.length_cons]; omega

/-- Writes a whole byte string and flushes. -/
def write (sink : Sink) (content : Bytes) : Written :=
  match sink.writeAfter [] content with
  | ⟨taken, .ok ()⟩ => ⟨taken, sink.flush⟩
  | failed => failed

end Sink

end ClassInspect
