import ClassInspect.Host.Sink

/-!
# What a sink takes

Writing offers the rest of a byte string again and again. `Reaches` tells which offers are made, by the answers of the
sink alone: behind an offer of which something is taken comes the offer of what is left. A writing `Fails` at the first
offer that is refused or of which nothing is taken, or at the flush behind the last one, and it `Delivers` if nothing of
that kind happens. One of the two is the case, and `write` does what they say.

The number of bytes taken grows with every offer that is not refused. A sink is therefore free to answer by what came
before, and every way in which the writing of one byte string can go is the way of some `Sink`.
-/

namespace ClassInspect.Sink

/-! ### The ways of a writing -/

/-- While `total` bytes are written there is a point at which the given number of them is taken. -/
inductive Reaches (sink : Sink) (total : Nat) : Nat → Prop where
  | start : Reaches sink total 0
  | offer {taken n : Nat} (hreached : Reaches sink total taken) (hmore : taken < total)
    (haccept : sink.accept taken (total - taken) = .ok (n + 1)) :
    Reaches sink total (taken + min (n + 1) (total - taken))

/-- The writing of `total` bytes fails with the given number of them taken. -/
inductive Fails (sink : Sink) (total : Nat) : Nat → HostFailure → Prop where
  | refused {taken : Nat} {failure : HostFailure} (hreached : Reaches sink total taken) (hmore : taken < total)
    (haccept : sink.accept taken (total - taken) = .error failure) : Fails sink total taken failure
  | nothing {taken : Nat} (hreached : Reaches sink total taken) (hmore : taken < total)
    (haccept : sink.accept taken (total - taken) = .ok 0) : Fails sink total taken .nothingWritten
  | flush {failure : HostFailure} (hreached : Reaches sink total total) (hflush : sink.flush = .error failure) :
    Fails sink total total failure

/-- All of `total` bytes are taken and the flush succeeds. -/
structure Delivers (sink : Sink) (total : Nat) : Prop where
  reached : Reaches sink total total
  flushed : sink.flush = .ok ()

variable {sink : Sink} {total taken : Nat} {failure : HostFailure}

theorem Reaches.le (hreached : sink.Reaches total taken) : taken ≤ total := by
  cases hreached with
  | start => exact Nat.zero_le _
  | offer => omega

theorem Fails.lt_or_flush (hfails : sink.Fails total taken failure) : taken < total ∨ sink.flush = .error failure := by
  cases hfails with
  | refused _ hmore _ | nothing _ hmore _ => exact .inl hmore
  | flush _ hflush => exact .inr hflush

/-- From every point that is reached the writing goes on to the end or to a failure. -/
theorem Reaches.end_or_fails (hreached : sink.Reaches total taken) :
    sink.Reaches total total ∨ ∃ stopped failure, sink.Fails total stopped failure := by
  -- an offer that is not the last leaves less to offer
  induction hleft : total - taken using Nat.strongRecOn generalizing taken with
  | ind left ih =>
    by_cases hmore : taken < total
    · cases haccept : sink.accept taken (total - taken) with
      | error failure => exact .inr ⟨taken, failure, .refused hreached hmore haccept⟩
      | ok n =>
        cases n with
        | zero => exact .inr ⟨taken, _, .nothing hreached hmore haccept⟩
        | succ n => exact ih _ (by omega) (hreached.offer hmore haccept) rfl
    · have hall : taken = total := Nat.le_antisymm hreached.le (Nat.le_of_not_lt hmore)
      exact .inl (hall ▸ hreached)

theorem delivers_or_fails (sink : Sink) (total : Nat) :
    sink.Delivers total ∨ ∃ taken failure, sink.Fails total taken failure := by
  have hstart : sink.Reaches total 0 := .start
  rcases hstart.end_or_fails with hreached | hfails
  · cases hflush : sink.flush with
    | error failure => exact .inr ⟨total, failure, .flush hreached hflush⟩
    | ok _ => exact .inl ⟨hreached, hflush⟩
  · exact .inr hfails

/-! ### Writing -/

variable {content : Bytes}

/-- At a point before the end there is a byte to offer, and the sink is asked what `Reaches` says. -/
theorem Reaches.next (hreached : sink.Reaches content.length taken) (hmore : taken < content.length) :
    ∃ byte more, content.drop taken = byte :: more ∧
      sink.accept (content.take taken).length (more.length + 1) = sink.accept taken (content.length - taken) := by
  have hleft : (content.drop taken).length = content.length - taken := List.length_drop
  have htaken : (content.take taken).length = taken := List.length_take_of_le hreached.le
  cases hdrop : content.drop taken with
  | nil =>
    rw [hdrop, List.length_nil] at hleft
    omega
  | cons byte more =>
    rw [hdrop, List.length_cons] at hleft
    exact ⟨byte, more, rfl, by rw [htaken, hleft]⟩

/-- An offer moves a front part of the rest behind the bytes that were taken. -/
theorem offer_moves {byte : UInt8} {more : Bytes} (hdrop : content.drop taken = byte :: more) (n : Nat) :
    content.take taken ++ byte :: more.take n = content.take (taken + min (n + 1) (content.length - taken)) ∧
      more.drop n = content.drop (taken + min (n + 1) (content.length - taken)) := by
  have hleft : min (n + 1) (content.length - taken) = min n more.length + 1 := by
    rw [← List.length_drop, hdrop, List.length_cons, Nat.add_min_add_right]
  rw [hleft, List.take_add, ← List.drop_drop, hdrop, List.take_succ_cons, List.drop_succ_cons]
  simp

/-- At every point that is reached, the bytes before it are taken and the others are still to be offered. -/
theorem Reaches.writeAfter_eq (hreached : sink.Reaches content.length taken) :
    sink.writeAfter [] content = sink.writeAfter (content.take taken) (content.drop taken) := by
  induction hreached with
  | start => rfl
  | @offer taken n hreached hmore haccept ih =>
    obtain ⟨byte, more, hdrop, hasked⟩ := hreached.next hmore
    obtain ⟨htaken, hrest⟩ := offer_moves hdrop n
    rw [ih, hdrop, writeAfter, hasked, haccept, ← htaken, ← hrest]

theorem write_of_delivers (hdelivers : sink.Delivers content.length) : sink.write content = ⟨content, .ok ()⟩ := by
  rw [write, hdelivers.reached.writeAfter_eq, List.drop_length, writeAfter, List.take_length, hdelivers.flushed]

theorem write_of_fails (hfails : sink.Fails content.length taken failure) :
    sink.write content = ⟨content.take taken, .error failure⟩ := by
  cases hfails with
  | refused hreached hmore haccept =>
    obtain ⟨byte, more, hdrop, hasked⟩ := hreached.next hmore
    rw [write, hreached.writeAfter_eq, hdrop, writeAfter, hasked, haccept]
  | nothing hreached hmore haccept =>
    obtain ⟨byte, more, hdrop, hasked⟩ := hreached.next hmore
    rw [write, hreached.writeAfter_eq, hdrop, writeAfter, hasked, haccept]
  | flush hreached hflush =>
    rw [write, hreached.writeAfter_eq, List.drop_length, writeAfter, hflush, List.take_length]

/-! ### Sinks of one kind -/

theorem limited_fails {limit : Nat} {flush : Except HostFailure Unit} (hlimit : limit < total) :
    (limited limit failure flush).Fails total limit failure := by
  have hreached : (limited limit failure flush).Reaches total limit := by
    cases limit with
    | zero => exact .start
    | succ n =>
      have haccept : (limited (n + 1) failure flush).accept 0 (total - 0) = .ok (n + 1) := by
        simp only [limited, Nat.sub_zero, Nat.zero_lt_succ, if_true, Nat.min_eq_right (Nat.le_of_lt hlimit)]
      have hoffer := Reaches.start.offer (Nat.zero_lt_of_lt hlimit) haccept
      rwa [Nat.zero_add, Nat.sub_zero, Nat.min_eq_left (Nat.le_of_lt hlimit)] at hoffer
  exact .refused hreached hlimit (if_neg (Nat.lt_irrefl limit))

/-- The sink takes something of every offer, and its flush succeeds. -/
structure Reliable (sink : Sink) : Prop where
  accepts (taken offered : Nat) (hoffered : 0 < offered) : ∃ n, sink.accept taken offered = .ok (n + 1)
  flushes : sink.flush = .ok ()

theorem unlimited_reliable : unlimited.Reliable where
  accepts taken offered hoffered := by
    obtain ⟨n, rfl⟩ := Nat.exists_eq_succ_of_ne_zero (Nat.ne_of_gt hoffered)
    exact ⟨n, rfl⟩
  flushes := rfl

theorem Reliable.not_fails (hsink : sink.Reliable) : ¬ sink.Fails total taken failure := by
  intro hfails
  cases hfails with
  | refused _ hmore haccept | nothing _ hmore haccept =>
    obtain ⟨n, haccepts⟩ := hsink.accepts taken (total - taken) (Nat.sub_pos_of_lt hmore)
    rw [haccepts] at haccept
    simp at haccept
  | flush _ hflush =>
    rw [hsink.flushes] at hflush
    simp at hflush

theorem Reliable.delivers (hsink : sink.Reliable) (total : Nat) : sink.Delivers total := by
  rcases sink.delivers_or_fails total with hdelivers | ⟨taken, failure, hfails⟩
  · exact hdelivers
  · exact absurd hfails hsink.not_fails

end ClassInspect.Sink
