import ClassInspect.Proofs.ClassFile.Entries
import ClassInspect.Proofs.ClassFile.RoundTrip

/-!
# The slots of a constant pool

Two views of one invariant. Seen from the outside, the slots of every parsed class are paired: behind each wide
constant stands an unusable slot, nothing else is unusable, and no look-up accepts one. Seen from the inside, the
pool is filled by a loop that counts slots with a 16-bit index up to the stated size. `SlotLoop` is that loop, one
slot at a time. Its index is always one more than the number of slots filled, no increment of it overflows, and it
ends as `Decoder.slots` does, which counts down instead.
-/

namespace ClassInspect

namespace Layout

variable {constant : Constant} {slots : List Constant} {entry content : Bytes}

theorem ne_unusable_of_entry (hentry : constant.Entry entry) : constant ≠ .unusable := by
  intro hunusable
  rw [hunusable] at hentry
  exact hentry

theorem Paired.cons_narrow (hpaired : Paired slots) (husable : constant ≠ .unusable)
    (hnarrow : ¬ constant.Wide) : Paired (constant :: slots) := by
  refine ⟨by simpa using husable, fun k => ?_⟩
  cases k with
  | zero => simpa [hnarrow] using hpaired.first
  | succ k => simpa using hpaired.next k

theorem Paired.cons_wide (hpaired : Paired slots) (husable : constant ≠ .unusable)
    (hwide : constant.Wide) : Paired (constant :: .unusable :: slots) := by
  refine ⟨by simpa using husable, fun k => ?_⟩
  match k with
  | 0 => simp [hwide]
  | 1 => simpa [Constant.Wide] using hpaired.first
  | k + 2 => simpa using hpaired.next k

theorem Filled.paired (hfilled : Filled slots content) : Paired slots := by
  induction hfilled with
  | nil => exact ⟨by simp, by simp⟩
  | narrow hnarrow hentry _ ih => exact ih.cons_narrow (ne_unusable_of_entry hentry) hnarrow
  | wide hwide hentry _ ih => exact ih.cons_wide (ne_unusable_of_entry hentry) hwide

/-- Each slot holds an entry or is the second slot of a wide one. -/
theorem Filled.countP_usable_add_countP_wide (hfilled : Filled slots content) :
    slots.countP (· ≠ .unusable) + slots.countP Constant.Wide = slots.length := by
  induction hfilled with
  | nil => rfl
  | narrow hnarrow hentry _ ih =>
    have husable := ne_unusable_of_entry hentry
    rw [List.countP_cons_of_pos (by simpa using husable), List.countP_cons_of_neg (by simpa using hnarrow),
      List.length_cons]
    omega
  | wide hwide hentry _ ih =>
    have husable := ne_unusable_of_entry hentry
    have hsecond : ¬ Constant.unusable.Wide := by simp [Constant.Wide]
    rw [List.countP_cons_of_pos (by simpa using husable), List.countP_cons_of_neg (by simp),
      List.countP_cons_of_pos (by simpa using hwide), List.countP_cons_of_neg (by simpa using hsecond),
      List.length_cons, List.length_cons]
    omega

end Layout

/-! ### Unusable slots -/

/-- No look-up accepts the index, and there is no text for it. -/
structure ConstantPool.Rejects (pool : ConstantPool) (index : UInt16) : Prop where
  utf8 : pool.utf8 index = .error (.invalidIndex index .utf8)
  className : pool.className index = .error (.invalidIndex index .classEntry)
  nameAndType : pool.nameAndType index = .error (.invalidIndex index .nameAndType)
  memberRef : pool.memberRef index = .error (.invalidIndex index .memberReference)
  describe : pool.describe index = none

theorem ConstantPool.rejects_of_unusable {pool : ConstantPool} {index : UInt16}
    (hunusable : pool.get? index = some .unusable) : pool.Rejects index where
  utf8 := by simp [ConstantPool.utf8, hunusable]
  className := by simp [ConstantPool.className, hunusable]
  nameAndType := by simp [ConstantPool.nameAndType, hunusable]
  memberRef := by simp [ConstantPool.memberRef, hunusable, Constant.memberLinks]
  describe := by simp [ConstantPool.describe, hunusable]

/-! ### The loop that fills the slots -/

/-- The loop between two slots: the index of the next slot, the slots filled so far, and where their bytes end. -/
structure SlotLoop where
  index : UInt16
  done : Array Constant
  /-- The slot filled last holds a wide constant, so its second slot comes next. -/
  halfway : Bool
  cursor : Cursor

namespace SlotLoop

variable {count : UInt16} {cursor : Cursor} {state later : SlotLoop} {fault : Fault}

def start (cursor : Cursor) : SlotLoop := ⟨1, #[], false, cursor⟩

/-- A wide constant is completed first; otherwise the loop goes on up to the stated size. -/
def Running (count : UInt16) (state : SlotLoop) : Prop := state.halfway = true ∨ state.index < count

/-- Fills one slot and counts it. -/
def push (count : UInt16) (state : SlotLoop) : Except Fault SlotLoop :=
  if state.halfway then
    if state.index < count then
      .ok { state with index := state.index + 1, done := state.done.push .unusable, halfway := false }
    else .error (.invalidIndex (state.index - 1) .twoSlots)
  else
    match Decoder.constant state.index state.cursor with
    | .ok (next, cursor) => .ok ⟨state.index + 1, state.done.push next, decide next.Wide, cursor⟩
    | .error fault => .error fault

/-- The states that the loop passes on the bytes at a cursor. -/
inductive Reached (count : UInt16) (cursor : Cursor) : SlotLoop → Prop where
  | start : Reached count cursor (start cursor)
  | push {state later : SlotLoop} (hreached : Reached count cursor state) (hrunning : state.Running count)
    (hpush : state.push count = .ok later) : Reached count cursor later

/-- How the loop ends on the bytes at a cursor. -/
inductive Ends (count : UInt16) (cursor : Cursor) : Except Fault (Array Constant × Cursor) → Prop where
  | filled {state : SlotLoop} (hreached : Reached count cursor state) (hstopped : ¬ state.Running count) :
    Ends count cursor (.ok (state.done, state.cursor))
  | failed {state : SlotLoop} {fault : Fault} (hreached : Reached count cursor state) (hrunning : state.Running count)
    (hpush : state.push count = .error fault) : Ends count cursor (.error fault)

theorem push_of_halfway (hhalfway : state.halfway = true) :
    state.push count = if state.index < count then
      .ok { state with index := state.index + 1, done := state.done.push .unusable, halfway := false }
      else .error (.invalidIndex (state.index - 1) .twoSlots) := by
  rw [push, if_pos hhalfway]

/-- What one push does: it fills one slot and moves the index by one. -/
theorem index_done_of_push (hpush : state.push count = .ok later) :
    later.index = state.index + 1 ∧ later.done.size = state.done.size + 1 := by
  unfold push at hpush
  split at hpush
  · split at hpush
    · rw [← Except.ok.inj hpush]
      exact ⟨rfl, Array.size_push _⟩
    · simp at hpush
  · split at hpush
    · rw [← Except.ok.inj hpush]
      exact ⟨rfl, Array.size_push _⟩
    · simp at hpush

/-- The loop pushes below the stated size only, also into the second slot of a wide constant. -/
theorem index_lt_of_push (hrunning : state.Running count) (hpush : state.push count = .ok later) :
    state.index < count := by
  rcases hrunning with hhalfway | hlt
  · rw [push_of_halfway hhalfway] at hpush
    split at hpush
    · assumption
    · simp at hpush
  · exact hlt

/-- Below the stated size there is room for one more in 16 bits. -/
theorem toNat_index_add_one {index : UInt16} (hlt : index < count) : (index + 1).toNat = index.toNat + 1 := by
  have hcount := count.toNat_lt
  rw [UInt16.lt_iff_toNat_lt] at hlt
  rw [UInt16.toNat_add, UInt16.toNat_one, Nat.mod_eq_of_lt (by omega)]

theorem Reached.toNat_index (hreached : Reached count cursor state) : state.index.toNat = state.done.size + 1 := by
  induction hreached with
  | start => rfl
  | push _ hrunning hpush ih =>
    obtain ⟨hindex, hdone⟩ := index_done_of_push hpush
    rw [hindex, toNat_index_add_one (index_lt_of_push hrunning hpush), ih, hdone]

end SlotLoop

/-! ### The loop and the decoder -/

namespace Decoder

variable {left : Nat} {index : UInt16} {done : Array Constant} {cursor moved : Cursor} {next : Constant} {fault : Fault}

theorem run_slots_of_error (hrun : constant index cursor = .error fault) :
    slots (left + 1) index done cursor = .error fault := by
  cases left with
  | zero => rw [slots_one, run_bind_of_error hrun]
  | succ left => rw [slots_add_two, run_bind_of_error hrun]

theorem run_slots_of_narrow (hrun : constant index cursor = .ok (next, moved)) (hnarrow : ¬ next.Wide) :
    slots (left + 1) index done cursor = slots left (index + 1) (done.push next) moved := by
  cases left with
  | zero =>
    rw [slots_one, run_bind_of_ok hrun, if_neg hnarrow, slots]
  | succ left =>
    rw [slots_add_two, run_bind_of_ok hrun, if_neg hnarrow]

theorem run_slots_of_wide (hrun : constant index cursor = .ok (next, moved)) (hwide : next.Wide) :
    slots (left + 2) index done cursor = slots left (index + 1 + 1) ((done.push next).push .unusable) moved := by
  rw [slots_add_two, run_bind_of_ok hrun, if_pos hwide, UInt16.add_assoc]
  rfl

theorem run_slots_one_of_wide (hrun : constant index cursor = .ok (next, moved)) (hwide : next.Wide) :
    slots 1 index done cursor = .error (.invalidIndex index .twoSlots) := by
  rw [slots_one, run_bind_of_ok hrun, if_pos hwide]
  rfl

end Decoder

namespace SlotLoop

variable {count : UInt16} {cursor : Cursor} {state later : SlotLoop} {fault : Fault}
  {outcome : Except Fault (Array Constant × Cursor)}

/-- What the decoder of slots still has to do where the loop stands. -/
def remainder (count : UInt16) (state : SlotLoop) : Except Fault (Array Constant × Cursor) :=
  if state.halfway then
    if state.index < count then
      Decoder.slots (count.toNat - (state.index.toNat + 1)) (state.index + 1) (state.done.push .unusable) state.cursor
    else .error (.invalidIndex (state.index - 1) .twoSlots)
  else Decoder.slots (count.toNat - state.index.toNat) state.index state.done state.cursor

theorem remainder_of_halfway (hhalfway : state.halfway = true) :
    state.remainder count = if state.index < count then
      Decoder.slots (count.toNat - (state.index.toNat + 1)) (state.index + 1) (state.done.push .unusable) state.cursor
      else .error (.invalidIndex (state.index - 1) .twoSlots) := by
  rw [remainder, if_pos hhalfway]

theorem remainder_of_whole (hwhole : state.halfway = false) :
    state.remainder count = Decoder.slots (count.toNat - state.index.toNat) state.index state.done state.cursor := by
  rw [remainder, hwhole]
  rfl

theorem push_of_ok {next : Constant} {moved : Cursor} (hwhole : state.halfway = false)
    (hrun : Decoder.constant state.index state.cursor = .ok (next, moved)) :
    state.push count = .ok ⟨state.index + 1, state.done.push next, decide next.Wide, moved⟩ := by
  simp [push, hwhole, hrun]

theorem push_of_error (hwhole : state.halfway = false)
    (hrun : Decoder.constant state.index state.cursor = .error fault) : state.push count = .error fault := by
  simp [push, hwhole, hrun]

/-- A push takes one slot off what is left to do. -/
theorem remainder_of_push (hrunning : state.Running count) (hpush : state.push count = .ok later) :
    state.remainder count = later.remainder count := by
  have hlt := index_lt_of_push hrunning hpush
  have hindex := toNat_index_add_one hlt
  cases hhalfway : state.halfway with
  | true =>
    rw [push_of_halfway hhalfway, if_pos hlt] at hpush
    rw [← Except.ok.inj hpush, remainder_of_halfway hhalfway, if_pos hlt, remainder_of_whole rfl, hindex]
  | false =>
    cases hrun : Decoder.constant state.index state.cursor with
    | error fault => simp [push_of_error hhalfway hrun] at hpush
    | ok result =>
      obtain ⟨next, moved⟩ := result
      rw [push_of_ok hhalfway hrun] at hpush
      rw [← Except.ok.inj hpush, remainder_of_whole hhalfway]
      rw [UInt16.lt_iff_toNat_lt] at hlt
      obtain ⟨left, hleft⟩ : ∃ left, count.toNat - state.index.toNat = left + 1 := ⟨_, (Nat.succ_pred (by omega)).symm⟩
      by_cases hwide : next.Wide
      · rw [remainder_of_halfway (decide_eq_true hwide), hleft]
        -- the second slot is there exactly if the stated size is beyond the next index
        cases left with
        | zero =>
          have hfull : ¬ state.index + 1 < count := by
            rw [UInt16.lt_iff_toNat_lt, hindex]
            omega
          rw [if_neg hfull, Decoder.run_slots_one_of_wide hrun hwide, UInt16.add_sub_cancel]
        | succ left =>
          have hroom : state.index + 1 < count := by
            rw [UInt16.lt_iff_toNat_lt, hindex]
            omega
          rw [if_pos hroom, Decoder.run_slots_of_wide hrun hwide, hindex,
            show count.toNat - (state.index.toNat + 1 + 1) = left by omega]
      · rw [hleft, Decoder.run_slots_of_narrow hrun hwide, remainder_of_whole (decide_eq_false hwide), hindex,
          show count.toNat - (state.index.toNat + 1) = left by omega]

theorem remainder_of_push_error (hrunning : state.Running count) (hpush : state.push count = .error fault) :
    state.remainder count = .error fault := by
  cases hhalfway : state.halfway with
  | true =>
    rw [push_of_halfway hhalfway] at hpush
    rw [remainder_of_halfway hhalfway]
    split at hpush
    · simp at hpush
    · next hfull => rw [if_neg hfull, Except.error.inj hpush]
  | false =>
    have hlt : state.index < count := hrunning.resolve_left (by simp [hhalfway])
    rw [UInt16.lt_iff_toNat_lt] at hlt
    cases hrun : Decoder.constant state.index state.cursor with
    | ok result => simp [push_of_ok hhalfway hrun] at hpush
    | error own =>
      rw [push_of_error hhalfway hrun] at hpush
      rw [remainder_of_whole hhalfway, show count.toNat - state.index.toNat = count.toNat - state.index.toNat - 1 + 1 by omega,
        Decoder.run_slots_of_error hrun, Except.error.inj hpush]

theorem remainder_of_stopped (hstopped : ¬ state.Running count) :
    state.remainder count = .ok (state.done, state.cursor) := by
  rw [Running, not_or, Bool.not_eq_true, UInt16.lt_iff_toNat_lt] at hstopped
  rw [remainder_of_whole hstopped.1, Nat.sub_eq_zero_of_le (Nat.le_of_not_lt hstopped.2), Decoder.slots]
  rfl

theorem Reached.run_slots_eq (hreached : Reached count cursor state) :
    Decoder.slots (count.toNat - 1) 1 #[] cursor = state.remainder count := by
  induction hreached with
  | start => rw [remainder_of_whole rfl]; rfl
  | push _ hrunning hpush ih => rw [ih, remainder_of_push hrunning hpush]

/-- Every push brings the index closer to the stated size, so the loop ends. -/
theorem Reached.exists_ends (hreached : Reached count cursor state) : ∃ outcome, Ends count cursor outcome := by
  induction hleft : count.toNat - state.index.toNat using Nat.strongRecOn generalizing state with
  | ind left ih =>
    by_cases hrunning : state.Running count
    · cases hpush : state.push count with
      | error fault => exact ⟨_, .failed hreached hrunning hpush⟩
      | ok later =>
        have hlt := index_lt_of_push hrunning hpush
        have hindex := toNat_index_add_one hlt
        rw [UInt16.lt_iff_toNat_lt] at hlt
        apply ih (count.toNat - later.index.toNat) _ (hreached.push hrunning hpush) rfl
        rw [(index_done_of_push hpush).1, hindex]
        omega
    · exact ⟨_, .filled hreached hrunning⟩

theorem Ends.run_slots_eq (hends : Ends count cursor outcome) :
    Decoder.slots (count.toNat - 1) 1 #[] cursor = outcome := by
  cases hends with
  | filled hreached hstopped => rw [hreached.run_slots_eq, remainder_of_stopped hstopped]
  | failed hreached hrunning hpush => rw [hreached.run_slots_eq, remainder_of_push_error hrunning hpush]

/-- The loop ends as the decoder of slots does. -/
theorem ends_iff : Ends count cursor outcome ↔ Decoder.slots (count.toNat - 1) 1 #[] cursor = outcome := by
  refine ⟨Ends.run_slots_eq, fun hrun => ?_⟩
  obtain ⟨own, hown⟩ := (Reached.start : Reached count cursor (start cursor)).exists_ends
  rw [← hrun, hown.run_slots_eq]
  exact hown

end SlotLoop

/-! ### Parsed classes -/

namespace ClassFile

/-- The stated size of the pool stands behind the magic number and the versions. -/
theorem toNat_take_drop_header (minor major count : UInt16) (rest : Bytes) :
    BigEndian.toNat (((Layout.header minor major count ++ rest).drop 8).take 2) = count.toNat := by
  have hfront : (Layout.u4 0xCAFEBABE ++ Layout.u2 minor ++ Layout.u2 major).length = 8 := by
    simp [Layout.u4, Layout.u2, BigEndian.length_ofNat]
  rw [Layout.header, List.append_assoc, List.drop_left' hfront, Layout.u2, List.take_left' (BigEndian.length_ofNat _ _),
    BigEndian.toNat_ofNat count.toNat_lt]

theorem LaidOut.toNat_take_drop {file : ClassFile} {count : UInt16} {content : Bytes} (hlaid : file.LaidOut count content)
    (tail : Bytes) : BigEndian.toNat (((content ++ tail).drop 8).take 2) = count.toNat := by
  obtain ⟨entries, -, rfl⟩ := hlaid.spelled
  simp only [layout, List.append_assoc]
  exact toNat_take_drop_header _ _ _ _

theorem LaidOut.length_entries_add_countP_wide {file : ClassFile} {count : UInt16} {content : Bytes}
    (hlaid : file.LaidOut count content) :
    file.pool.entries.length + file.pool.slots.toList.countP Constant.Wide = file.pool.size := by
  obtain ⟨entries, hfilled, -⟩ := hlaid.spelled
  rw [ConstantPool.entries_eq_listing, ConstantPool.length_listing, hfilled.countP_usable_add_countP_wide,
    Array.length_toList, ConstantPool.size]

/-- A parsed class has one slot less than the two bytes at offset 8 state; an unusable slot stands behind every wide
constant and nowhere else, so entries and wide constants together make up the slots; and no look-up accepts an unusable
slot. While slots are filled, for every stated size and all bytes, the 16-bit index is one more than the number of slots
filled and is never incremented beyond 16 bits; and this loop ends exactly as the decoder of slots does. -/
theorem pool_slot_invariant :
    (∀ data file, parse data = .ok file →
      file.pool.size = max (BigEndian.toNat ((data.drop 8).take 2)) 1 - 1 ∧ file.pool.size ≤ 65534 ∧
      Layout.Paired file.pool.slots.toList ∧
      file.pool.entries.length + file.pool.slots.toList.countP Constant.Wide = file.pool.size ∧
      ∀ index, file.pool.get? index = some .unusable → file.pool.Rejects index) ∧
    ∀ count cursor,
      (∀ state, SlotLoop.Reached count cursor state → state.index.toNat = state.done.size + 1 ∧
        ∀ later, state.Running count → state.push count = .ok later →
          state.index.toNat + 1 < 2 ^ 16 ∧ later.index.toNat = state.index.toNat + 1) ∧
      ∀ outcome, SlotLoop.Ends count cursor outcome ↔ Decoder.slots (count.toNat - 1) 1 #[] cursor = outcome := by
  refine ⟨fun data file hparse => ?_, fun count cursor => ⟨fun state hreached => ?_, fun outcome => SlotLoop.ends_iff⟩⟩
  · obtain ⟨⟨content, tail, rfl, hreads⟩, -⟩ := parse_eq_ok_iff_reads.mp hparse
    obtain ⟨count, hlaid⟩ := Decoder.reads_classFile_iff.mp hreads
    obtain ⟨entries, hfilled, -⟩ := hlaid.spelled
    have hsize := hlaid.size
    have hcount := count.toNat_lt
    refine ⟨?_, by omega, hfilled.paired, hlaid.length_entries_add_countP_wide, fun index => ConstantPool.rejects_of_unusable⟩
    rw [hlaid.toNat_take_drop]
    omega
  · refine ⟨hreached.toNat_index, fun later hrunning hpush => ?_⟩
    have hlt := SlotLoop.index_lt_of_push hrunning hpush
    have hindex := SlotLoop.toNat_index_add_one hlt
    refine ⟨hindex ▸ (state.index + 1).toNat_lt, ?_⟩
    rw [(SlotLoop.index_done_of_push hpush).1, hindex]

/-- A pool that ends in a long and a double, and the first slot of a pool that states room for one. -/
theorem pool_slot_invariant_specimen :
    (parse (specimen.encode ++ []) = .ok specimen ∧ specimen.pool.size ≤ 65534 ∧
      specimen.pool.entries.length + specimen.pool.slots.toList.countP Constant.Wide = 6 ∧
      specimen.pool.get? 4 = some .unusable ∧ specimen.pool.Rejects 4 ∧
      specimen.pool.get? 6 = some .unusable ∧ specimen.pool.Rejects 6) ∧
    (SlotLoop.start ⟨[7, 0, 1], 10⟩).push 2 = .ok ⟨2, #[.classRef 1], false, ⟨[], 13⟩⟩ ∧
      (SlotLoop.start ⟨[7, 0, 1], 10⟩).index.toNat + 1 < 2 ^ 16 ∧
      SlotLoop.Ends 2 ⟨[7, 0, 1], 10⟩ (.ok (#[.classRef 1], ⟨[], 13⟩)) := by
  have hparse := specimen_encodable.laidOut.parse_append specimen_encodable.named []
  have hslots := pool_slot_invariant.1 _ _ hparse
  have hloop := pool_slot_invariant.2 2 ⟨[7, 0, 1], 10⟩
  have hpush : (SlotLoop.start ⟨[7, 0, 1], 10⟩).push 2 = .ok ⟨2, #[.classRef 1], false, ⟨[], 13⟩⟩ := rfl
  refine ⟨⟨hparse, hslots.2.1, hslots.2.2.2.1, rfl, hslots.2.2.2.2 4 rfl, rfl, hslots.2.2.2.2 6 rfl⟩, hpush, ?_,
    (hloop.2 _).mpr rfl⟩
  exact ((hloop.1 _ .start).2 _ (.inr (by decide)) hpush).1

end ClassFile

end ClassInspect
