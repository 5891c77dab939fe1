import ClassInspect.Proofs.Text.ModifiedUtf8
import ClassInspect.Proofs.Text.Surrogates

/-!
# Whole groups, damage and seams

A byte string that is a sequence of complete groups is read group by group, and every other one leaves a mark. The
reader looks at bytes that it does not consume, so what it makes of a string could depend on what follows; it does not,
unless a group that was cut off is continued. Each fact about the reader comes from what it does at one byte: it
takes a complete group, or marks the byte and goes on with the next.
-/

namespace ClassInspect.ModifiedUtf8

/-! ### One step -/

theorem lt_of_groupLength_eq_one {lead : UInt8} (hlength : groupLength lead = 1) : lead.toNat < 0x80 := by
  rw [groupLength_eq] at hlength
  split_ifs at hlength <;> omega

theorem bounds_of_groupLength_eq_two {lead : UInt8} (hlength : groupLength lead = 2) :
    0xC0 ≤ lead.toNat ∧ lead.toNat < 0xE0 := by
  rw [groupLength_eq] at hlength
  split_ifs at hlength <;> omega

theorem bounds_of_groupLength_eq_three {lead : UInt8} (hlength : groupLength lead = 3) :
    0xE0 ≤ lead.toNat ∧ lead.toNat < 0xF0 := by
  rw [groupLength_eq] at hlength
  split_ifs at hlength <;> omega

/-- At a byte, the reader takes a complete group or marks this byte alone. -/
theorem next_cases (lead : UInt8) (rest : Bytes) :
    (∃ bytes, IsGroup bytes (next lead rest).1 ∧ lead :: rest = bytes ++ (next lead rest).2) ∨
      next lead rest = (malformed, rest) := by
  unfold next
  split
  · next hlength =>
    exact .inl ⟨[lead], isGroup_one (lt_of_groupLength_eq_one hlength) rfl, rfl⟩
  · next second tail hlength =>
    split
    · next hsecond =>
      exact .inl ⟨[lead, second], isGroup_two (bounds_of_groupLength_eq_two hlength)
        (isContinuation_eq_true_iff.mp hsecond) rfl, rfl⟩
    · exact .inr rfl
  · next second third tail hlength =>
    split
    · next hboth =>
      rw [Bool.and_eq_true, isContinuation_eq_true_iff, isContinuation_eq_true_iff] at hboth
      exact .inl ⟨[lead, second, third], isGroup_three (bounds_of_groupLength_eq_three hlength) hboth.1 hboth.2 rfl, rfl⟩
    · exact .inr rfl
  · exact .inr rfl

/-- What holds of nothing, and of a string if it holds behind its first unit, holds of every string. -/
theorem next_induction {motive : Bytes → Prop} (nil : motive [])
    (cons : ∀ lead rest, motive (next lead rest).2 → motive (lead :: rest)) (raw : Bytes) : motive raw := by
  fun_induction unitsAfter raw [] with
  | case1 _ => exact nil
  | case2 lead rest _ ih => exact cons lead rest ih

/-! ### Sequences of complete groups -/

/-- The byte string is a sequence of complete groups that spell the units. -/
inductive Grouped : Bytes → List UInt16 → Prop
  | nil : Grouped [] []
  | cons {bytes rest : Bytes} {unit : UInt16} {us : List UInt16} (hgroup : IsGroup bytes unit)
      (hrest : Grouped rest us) : Grouped (bytes ++ rest) (unit :: us)

theorem Grouped.units_eq {raw : Bytes} {us : List UInt16} (hgrouped : Grouped raw us) : units raw = us := by
  induction hgrouped with
  | nil => exact units_nil
  | cons hgroup _ ih => rw [hgroup.units_append, ih]

/-- A byte outside every group leaves its mark among the units. -/
theorem grouped_units {raw : Bytes} (hmarks : malformed ∉ units raw) : Grouped raw (units raw) := by
  induction raw using next_induction with
  | nil =>
    rw [units_nil]
    exact .nil
  | cons lead rest ih =>
    rw [units_cons, List.mem_cons, not_or] at hmarks
    rw [units_cons]
    obtain ⟨bytes, hgroup, hbytes⟩ | hmark := next_cases lead rest
    · rw [hbytes]
      exact .cons hgroup (ih hmarks.2)
    · rw [hmark] at hmarks
      exact absurd rfl hmarks.1

/-! ### Seams -/

/-- A group that starts in front of the seam ends there, unless the bytes behind it continue one. -/
theorem IsGroup.before_seam {bytes tail rest more : Bytes} {unit : UInt16} {lead : UInt8} (hgroup : IsGroup bytes unit)
    (hseam : ∀ x tail, more ≠ continuation x :: tail) (hbytes : lead :: (rest ++ more) = bytes ++ tail) :
    ∃ inner, lead :: rest = bytes ++ inner ∧ tail = inner ++ more := by
  obtain ⟨outer, hgroupBytes, hmore⟩ | hinner := List.append_eq_append_iff.mp ((List.cons_append ..).trans hbytes)
  · obtain ⟨first, others, rfl, hothers⟩ := hgroup.exists_lead
    obtain ⟨rfl, rfl⟩ := List.cons.inj hgroupBytes
    -- `outer` is the part of the group behind the seam
    cases outer with
    | nil => exact ⟨[], by simp, hmore.symm⟩
    | cons byte outer =>
      obtain ⟨x, rfl⟩ := hothers byte (by simp)
      exact absurd hmore (hseam x _)
  · exact hinner

theorem next_append (lead : UInt8) (rest : Bytes) {more : Bytes} (hseam : ∀ x tail, more ≠ continuation x :: tail) :
    next lead (rest ++ more) = ((next lead rest).1, (next lead rest).2 ++ more) := by
  obtain ⟨bytes, hgroup, hbytes⟩ | hmark := next_cases lead rest
  · exact hgroup.next_eq (by rw [← List.append_assoc, ← hbytes, List.cons_append])
  · obtain ⟨bytes, hgroup, hbytes⟩ | hmarkLonger := next_cases lead (rest ++ more)
    · -- a group of the longer string was already complete in the shorter one
      obtain ⟨inner, hinner, htail⟩ := hgroup.before_seam hseam hbytes
      rw [hgroup.next_eq hinner, ← htail]
    · rw [hmark, hmarkLonger]

/-- The units in front of a seam do not depend on what is behind it. -/
theorem units_append (raw : Bytes) {more : Bytes} (hseam : ∀ x tail, more ≠ continuation x :: tail) :
    units (raw ++ more) = units raw ++ units more := by
  induction raw using next_induction with
  | nil => rw [units_nil, List.nil_append, List.nil_append]
  | cons lead rest ih => rw [List.cons_append, units_cons, units_cons, next_append lead rest hseam, ih, List.cons_append]

/-! ### What is decoded -/

theorem length_unitBytes (unit : UInt16) :
    (unitBytes unit).length = if 0x0001 ≤ unit ∧ unit ≤ 0x007F then 1 else if unit ≤ 0x07FF then 2 else 3 := by
  simp only [unitBytes, Bool.and_eq_true, decide_eq_true_eq]
  split_ifs <;> rfl

/-- A unit is written as one group of the least length, and zero as one of two bytes. Decoding the bytes of any units
gives the text that the units stand for, with pairs of surrogates combined and a lost surrogate replaced; so every text
is found again in the bytes of its units. -/
theorem decode_encodeUnits_iff_lossy :
    (∀ unit, IsGroup (unitBytes unit) unit ∧
      (unitBytes unit).length = if 0x0001 ≤ unit ∧ unit ≤ 0x007F then 1 else if unit ≤ 0x07FF then 2 else 3) ∧
    (∀ us text, decode (encodeUnits us) = text ↔ Utf16.Lossy us text.toList) ∧
    ∀ text, decode (encodeUnits (Utf16.units text)) = text := by
  refine ⟨fun unit => ⟨isGroup_unitBytes unit, length_unitBytes unit⟩, fun us text => ?_, decode_encode⟩
  rw [decode, units_encodeUnits, Utf16.decode_eq_iff_lossy]

/-- No replacement character is decoded exactly if the bytes are a sequence of complete groups whose units do not spell it
and leave no surrogate without its partner. -/
theorem replacement_not_mem_decode_iff (raw : Bytes) :
    Utf16.replacement ∉ (decode raw).toList ↔
      ∃ us, Grouped raw us ∧ 0xFFFD ∉ us ∧ Utf16.PairsUp us := by
  rw [decode, Utf16.decode_eq, String.toList_ofList, (Utf16.lossy_chars (units raw)).replacement_not_mem_iff]
  apply Iff.intro
  · intro hunits
    exact ⟨units raw, grouped_units hunits.1, hunits⟩
  · intro hgrouped
    obtain ⟨us, hgrouped, hunits⟩ := hgrouped
    rwa [hgrouped.units_eq]

/-- Behind any bytes, bytes that do not start with a continuation are read as if they stood alone; and so is their text,
exactly if no pair of surrogates is torn between the two. -/
theorem decode_append_local (raw more : Bytes) (hseam : ¬ ∃ x tail, more = continuation x :: tail) :
    units (raw ++ more) = units raw ++ units more ∧
      (decode (raw ++ more) = decode raw ++ decode more ↔
        ¬ ((units raw).getLast?.any Utf16.isHigh = true ∧ (units more).head?.any Utf16.isLow = true)) := by
  have hunits := units_append raw fun x tail heq => hseam ⟨x, tail, heq⟩
  refine ⟨hunits, ?_⟩
  rw [decode, hunits]
  exact Utf16.decode_append_eq_iff

/-- A group that is cut off in front of another character. -/
theorem decode_append_local_cut :
    (¬ ∃ x tail, ([0x62] : Bytes) = continuation x :: tail) ∧
      units ([0x61, 0xE2, 0x82] ++ [0x62]) = units [0x61, 0xE2, 0x82] ++ units [0x62] ∧
      (decode ([0x61, 0xE2, 0x82] ++ [0x62]) = decode [0x61, 0xE2, 0x82] ++ decode [0x62] ↔
        ¬ ((units [0x61, 0xE2, 0x82]).getLast?.any Utf16.isHigh = true ∧
          (units [0x62]).head?.any Utf16.isLow = true)) := by
  have hseam : ¬ ∃ x tail, ([0x62] : Bytes) = continuation x :: tail := by
    intro hstart
    obtain ⟨x, tail, heq⟩ := hstart
    have hnumber := congrArg UInt8.toNat (List.cons.inj heq).1
    rw [toNat_continuation] at hnumber
    change 0x62 = _ at hnumber
    omega
  exact ⟨hseam, decode_append_local _ _ hseam⟩

end ClassInspect.ModifiedUtf8
