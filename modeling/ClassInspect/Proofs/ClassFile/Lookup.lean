import ClassInspect.ClassFile.Pool

/-!
# Look-ups in the constant pool

What each look-up answers in terms of the slots alone: the text at the end of the chain if every link leads
to an entry of its kind, and otherwise the first link that does not.
-/

namespace ClassInspect.ConstantPool

variable {pool : ConstantPool} {index : UInt16} {value : String} {fault : Fault}

/-- The slots have the indices from one on. -/
theorem get?_eq_some_iff {constant : Constant} :
    pool.get? index = some constant ↔ index ≠ 0 ∧ pool.slots[index.toNat - 1]? = some constant := by
  by_cases hzero : index = 0
  · simp [get?, hzero]
  · rw [get?, if_neg hzero, and_iff_right hzero]

theorem utf8_eq_ok_iff : pool.utf8 index = .ok value ↔ pool.get? index = some (.utf8 value) := by
  unfold utf8
  split
  · next found hfound =>
    rw [hfound, Except.ok.injEq, Option.some.injEq, Constant.utf8.injEq]
  · next hother =>
    exact iff_of_false nofun (hother value)

theorem utf8_eq_error_iff :
    pool.utf8 index = .error fault ↔
      fault = .invalidIndex index .utf8 ∧ ∀ value, pool.get? index ≠ some (.utf8 value) := by
  unfold utf8
  split
  · next found hfound => exact iff_of_false nofun fun hnone => hnone.2 found hfound
  · next hother =>
    rw [Except.error.injEq, eq_comm, and_iff_left hother]

theorem className_eq_ok_iff :
    pool.className index = .ok value ↔
      ∃ name, pool.get? index = some (.classRef name) ∧ pool.get? name = some (.utf8 value) := by
  unfold className
  split
  · next name hname =>
    rw [utf8_eq_ok_iff]
    constructor
    · intro hvalue
      exact ⟨name, hname, hvalue⟩
    · rintro ⟨link, hlink, hvalue⟩
      rw [hname, Option.some.injEq, Constant.classRef.injEq] at hlink
      rw [hlink]
      exact hvalue
  · next hother =>
    refine iff_of_false nofun ?_
    rintro ⟨name, hname, -⟩
    exact hother name hname

theorem className_eq_error_iff :
    pool.className index = .error fault ↔
      (fault = .invalidIndex index .classEntry ∧ ∀ name, pool.get? index ≠ some (.classRef name)) ∨
        ∃ name, pool.get? index = some (.classRef name) ∧ fault = .invalidIndex name .utf8 ∧
          ∀ value, pool.get? name ≠ some (.utf8 value) := by
  unfold className
  split
  · next name hname =>
    rw [utf8_eq_error_iff, or_iff_right fun hnone => hnone.2 name hname]
    constructor
    · intro hfault
      exact ⟨name, hname, hfault⟩
    · rintro ⟨link, hlink, hfault⟩
      rw [hname, Option.some.injEq, Constant.classRef.injEq] at hlink
      rw [hlink]
      exact hfault
  · next hother =>
    have hno : ¬ ∃ name, pool.get? index = some (.classRef name) ∧ fault = .invalidIndex name .utf8 ∧
        ∀ value, pool.get? name ≠ some (.utf8 value) := by
      rintro ⟨name, hname, -⟩
      exact hother name hname
    rw [or_iff_left hno, Except.error.injEq, eq_comm, and_iff_left hother]

end ClassInspect.ConstantPool
