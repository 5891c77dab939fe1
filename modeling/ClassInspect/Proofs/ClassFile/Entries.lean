import ClassInspect.Proofs.ClassFile.Lookup

/-!
# The entries of a constant pool

`ConstantPool.entries` walks over the slots with a 16-bit index beside it and collects in reverse. Here it is what a
reader expects: the usable slots, in order, each with its number. In a pool that 16-bit indices can address, the
indices ascend and are those that look-ups understand.
-/

namespace ClassInspect

theorem Constant.isUsable_eq_decide (constant : Constant) : constant.isUsable = decide (constant ≠ .unusable) := by
  cases constant <;> rfl

namespace ConstantPool

/-- The usable slots of a list whose first slot has the given number. -/
def listing (slots : List Constant) (first : Nat) : List (UInt16 × Constant) :=
  ((slots.zipIdx first).filter fun numbered => numbered.1 ≠ .unusable).map fun numbered =>
    (UInt16.ofNat numbered.2, numbered.1)

theorem listing_cons (slot : Constant) (slots : List Constant) (first : Nat) :
    listing (slot :: slots) first =
      (if slot ≠ .unusable then [(UInt16.ofNat first, slot)] else []) ++ listing slots (first + 1) := by
  by_cases husable : slot = .unusable <;> simp [listing, List.zipIdx_cons, husable]

theorem entriesAfter_eq (slots : List Constant) (first : Nat) (done : List (UInt16 × Constant)) :
    entriesAfter slots (UInt16.ofNat first) done = done.reverse ++ listing slots first := by
  induction slots generalizing first done with
  | nil => simp [entriesAfter, listing]
  | cons slot slots ih =>
    have hnext : UInt16.ofNat first + 1 = UInt16.ofNat (first + 1) := by rw [UInt16.ofNat_add]; rfl
    rw [entriesAfter, hnext, ih, listing_cons, Constant.isUsable_eq_decide]
    by_cases husable : slot = .unusable <;> simp [husable]

theorem entries_eq_listing (pool : ConstantPool) : pool.entries = listing pool.slots.toList 1 := by
  rw [entries]
  exact entriesAfter_eq pool.slots.toList 1 []

theorem length_listing (slots : List Constant) (first : Nat) :
    (listing slots first).length = slots.countP (· ≠ .unusable) := by
  induction slots generalizing first with
  | nil => rfl
  | cons slot slots ih =>
    rw [listing_cons, List.length_append, ih, List.countP_cons]
    by_cases husable : slot = .unusable <;> simp [husable, Nat.add_comm]

theorem mem_listing_iff {slots : List Constant} {first : Nat} {index : UInt16} {constant : Constant} :
    (index, constant) ∈ listing slots first ↔
      ∃ k, slots[k]? = some constant ∧ index = UInt16.ofNat (first + k) ∧ constant ≠ .unusable := by
  simp only [listing, List.mem_map, List.mem_filter, decide_eq_true_eq, Prod.exists, Prod.mk.injEq,
    List.mem_zipIdx_iff_le_and_getElem?_sub]
  apply Iff.intro
  · intro hmember
    obtain ⟨slot, number, ⟨⟨hnumber, hslot⟩, husable⟩, hindex, rfl⟩ := hmember
    refine ⟨number - first, hslot, ?_, husable⟩
    rw [← hindex, Nat.add_sub_cancel' hnumber]
  · intro hslot
    obtain ⟨k, hslot, rfl, husable⟩ := hslot
    refine ⟨constant, first + k, ⟨⟨Nat.le_add_right _ _, ?_⟩, husable⟩, rfl, rfl⟩
    rw [Nat.add_sub_cancel_left]
    exact hslot

/-- What a look-up finds is listed, also in a pool with more slots than indices can address. -/
theorem mem_entries_of_get? {pool : ConstantPool} {index : UInt16} {constant : Constant}
    (hfound : pool.get? index = some constant) (husable : constant ≠ .unusable) : (index, constant) ∈ pool.entries := by
  obtain ⟨hpositive, hslot⟩ := get?_eq_some_iff.mp hfound
  have hnumber : index.toNat ≠ 0 := fun hzero => hpositive (UInt16.toNat_inj.mp hzero)
  rw [entries_eq_listing, mem_listing_iff]
  refine ⟨index.toNat - 1, Array.getElem?_toList.trans hslot, ?_, husable⟩
  rw [Nat.add_sub_cancel' (Nat.one_le_iff_ne_zero.mpr hnumber), UInt16.ofNat_toNat]

/-- The entries of an addressable pool are what look-ups find at their indices. -/
theorem mem_entries_iff {pool : ConstantPool} (hsize : pool.size ≤ 65535) {index : UInt16} {constant : Constant} :
    (index, constant) ∈ pool.entries ↔ pool.get? index = some constant ∧ constant ≠ .unusable := by
  apply Iff.intro
  · intro hslot
    rw [entries_eq_listing, mem_listing_iff] at hslot
    obtain ⟨k, hslot, rfl, husable⟩ := hslot
    rw [Array.getElem?_toList] at hslot
    have hk : k < pool.slots.size := (Array.getElem?_eq_some_iff.mp hslot).1
    have haddressed : 1 + k < 65536 := Nat.add_comm k 1 ▸ Nat.succ_lt_succ (Nat.lt_of_lt_of_le hk hsize)
    have hindex : (UInt16.ofNat (1 + k)).toNat = 1 + k := UInt16.toNat_ofNat_of_lt' haddressed
    have hpositive : UInt16.ofNat (1 + k) ≠ 0 := by
      intro hzero
      rw [hzero, UInt16.toNat_zero] at hindex
      omega
    rw [get?_eq_some_iff, hindex, Nat.add_sub_cancel_left]
    exact ⟨⟨hpositive, hslot⟩, husable⟩
  · intro hfound
    exact mem_entries_of_get? hfound.1 hfound.2

theorem pairwise_listing {slots : List Constant} {first : Nat} (hlast : first + slots.length ≤ 65536) :
    (listing slots first).Pairwise fun earlier later => earlier.1 < later.1 := by
  induction slots generalizing first with
  | nil => exact List.Pairwise.nil
  | cons slot slots ih =>
    rw [List.length_cons] at hlast
    have hrest := ih (show first + 1 + slots.length ≤ 65536 by omega)
    rw [listing_cons]
    by_cases husable : slot = .unusable
    · simpa [husable] using hrest
    · rw [if_pos husable, List.singleton_append, List.pairwise_cons]
      refine ⟨?_, hrest⟩
      intro later hlater
      obtain ⟨index, constant⟩ := later
      obtain ⟨k, hslot, rfl, -⟩ := mem_listing_iff.mp hlater
      have hk : k < slots.length := (List.getElem?_eq_some_iff.mp hslot).1
      have hearlier : (UInt16.ofNat first).toNat = first :=
        UInt16.toNat_ofNat_of_lt' (show first < 65536 by omega)
      have hlater : (UInt16.ofNat (first + 1 + k)).toNat = first + 1 + k :=
        UInt16.toNat_ofNat_of_lt' (show first + 1 + k < 65536 by omega)
      rw [UInt16.lt_iff_toNat_lt, hearlier, hlater]
      omega

/-- The entries of an addressable pool stand in the order of their indices. -/
theorem pairwise_entries {pool : ConstantPool} (hsize : pool.size ≤ 65535) :
    pool.entries.Pairwise fun earlier later => earlier.1 < later.1 := by
  rw [entries_eq_listing]
  apply pairwise_listing
  rw [Array.length_toList]
  exact Nat.add_comm 1 _ ▸ Nat.succ_le_succ hsize

end ConstantPool

end ClassInspect
