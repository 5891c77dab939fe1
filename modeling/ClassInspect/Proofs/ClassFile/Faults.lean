import ClassInspect.Error
import ClassInspect.Proofs.ClassFile.RoundTrip

/-!
# The first defect of a byte string

A byte string that is no class file is refused for the first thing that is wrong with it, in the order of its
bytes. `ClassFile.Defect` says in terms of the grammar what can be wrong and where: the magic number, the tag
of a slot, a wide constant in the last slot, and, only behind a complete structure, the name of the class.
Everything else that stops the decoder is a lack of bytes.
-/

namespace ClassInspect

/-- The tags of constants. -/
def Constant.tags : List UInt8 := [1, 3, 4, 5, 6, 7, 8, 9, 10, 11, 12, 15, 16, 18]

namespace ClassFile

/-- The magic number is right, a complete header states `count`, complete entries behind it fill exactly the slots
before `index`, which is a slot of the pool, and `rest` follows them. -/
def AtSlot (data : Bytes) (count index : UInt16) (rest : Bytes) : Prop :=
  ∃ minor major slots entries, Layout.Filled slots entries ∧
    data = Layout.header minor major count ++ entries ++ rest ∧ slots.length + 1 = index.toNat ∧
    index.toNat < count.toNat

/-- What is wrong with a byte string, other than that it is too short. -/
inductive Defect (data : Bytes) : Fault → Prop where
  | badMagic {found : UInt32} {rest : Bytes} (hdata : data = Layout.u4 found ++ rest) (hfound : found ≠ 0xCAFEBABE) :
    Defect data (.badMagic found)
  | invalidTag {tag : UInt8} {count index : UInt16} {rest : Bytes} (hslot : AtSlot data count index (tag :: rest))
    (htag : tag ∉ Constant.tags) : Defect data (.invalidTag tag index)
  | wideAtEnd {constant : Constant} {entry : Bytes} {count index : UInt16} {rest : Bytes}
    (hslot : AtSlot data count index (entry ++ rest)) (hlast : index.toNat + 1 = count.toNat)
    (hentry : constant.Entry entry) (hwide : constant.Wide) : Defect data (.invalidIndex index .twoSlots)
  | noClass {file : ClassFile} {count : UInt16} {content tail : Bytes} (hdata : data = content ++ tail)
    (hlaid : file.LaidOut count content) (hclass : ∀ name, file.pool.get? file.thisClass ≠ some (.classRef name)) :
    Defect data (.invalidIndex file.thisClass .classEntry)
  | noName {file : ClassFile} {count name : UInt16} {content tail : Bytes} (hdata : data = content ++ tail)
    (hlaid : file.LaidOut count content) (hclass : file.pool.get? file.thisClass = some (.classRef name))
    (hname : ∀ value, file.pool.get? name ≠ some (.utf8 value)) : Defect data (.invalidIndex name .utf8)

end ClassFile

namespace Decoder

/-! ### Refusals inside the pool -/

instance : Accepting utf8 := by
  unfold utf8
  infer_instance

instance (make : UInt16 → UInt16 → Constant) : Accepting (indexPair make) := by
  unfold indexPair
  infer_instance

theorem refuses_constantOfTag_iff {index : UInt16} {tag : UInt8} {content : Bytes} {fault : Fault} :
    (constantOfTag index tag).Refuses content fault ↔ tag ∉ Constant.tags ∧ fault = .invalidTag tag index := by
  unfold constantOfTag
  split
  case h_15 =>
    have htag : tag ∉ Constant.tags := by simp_all [Constant.tags]
    rw [refuses_fail_iff, and_iff_right htag]
  -- under every other tag a payload is read, which only a lack of bytes can stop
  all_goals exact iff_of_false (Accepting.not_refuses _ _) fun hinvalid => hinvalid.1 (by decide)

theorem refuses_constant_iff {index : UInt16} {content : Bytes} {fault : Fault} :
    (constant index).Refuses content fault ↔
      ∃ tag rest, content = tag :: rest ∧ tag ∉ Constant.tags ∧ fault = .invalidTag tag index := by
  rw [constant, refuses_bind_iff]
  simp only [reads_u1_iff, refuses_constantOfTag_iff]
  constructor
  · rintro (hrefuses | ⟨tag, front, rfl, back, htag, rfl⟩)
    · exact absurd hrefuses (Accepting.not_refuses _ _)
    · exact ⟨tag, back, by rw [Layout.u1_eq, List.singleton_append], htag⟩
  · rintro ⟨tag, rest, rfl, htag⟩
    exact Or.inr ⟨tag, _, rfl, rest, htag, by rw [Layout.u1_eq, List.singleton_append]⟩

/-- The defect at the front of the bytes for a slot: an unknown tag, or a wide constant with one slot left. -/
def SlotDefect (left : Nat) (index : UInt16) (content : Bytes) (fault : Fault) : Prop :=
  (∃ tag rest, content = tag :: rest ∧ tag ∉ Constant.tags ∧ fault = .invalidTag tag index) ∨
    left = 1 ∧ ∃ constant entry rest, content = entry ++ rest ∧ Constant.Entry constant entry ∧ constant.Wide ∧
      fault = .invalidIndex index .twoSlots

private theorem index_add_one (index : UInt16) (n : Nat) :
    index + 1 + UInt16.ofNat n = index + UInt16.ofNat (n + 1) := by
  rw [UInt16.ofNat_add, UInt16.add_assoc, UInt16.add_comm 1]
  rfl

private theorem index_add_two (index : UInt16) (n : Nat) :
    index + 2 + UInt16.ofNat n = index + UInt16.ofNat (n + 2) := by
  rw [UInt16.ofNat_add, UInt16.add_assoc, UInt16.add_comm 2]
  rfl

/-- The decoder of slots refuses at the first slot with a defect, behind the entries of all slots before it. -/
theorem refuses_slots_iff {left : Nat} {index : UInt16} {done : Array Constant} {content : Bytes} {fault : Fault} :
    (slots left index done).Refuses content fault ↔
      ∃ filled entries rest, Layout.Filled filled entries ∧ content = entries ++ rest ∧ filled.length < left ∧
        SlotDefect (left - filled.length) (index + UInt16.ofNat filled.length) rest fault := by
  induction left, index, done using slots.induct generalizing content with
  | case1 index done =>
    rw [slots]
    refine iff_of_false (Accepting.not_refuses _ _) ?_
    rintro ⟨filled, entries, rest, -, -, hlength, -⟩
    exact absurd hlength (Nat.not_lt_zero _)
  | case2 index done =>
    rw [slots_one, refuses_bind_iff]
    simp only [refuses_constant_iff, reads_constant_iff]
    constructor
    · rintro (htag | ⟨last, entry, hentry, back, hback, rfl⟩)
      · exact ⟨[], [], content, .nil, rfl, Nat.zero_lt_one, Or.inl (by simpa using htag)⟩
      · by_cases hwide : last.Wide
        · rw [if_pos hwide, refuses_fail_iff] at hback
          exact ⟨[], [], _, .nil, rfl, Nat.zero_lt_one,
            Or.inr ⟨rfl, last, entry, back, rfl, hentry, hwide, by simpa using hback⟩⟩
        · rw [if_neg hwide] at hback
          exact absurd hback (Accepting.not_refuses _ _)
    · rintro ⟨filled, entries, rest, hfilled, rfl, hlength, hdefect⟩
      obtain rfl : filled = [] := List.eq_nil_of_length_eq_zero (Nat.lt_one_iff.mp hlength)
      cases hfilled
      rcases hdefect with htag | ⟨-, last, entry, back, rfl, hentry, hwide, hfault⟩
      · exact Or.inl (by simpa using htag)
      · refine Or.inr ⟨last, entry, hentry, back, ?_, rfl⟩
        rw [if_pos hwide, refuses_fail_iff]
        simpa using hfault
  | case3 left index done ihWide ihNarrow =>
    rw [slots_add_two, refuses_bind_iff]
    simp only [refuses_constant_iff, reads_constant_iff]
    constructor
    · rintro (htag | ⟨next, entry, hentry, back, hback, rfl⟩)
      · exact ⟨[], [], content, .nil, rfl, Nat.succ_pos _, Or.inl (by simpa using htag)⟩
      · by_cases hwide : next.Wide
        · rw [if_pos hwide, ihWide] at hback
          obtain ⟨filled, entries, rest, hfilled, rfl, hlength, hdefect⟩ := hback
          refine ⟨next :: .unusable :: filled, entry ++ entries, rest, .wide hwide hentry hfilled,
            (List.append_assoc _ _ _).symm, by simpa using hlength, ?_⟩
          change SlotDefect (left + 2 - (filled.length + 2)) (index + UInt16.ofNat (filled.length + 2)) rest fault
          rw [Nat.add_sub_add_right, ← index_add_two]
          exact hdefect
        · rw [if_neg hwide, ihNarrow] at hback
          obtain ⟨filled, entries, rest, hfilled, rfl, hlength, hdefect⟩ := hback
          refine ⟨next :: filled, entry ++ entries, rest, .narrow hwide hentry hfilled,
            (List.append_assoc _ _ _).symm, by simpa using hlength, ?_⟩
          change SlotDefect (left + 1 + 1 - (filled.length + 1)) (index + UInt16.ofNat (filled.length + 1)) rest fault
          rw [Nat.add_sub_add_right, ← index_add_one]
          exact hdefect
    · rintro ⟨filled, entries, rest, hfilled, rfl, hlength, hdefect⟩
      cases hfilled with
      | nil =>
        rcases hdefect with htag | ⟨hleft, -⟩
        · exact Or.inl (by simpa using htag)
        · exact absurd hleft (by simp)
      | @narrow next entry later others hnarrow hentry hothers =>
        refine Or.inr ⟨next, entry, hentry, others ++ rest, ?_, List.append_assoc _ _ _⟩
        rw [if_neg hnarrow, ihNarrow]
        refine ⟨later, others, rest, hothers, rfl, by simpa using hlength, ?_⟩
        change SlotDefect (left + 1 + 1 - (later.length + 1)) (index + UInt16.ofNat (later.length + 1)) rest fault at hdefect
        rwa [Nat.add_sub_add_right, ← index_add_one] at hdefect
      | @wide next entry later others hwide hentry hothers =>
        refine Or.inr ⟨next, entry, hentry, others ++ rest, ?_, List.append_assoc _ _ _⟩
        rw [if_pos hwide, ihWide]
        refine ⟨later, others, rest, hothers, rfl, by simpa using hlength, ?_⟩
        change SlotDefect (left + 2 - (later.length + 2)) (index + UInt16.ofNat (later.length + 2)) rest fault at hdefect
        rwa [Nat.add_sub_add_right, ← index_add_two] at hdefect

/-! ### Refusals of the whole structure -/

instance : Accepting attributeEntry := by
  unfold attributeEntry
  infer_instance

instance : Accepting member := by
  unfold member
  infer_instance

theorem refuses_magic_iff {content : Bytes} {fault : Fault} :
    magic.Refuses content fault ↔
      ∃ found rest, content = Layout.u4 found ++ rest ∧ found ≠ 0xCAFEBABE ∧ fault = .badMagic found := by
  rw [magic, refuses_bind_iff_right]
  simp only [reads_u4_iff]
  constructor
  · rintro ⟨found, front, rfl, back, hback, rfl⟩
    by_cases hfound : found = classMagic
    · rw [hfound, if_neg (by simp)] at hback
      exact absurd hback (Accepting.not_refuses _ _)
    · rw [if_pos (bne_iff_ne.mpr hfound), refuses_fail_iff] at hback
      exact ⟨found, back, rfl, hfound, hback⟩
  · rintro ⟨found, rest, rfl, hfound, rfl⟩
    change found ≠ classMagic at hfound
    refine ⟨found, _, rfl, rest, ?_, rfl⟩
    rw [if_pos (bne_iff_ne.mpr hfound), refuses_fail_iff]

theorem refuses_constantPool_iff {content : Bytes} {fault : Fault} :
    constantPool.Refuses content fault ↔
      ∃ count rest, content = Layout.u2 count ++ rest ∧ (slots (count.toNat - 1) 1 #[]).Refuses rest fault := by
  rw [constantPool, refuses_bind_iff_right]
  simp only [reads_u2_iff, refuses_bind_iff_left]
  constructor
  · rintro ⟨count, front, rfl, rest, hrest, rfl⟩
    exact ⟨count, rest, rfl, hrest⟩
  · rintro ⟨count, rest, rfl, hrest⟩
    exact ⟨count, _, rfl, rest, hrest, rfl⟩

/-- The part before the members refuses a wrong magic number, and behind a complete header what the slots refuse. -/
theorem refuses_preamble_iff {content : Bytes} {fault : Fault} :
    preamble.Refuses content fault ↔
      (∃ found rest, content = Layout.u4 found ++ rest ∧ found ≠ 0xCAFEBABE ∧ fault = .badMagic found) ∨
        ∃ minor major count rest, content = Layout.header minor major count ++ rest ∧
          (slots (count.toNat - 1) 1 #[]).Refuses rest fault := by
  rw [preamble, refuses_bind_iff, refuses_magic_iff]
  simp only [inverts_magic _ _, refuses_bind_iff_right, refuses_bind_iff_left, reads_u2_iff, refuses_constantPool_iff,
    true_and]
  refine or_congr_right ⟨?_, ?_⟩
  · rintro ⟨_, _, rfl, _, ⟨minor, _, rfl, _, ⟨major, _, rfl, _, ⟨count, rest, rfl, hrest⟩, rfl⟩, rfl⟩, rfl⟩
    refine ⟨minor, major, count, rest, ?_, hrest⟩
    simp only [Layout.header, List.append_assoc]
  · rintro ⟨minor, major, count, rest, rfl, hrest⟩
    refine ⟨(), _, rfl, _, ⟨minor, _, rfl, _, ⟨major, _, rfl, _, ⟨count, rest, rfl, hrest⟩, rfl⟩, rfl⟩, ?_⟩
    simp only [Layout.header, List.append_assoc]

/-- Behind the constant pool only a lack of bytes can stop the decoder. -/
theorem refuses_classFile_iff {content : Bytes} {fault : Fault} :
    classFile.Refuses content fault ↔ preamble.Refuses content fault := by
  rw [classFile, refuses_bind_iff, or_iff_left]
  rintro ⟨⟨minor, major, pool⟩, front, -, back, hback, -⟩
  dsimp only at hback
  exact Accepting.not_refuses back fault hback

/-- Behind a complete header, a refusal is the defect of the slot that the entries before it lead to. -/
theorem exists_refuses_slots_iff {data : Bytes} {fault : Fault} :
    (∃ minor major count rest, data = Layout.header minor major count ++ rest ∧
        (slots (count.toNat - 1) 1 #[]).Refuses rest fault) ↔
      ∃ count index rest, ClassFile.AtSlot data count index rest ∧
        SlotDefect (count.toNat - index.toNat) index rest fault := by
  simp only [refuses_slots_iff]
  constructor
  · rintro ⟨minor, major, count, _, rfl, filled, entries, rest, hfilled, rfl, hlength, hdefect⟩
    have hcount := count.toNat_lt
    have hindex : (1 + UInt16.ofNat filled.length).toNat = filled.length + 1 := by
      rw [UInt16.toNat_add, UInt16.toNat_ofNat']
      change (1 + _) % 2 ^ 16 = _
      omega
    refine ⟨count, 1 + UInt16.ofNat filled.length, rest, ⟨minor, major, filled, entries, hfilled, ?_, hindex.symm, ?_⟩, ?_⟩
    · rw [List.append_assoc]
    · rw [hindex]
      omega
    · rw [hindex, Nat.add_comm, ← Nat.sub_sub]
      exact hdefect
  · rintro ⟨count, index, rest, ⟨minor, major, filled, entries, hfilled, rfl, hlength, hindex⟩, hdefect⟩
    have hnext : 1 + UInt16.ofNat filled.length = index := by
      apply UInt16.toNat_inj.mp
      have hbound := index.toNat_lt
      rw [UInt16.toNat_add, UInt16.toNat_ofNat']
      change (1 + _) % 2 ^ 16 = _
      omega
    refine ⟨minor, major, count, entries ++ rest, List.append_assoc _ _ _, filled, entries, rest, hfilled, rfl, by omega, ?_⟩
    rw [hnext, Nat.sub_sub, Nat.add_comm, hlength]
    exact hdefect

end Decoder

namespace ClassFile

/-! ### Verdicts -/

/-- Parsing fails for a reason other than missing bytes exactly if the structure is refused, or can be read and
has no name. -/
theorem parse_eq_error_iff {data : Bytes} {fault : Fault} (hfault : fault.isEnd = false) :
    parse data = .error fault ↔
      Decoder.classFile.Refuses data fault ∨
        ∃ file count content tail, data = content ++ tail ∧ LaidOut file count content ∧
          file.pool.className file.thisClass = .error fault := by
  constructor
  · intro hparse
    cases hrun : Decoder.classFile ⟨data, 0⟩ with
    | error own =>
      rw [parse_of_run_error hrun] at hparse
      rw [Except.error.inj hparse] at hrun
      exact Or.inl (Decoder.refuses_of_run hfault hrun)
    | ok result =>
      obtain ⟨file, cursor⟩ := result
      obtain ⟨content, hdata, -, hreads⟩ := Decoder.exists_reads_of_run hrun
      obtain ⟨count, hlaid⟩ := Decoder.reads_classFile_iff.mp hreads
      rw [parse_of_run_ok hrun] at hparse
      refine Or.inr ⟨file, count, content, cursor.rest, hdata, hlaid, ?_⟩
      cases hname : file.thisClassName with
      | error own =>
        rw [hname] at hparse
        rw [← Except.error.inj hparse]
        exact hname
      | ok name =>
        rw [hname] at hparse
        exact absurd hparse (by simp [Except.map])
  · rintro (hrefuses | ⟨file, count, content, tail, rfl, hlaid, hname⟩)
    · have hrun := hrefuses 0 []
      rw [List.append_nil] at hrun
      exact parse_of_run_error hrun
    · have hrun := Decoder.reads_classFile_iff.mpr ⟨count, hlaid⟩ 0 tail
      rw [parse_of_run_ok hrun, thisClassName, hname]
      rfl

/-- Parsing fails for a reason other than missing bytes exactly for the defect of the data. -/
theorem parse_eq_error_iff_defect {data : Bytes} {fault : Fault} (hfault : fault.isEnd = false) :
    parse data = .error fault ↔ Defect data fault := by
  simp only [parse_eq_error_iff hfault, Decoder.refuses_classFile_iff, Decoder.refuses_preamble_iff,
    Decoder.exists_refuses_slots_iff, ConstantPool.className_eq_error_iff]
  constructor
  · rintro ((⟨found, rest, hdata, hfound, rfl⟩ | ⟨count, index, rest, hslot, hdefect⟩) |
      ⟨file, count, content, tail, hdata, hlaid, ⟨rfl, hclass⟩ | ⟨name, hclass, rfl, hname⟩⟩)
    · exact .badMagic hdata hfound
    · rcases hdefect with ⟨tag, later, rfl, htag, rfl⟩ | ⟨hleft, constant, entry, later, rfl, hentry, hwide, rfl⟩
      · exact .invalidTag hslot htag
      · exact .wideAtEnd hslot (by omega) hentry hwide
    · exact .noClass hdata hlaid hclass
    · exact .noName hdata hlaid hclass hname
  · intro hdefect
    cases hdefect with
    | badMagic hdata hfound => exact Or.inl (Or.inl ⟨_, _, hdata, hfound, rfl⟩)
    | invalidTag hslot htag => exact Or.inl (Or.inr ⟨_, _, _, hslot, Or.inl ⟨_, _, rfl, htag, rfl⟩⟩)
    | wideAtEnd hslot hlast hentry hwide =>
      exact Or.inl (Or.inr ⟨_, _, _, hslot, Or.inr ⟨by omega, _, _, _, rfl, hentry, hwide, rfl⟩⟩)
    | noClass hdata hlaid hclass => exact Or.inr ⟨_, _, _, _, hdata, hlaid, Or.inl ⟨rfl, hclass⟩⟩
    | noName hdata hlaid hclass hname => exact Or.inr ⟨_, _, _, _, hdata, hlaid, Or.inr ⟨_, hclass, rfl, hname⟩⟩

/-- Four bytes in front that spell a number are how the number is written. -/
theorem exists_eq_u4_append_iff {data : Bytes} {found : UInt32} :
    (∃ rest, data = Layout.u4 found ++ rest) ↔ 4 ≤ data.length ∧ BigEndian.toNat (data.take 4) = found.toNat := by
  constructor
  · rintro ⟨rest, rfl⟩
    have hlength : (Layout.u4 found).length = 4 := BigEndian.length_ofNat 4 found.toNat
    rw [List.length_append, List.take_left' hlength]
    exact ⟨by omega, BigEndian.toNat_ofNat found.toNat_lt⟩
  · rintro ⟨hlength, hnumber⟩
    have htake : data.take 4 = Layout.u4 found :=
      (BigEndian.length_eq_and_toNat_eq_iff.mp ⟨by rw [List.length_take, Nat.min_eq_left hlength], hnumber⟩).2
    exact ⟨data.drop 4, by rw [← htake, List.take_append_drop]⟩

theorem parse_eq_badMagic_iff {data : Bytes} {found : UInt32} :
    parse data = .error (.badMagic found) ↔
      4 ≤ data.length ∧ BigEndian.toNat (data.take 4) = found.toNat ∧ found ≠ 0xCAFEBABE := by
  rw [parse_eq_error_iff_defect rfl, ← and_assoc, ← exists_eq_u4_append_iff]
  constructor
  · intro hdefect
    cases hdefect with
    | badMagic hdata hfound => exact ⟨⟨_, hdata⟩, hfound⟩
  · rintro ⟨⟨rest, hdata⟩, hfound⟩
    exact .badMagic hdata hfound

theorem parse_eq_invalidTag_iff {data : Bytes} {tag : UInt8} {index : UInt16} :
    parse data = .error (.invalidTag tag index) ↔
      ∃ count rest, AtSlot data count index (tag :: rest) ∧ tag ∉ Constant.tags := by
  rw [parse_eq_error_iff_defect rfl]
  constructor
  · intro hdefect
    cases hdefect with
    | invalidTag hslot htag => exact ⟨_, _, hslot, htag⟩
  · rintro ⟨count, rest, hslot, htag⟩
    exact .invalidTag hslot htag

theorem parse_eq_twoSlots_iff {data : Bytes} {index : UInt16} :
    parse data = .error (.invalidIndex index .twoSlots) ↔
      ∃ count constant entry rest, AtSlot data count index (entry ++ rest) ∧ index.toNat + 1 = count.toNat ∧
        Constant.Entry constant entry ∧ constant.Wide := by
  rw [parse_eq_error_iff_defect rfl]
  constructor
  · intro hdefect
    cases hdefect with
    | wideAtEnd hslot hlast hentry hwide => exact ⟨_, _, _, _, hslot, hlast, hentry, hwide⟩
  · rintro ⟨count, constant, entry, rest, hslot, hlast, hentry, hwide⟩
    exact .wideAtEnd hslot hlast hentry hwide

theorem parse_eq_classEntry_iff {data : Bytes} {index : UInt16} :
    parse data = .error (.invalidIndex index .classEntry) ↔
      ∃ file count content tail, data = content ++ tail ∧ LaidOut file count content ∧ file.thisClass = index ∧
        ∀ name, file.pool.get? index ≠ some (.classRef name) := by
  rw [parse_eq_error_iff_defect rfl]
  constructor
  · intro hdefect
    cases hdefect with
    | noClass hdata hlaid hclass => exact ⟨_, _, _, _, hdata, hlaid, rfl, hclass⟩
  · rintro ⟨file, count, content, tail, hdata, hlaid, rfl, hclass⟩
    exact .noClass hdata hlaid hclass

theorem parse_eq_utf8_iff {data : Bytes} {index : UInt16} :
    parse data = .error (.invalidIndex index .utf8) ↔
      ∃ file count content tail, data = content ++ tail ∧ LaidOut file count content ∧
        file.pool.get? file.thisClass = some (.classRef index) ∧ ∀ value, file.pool.get? index ≠ some (.utf8 value) := by
  rw [parse_eq_error_iff_defect rfl]
  constructor
  · intro hdefect
    cases hdefect with
    | noName hdata hlaid hclass hname => exact ⟨_, _, _, _, hdata, hlaid, hclass, hname⟩
  · rintro ⟨file, count, content, tail, hdata, hlaid, hclass, hname⟩
    exact .noName hdata hlaid hclass hname

/-- What is not a defect of the data is a lack of bytes. -/
theorem defect_or_end_of_parse {data : Bytes} {fault : Fault} (hparse : parse data = .error fault) :
    Defect data fault ∨ ∃ offset wanted, fault = .unexpectedEnd offset wanted := by
  cases hend : fault.isEnd with
  | false => exact Or.inl ((parse_eq_error_iff_defect hend).mp hparse)
  | true =>
    cases fault with
    | unexpectedEnd offset wanted => exact Or.inr ⟨offset, wanted, rfl⟩
    | _ => exact absurd hend (by simp [Fault.isEnd])

/-- For every byte string: a wrong magic number is reported as it stands, an unknown tag with the slot that the complete
entries before it lead to, a wide constant exactly in the last slot, and a missing class entry or class name only behind
a complete structure. Every other failure is a lack of bytes, and every failure ends with the exit code for undecodable
data. -/
theorem parse_error_verdict (data : Bytes) :
    (∀ found, parse data = .error (.badMagic found) ↔
      4 ≤ data.length ∧ BigEndian.toNat (data.take 4) = found.toNat ∧ found ≠ 0xCAFEBABE) ∧
    (∀ tag index, parse data = .error (.invalidTag tag index) ↔
      ∃ count rest, AtSlot data count index (tag :: rest) ∧ tag ∉ Constant.tags) ∧
    (∀ index, parse data = .error (.invalidIndex index .twoSlots) ↔
      ∃ count constant entry rest, AtSlot data count index (entry ++ rest) ∧ index.toNat + 1 = count.toNat ∧
        Constant.Entry constant entry ∧ constant.Wide) ∧
    (∀ index, parse data = .error (.invalidIndex index .classEntry) ↔
      ∃ file count content tail, data = content ++ tail ∧ LaidOut file count content ∧ file.thisClass = index ∧
        ∀ name, file.pool.get? index ≠ some (.classRef name)) ∧
    (∀ index, parse data = .error (.invalidIndex index .utf8) ↔
      ∃ file count content tail, data = content ++ tail ∧ LaidOut file count content ∧
        file.pool.get? file.thisClass = some (.classRef index) ∧ ∀ value, file.pool.get? index ≠ some (.utf8 value)) ∧
    ∀ fault, parse data = .error fault →
      ((∃ found, fault = .badMagic found) ∨ (∃ tag index, fault = .invalidTag tag index) ∨
        (∃ index, fault = .invalidIndex index .twoSlots ∨ fault = .invalidIndex index .classEntry ∨
          fault = .invalidIndex index .utf8) ∨
        ∃ offset wanted, fault = .unexpectedEnd offset wanted) ∧
      (Error.decoding fault).exitCode = 3 := by
  refine ⟨fun _ => parse_eq_badMagic_iff, fun _ _ => parse_eq_invalidTag_iff, fun _ => parse_eq_twoSlots_iff,
    fun _ => parse_eq_classEntry_iff, fun _ => parse_eq_utf8_iff, fun fault hparse => ⟨?_, rfl⟩⟩
  rcases defect_or_end_of_parse hparse with hdefect | hend
  · cases hdefect with
    | badMagic _ _ => exact Or.inl ⟨_, rfl⟩
    | invalidTag _ _ => exact Or.inr (Or.inl ⟨_, _, rfl⟩)
    | wideAtEnd _ _ _ _ => exact Or.inr (Or.inr (Or.inl ⟨_, Or.inl rfl⟩))
    | noClass _ _ _ => exact Or.inr (Or.inr (Or.inl ⟨_, Or.inr (Or.inl rfl)⟩))
    | noName _ _ _ _ => exact Or.inr (Or.inr (Or.inl ⟨_, Or.inr (Or.inr rfl)⟩))
  · exact Or.inr (Or.inr (Or.inr hend))

end ClassFile

end ClassInspect
