import ClassInspect.ClassFile.Reader
import ClassInspect.Proofs.Bytes.Decoder
import ClassInspect.Proofs.ClassFile.Grammar

/-!
# Reading follows the grammar

Each decoder of the class file format reads exactly the byte strings that the grammar gives to its values:
no more, so nothing is made up, and no less, so nothing that can be written is turned away. The statements
go up with the format, from fields over constants, slots and tables to the whole file, and each is one
equivalence that the next one uses by name.
-/

namespace ClassInspect.Decoder

variable {α β : Type}

theorem reads_map_iff {decoder : Decoder α} [Sequential decoder] {make : α → β} {content : Bytes} {value : β} :
    (decoder >>= fun first => pure (make first)).Reads content value ↔
      ∃ first, decoder.Reads content first ∧ value = make first := by
  rw [reads_bind_iff]
  simp only [reads_pure_iff]
  constructor
  · rintro ⟨first, front, hfront, back, ⟨rfl, rfl⟩, rfl⟩
    rw [List.append_nil]
    exact ⟨first, hfront, rfl⟩
  · rintro ⟨first, hfirst, rfl⟩
    exact ⟨first, content, hfirst, [], ⟨rfl, rfl⟩, (List.append_nil content).symm⟩

/-! ### Fields -/

/-- A word of `width` bytes reads exactly its layout, for every type of words of this width. -/
theorem reads_word_iff {width : Nat} {ofNat : Nat → α} {toNat : α → Nat}
    (htoNat : ∀ number, number < 256 ^ width → toNat (ofNat number) = number)
    (hofNat : ∀ value, toNat value < 256 ^ width ∧ ofNat (toNat value) = value) {content : Bytes} {value : α} :
    Reads (number width >>= fun found => pure (ofNat found)) content value ↔
      content = BigEndian.ofNat width (toNat value) := by
  simp only [reads_map_iff, reads_number_iff]
  constructor
  · rintro ⟨found, ⟨hfound, rfl⟩, rfl⟩
    rw [htoNat found hfound]
  · rintro rfl
    exact ⟨toNat value, ⟨(hofNat value).1, rfl⟩, (hofNat value).2.symm⟩

theorem reads_u1_iff {content : Bytes} {value : UInt8} : Reads u1 content value ↔ content = Layout.u1 value :=
  reads_word_iff (fun _ hnumber => UInt8.toNat_ofNat_of_lt hnumber) fun value =>
    ⟨value.toNat_lt, UInt8.ofNat_toNat⟩

theorem reads_u2_iff {content : Bytes} {value : UInt16} : Reads u2 content value ↔ content = Layout.u2 value :=
  reads_word_iff (fun _ hnumber => UInt16.toNat_ofNat_of_lt hnumber) fun value =>
    ⟨value.toNat_lt, UInt16.ofNat_toNat⟩

theorem reads_u4_iff {content : Bytes} {value : UInt32} : Reads u4 content value ↔ content = Layout.u4 value :=
  reads_word_iff (fun _ hnumber => UInt32.toNat_ofNat_of_lt hnumber) fun value =>
    ⟨value.toNat_lt, UInt32.ofNat_toNat⟩

theorem reads_u8_iff {content : Bytes} {value : UInt64} : Reads u8 content value ↔ content = Layout.u8 value :=
  reads_word_iff (fun _ hnumber => UInt64.toNat_ofNat_of_lt hnumber) fun value =>
    ⟨value.toNat_lt, UInt64.ofNat_toNat⟩

theorem inverts_u2 : Inverts u2 Layout.u2 fun _ => True := by
  intro content value
  rw [reads_u2_iff, true_and]

/-- In a sequence, a part with a layout stands in front. -/
theorem Inverts.reads_bind_iff {decoder : Decoder α} {next : α → Decoder β} [Sequential decoder]
    [∀ first, Sequential (next first)] {layout : α → Bytes} {fits : α → Prop} (hdecoder : decoder.Inverts layout fits)
    {content : Bytes} {value : β} :
    (decoder >>= next).Reads content value ↔
      ∃ first back, content = layout first ++ back ∧ fits first ∧ (next first).Reads back value := by
  rw [Decoder.reads_bind_iff]
  simp only [hdecoder _ _]
  constructor
  · rintro ⟨first, front, ⟨hfits, rfl⟩, back, hback, rfl⟩
    exact ⟨first, back, rfl, hfits, hback⟩
  · rintro ⟨first, back, rfl, hfits, hback⟩
    exact ⟨first, layout first, ⟨hfits, rfl⟩, back, hback, rfl⟩

theorem reads_u2_bind_iff {next : UInt16 → Decoder α} [∀ first, Sequential (next first)] {content : Bytes}
    {value : α} :
    (u2 >>= next).Reads content value ↔
      ∃ first back, content = Layout.u2 first ++ back ∧ (next first).Reads back value := by
  simp only [inverts_u2.reads_bind_iff, true_and]

theorem reads_u4_bind_iff {next : UInt32 → Decoder α} [∀ first, Sequential (next first)] {content : Bytes}
    {value : α} :
    (u4 >>= next).Reads content value ↔
      ∃ first back, content = Layout.u4 first ++ back ∧ (next first).Reads back value := by
  have hu4 : Inverts u4 Layout.u4 fun _ => True := fun content value => by rw [reads_u4_iff, true_and]
  simp only [hu4.reads_bind_iff, true_and]

/-- A list behind its length reads exactly the layouts of the lists that fit. -/
theorem inverts_counted {item : Decoder α} [Sequential item] {layout : α → Bytes} {fits : α → Prop}
    (hitem : item.Inverts layout fits) : (counted item).Inverts (Layout.counted layout) (Layout.CountFits fits) := by
  intro content items
  rw [counted, reads_bind_iff]
  simp only [reads_u2_iff, reads_repeated_iff hitem]
  constructor
  · rintro ⟨count, front, rfl, back, ⟨⟨hlength, hfits⟩, rfl⟩, rfl⟩
    have hcount := count.toNat_lt
    refine ⟨⟨by omega, hfits⟩, ?_⟩
    rw [Layout.counted, hlength, Layout.u2]
  · rintro ⟨⟨hlength, hfits⟩, rfl⟩
    have hcount : (UInt16.ofNat items.length).toNat = items.length := UInt16.toNat_ofNat_of_lt (Nat.lt_succ_of_le hlength)
    refine ⟨UInt16.ofNat items.length, _, rfl, items.flatMap layout, ⟨⟨hcount.symm, hfits⟩, rfl⟩, ?_⟩
    rw [Layout.counted, Layout.u2, hcount]

/-! ### Constants -/

instance : Sequential utf8 := by
  unfold utf8
  infer_instance

instance (make : UInt16 → UInt16 → Constant) : Sequential (indexPair make) := by
  unfold indexPair
  infer_instance

instance (index : UInt16) (tag : UInt8) : Sequential (constantOfTag index tag) := by
  unfold constantOfTag
  split <;> infer_instance

instance (index : UInt16) : Sequential (constant index) := by
  unfold constant
  infer_instance

theorem reads_utf8_iff {content : Bytes} {value : Constant} :
    utf8.Reads content value ↔
      ∃ raw : Bytes, raw.length ≤ 0xFFFF ∧ value = .utf8 (ModifiedUtf8.decode raw) ∧ content = Layout.sized 2 raw := by
  rw [utf8, reads_bind_iff]
  simp only [reads_u2_iff, reads_map_iff, reads_bytes_iff]
  constructor
  · rintro ⟨length, front, rfl, raw, ⟨_, ⟨rfl, hlength⟩, rfl⟩, rfl⟩
    have hbound := length.toNat_lt
    refine ⟨raw, by omega, rfl, ?_⟩
    rw [Layout.sized, hlength, Layout.u2]
  · rintro ⟨raw, hlength, rfl, rfl⟩
    have hcount : (UInt16.ofNat raw.length).toNat = raw.length := UInt16.toNat_ofNat_of_lt (Nat.lt_succ_of_le hlength)
    refine ⟨UInt16.ofNat raw.length, _, rfl, raw, ⟨raw, ⟨rfl, hcount.symm⟩, rfl⟩, ?_⟩
    rw [Layout.sized, Layout.u2, hcount]

theorem reads_indexPair_iff {make : UInt16 → UInt16 → Constant} {content : Bytes} {value : Constant} :
    (indexPair make).Reads content value ↔
      ∃ first second, value = make first second ∧ content = Layout.u2 first ++ Layout.u2 second := by
  rw [indexPair, reads_bind_iff]
  simp only [reads_u2_iff, reads_map_iff]
  constructor
  · rintro ⟨first, front, rfl, back, ⟨second, rfl, rfl⟩, rfl⟩
    exact ⟨first, second, rfl, rfl⟩
  · rintro ⟨first, second, rfl, rfl⟩
    exact ⟨first, _, rfl, _, ⟨second, rfl, rfl⟩, rfl⟩

theorem entry_of_reads_constantOfTag {index : UInt16} {tag : UInt8} {content : Bytes} {value : Constant}
    (hreads : (constantOfTag index tag).Reads content value) : value.Entry (Layout.u1 tag ++ content) := by
  unfold constantOfTag at hreads
  split at hreads
  · obtain ⟨raw, hlength, rfl, rfl⟩ := reads_utf8_iff.mp hreads
    exact ⟨raw, hlength, rfl, rfl⟩
  · obtain ⟨found, hfound, rfl⟩ := reads_map_iff.mp hreads
    rw [reads_u4_iff.mp hfound]
    rfl
  · obtain ⟨found, hfound, rfl⟩ := reads_map_iff.mp hreads
    rw [reads_u4_iff.mp hfound]
    rfl
  · obtain ⟨found, hfound, rfl⟩ := reads_map_iff.mp hreads
    rw [reads_u8_iff.mp hfound]
    rfl
  · obtain ⟨found, hfound, rfl⟩ := reads_map_iff.mp hreads
    rw [reads_u8_iff.mp hfound]
    rfl
  · obtain ⟨found, hfound, rfl⟩ := reads_map_iff.mp hreads
    rw [reads_u2_iff.mp hfound]
    rfl
  · obtain ⟨found, hfound, rfl⟩ := reads_map_iff.mp hreads
    rw [reads_u2_iff.mp hfound]
    rfl
  · obtain ⟨first, second, rfl, rfl⟩ := reads_indexPair_iff.mp hreads
    exact (List.append_assoc _ _ _).symm
  · obtain ⟨first, second, rfl, rfl⟩ := reads_indexPair_iff.mp hreads
    exact (List.append_assoc _ _ _).symm
  · obtain ⟨first, second, rfl, rfl⟩ := reads_indexPair_iff.mp hreads
    exact (List.append_assoc _ _ _).symm
  · obtain ⟨first, second, rfl, rfl⟩ := reads_indexPair_iff.mp hreads
    exact (List.append_assoc _ _ _).symm
  · obtain ⟨kind, front, hkind, back, hback, rfl⟩ := reads_bind_iff.mp hreads
    obtain ⟨reference, hreference, rfl⟩ := reads_map_iff.mp hback
    rw [reads_u1_iff.mp hkind, reads_u2_iff.mp hreference]
    exact (List.append_assoc _ _ _).symm
  · obtain ⟨found, hfound, rfl⟩ := reads_map_iff.mp hreads
    rw [reads_u2_iff.mp hfound]
    rfl
  · obtain ⟨first, second, rfl, rfl⟩ := reads_indexPair_iff.mp hreads
    exact (List.append_assoc _ _ _).symm
  · exact absurd hreads not_reads_fail

/-- Every entry starts with the tag of its kind, and the payload behind it is read under this tag. -/
theorem exists_tag_of_entry {value : Constant} {entry : Bytes} (hentry : value.Entry entry) :
    ∃ tag content, entry = Layout.u1 tag ++ content ∧ ∀ index, (constantOfTag index tag).Reads content value := by
  cases value with
  | utf8 text =>
    obtain ⟨raw, hlength, rfl, rfl⟩ := hentry
    exact ⟨1, _, rfl, fun _ => reads_utf8_iff.mpr ⟨raw, hlength, rfl, rfl⟩⟩
  | integer number => exact ⟨3, _, hentry, fun _ => reads_map_iff.mpr ⟨number.toUInt32, reads_u4_iff.mpr rfl, rfl⟩⟩
  | float bits => exact ⟨4, _, hentry, fun _ => reads_map_iff.mpr ⟨bits, reads_u4_iff.mpr rfl, rfl⟩⟩
  | long number => exact ⟨5, _, hentry, fun _ => reads_map_iff.mpr ⟨number.toUInt64, reads_u8_iff.mpr rfl, rfl⟩⟩
  | double bits => exact ⟨6, _, hentry, fun _ => reads_map_iff.mpr ⟨bits, reads_u8_iff.mpr rfl, rfl⟩⟩
  | classRef name => exact ⟨7, _, hentry, fun _ => reads_map_iff.mpr ⟨name, reads_u2_iff.mpr rfl, rfl⟩⟩
  | string text => exact ⟨8, _, hentry, fun _ => reads_map_iff.mpr ⟨text, reads_u2_iff.mpr rfl, rfl⟩⟩
  | fieldRef owner link =>
    exact ⟨9, _, hentry.trans (List.append_assoc _ _ _), fun _ => reads_indexPair_iff.mpr ⟨owner, link, rfl, rfl⟩⟩
  | methodRef owner link =>
    exact ⟨10, _, hentry.trans (List.append_assoc _ _ _), fun _ => reads_indexPair_iff.mpr ⟨owner, link, rfl, rfl⟩⟩
  | interfaceMethodRef owner link =>
    exact ⟨11, _, hentry.trans (List.append_assoc _ _ _), fun _ => reads_indexPair_iff.mpr ⟨owner, link, rfl, rfl⟩⟩
  | nameAndType name descriptor =>
    exact ⟨12, _, hentry.trans (List.append_assoc _ _ _), fun _ => reads_indexPair_iff.mpr ⟨name, descriptor, rfl, rfl⟩⟩
  | methodHandle kind reference =>
    exact ⟨15, _, hentry.trans (List.append_assoc _ _ _), fun _ => reads_bind_iff.mpr ⟨kind, _, reads_u1_iff.mpr rfl, _,
      reads_map_iff.mpr ⟨reference, reads_u2_iff.mpr rfl, rfl⟩, rfl⟩⟩
  | methodType descriptor => exact ⟨16, _, hentry, fun _ => reads_map_iff.mpr ⟨descriptor, reads_u2_iff.mpr rfl, rfl⟩⟩
  | invokeDynamic bootstrap link =>
    exact ⟨18, _, hentry.trans (List.append_assoc _ _ _), fun _ => reads_indexPair_iff.mpr ⟨bootstrap, link, rfl, rfl⟩⟩
  | unusable => exact absurd hentry id

/-- A constant is read exactly from its entries. -/
theorem reads_constant_iff {index : UInt16} {content : Bytes} {value : Constant} :
    (constant index).Reads content value ↔ value.Entry content := by
  rw [constant, reads_bind_iff]
  simp only [reads_u1_iff]
  constructor
  · rintro ⟨tag, front, rfl, payload, hpayload, rfl⟩
    exact entry_of_reads_constantOfTag hpayload
  · intro hentry
    obtain ⟨tag, payload, rfl, hpayload⟩ := exists_tag_of_entry hentry
    exact ⟨tag, _, rfl, payload, hpayload index, rfl⟩

/-! ### Slots -/

theorem slots_one (index : UInt16) (done : Array Constant) :
    slots 1 index done = constant index >>= fun last =>
      if last.Wide then fail (.invalidIndex index .twoSlots) else pure (done.push last) := by
  simp only [← Constant.isWide_eq_true_iff]
  rw [slots]
  rfl

theorem slots_add_two (left : Nat) (index : UInt16) (done : Array Constant) :
    slots (left + 2) index done = constant index >>= fun next =>
      if next.Wide then slots left (index + 2) ((done.push next).push .unusable)
      else slots (left + 1) (index + 1) (done.push next) := by
  simp only [← Constant.isWide_eq_true_iff]
  rw [slots]

instance (left : Nat) (index : UInt16) (done : Array Constant) : Sequential (slots left index done) := by
  induction left, index, done using slots.induct with
  | case1 index done => exact .pure done
  | case2 index done =>
    rw [slots_one]
    infer_instance
  | case3 left index done ihWide ihNarrow =>
    rw [slots_add_two]
    infer_instance

/-- The slots still to fill are read exactly from the bytes that fill them, behind those already there. -/
theorem reads_slots_iff {left : Nat} {index : UInt16} {done : Array Constant} {content : Bytes}
    {result : Array Constant} :
    (slots left index done).Reads content result ↔
      ∃ filled, filled.length = left ∧ Layout.Filled filled content ∧ result.toList = done.toList ++ filled := by
  induction left, index, done using slots.induct generalizing content with
  | case1 index done =>
    rw [slots, reads_pure_iff]
    constructor
    · rintro ⟨rfl, rfl⟩
      exact ⟨[], rfl, .nil, (List.append_nil _).symm⟩
    · rintro ⟨filled, hlength, hfilled, hresult⟩
      rw [List.eq_nil_of_length_eq_zero hlength] at hfilled hresult
      cases hfilled
      exact ⟨rfl, Array.toList_inj.mp (hresult.trans (List.append_nil _))⟩
  | case2 index done =>
    rw [slots_one, reads_bind_iff]
    simp only [reads_constant_iff]
    constructor
    · rintro ⟨last, entry, hentry, back, hback, rfl⟩
      by_cases hwide : last.Wide
      · rw [if_pos hwide] at hback
        exact absurd hback not_reads_fail
      · rw [if_neg hwide, reads_pure_iff] at hback
        obtain ⟨rfl, rfl⟩ := hback
        exact ⟨[last], rfl, .narrow hwide hentry .nil, Array.toList_push⟩
    · rintro ⟨filled, hlength, hfilled, hresult⟩
      cases hfilled with
      | nil => exact absurd hlength (by decide)
      | @narrow last entry later rest hnarrow hentry hrest =>
        obtain rfl : later = [] := List.eq_nil_of_length_eq_zero (Nat.succ.inj hlength)
        cases hrest
        refine ⟨last, entry, hentry, [], ?_, rfl⟩
        rw [if_neg hnarrow, reads_pure_iff]
        exact ⟨rfl, Array.toList_inj.mp (hresult.trans Array.toList_push.symm)⟩
      | wide hwide hentry hrest => exact absurd hlength (by simp)
  | case3 left index done ihWide ihNarrow =>
    rw [slots_add_two, reads_bind_iff]
    simp only [reads_constant_iff]
    constructor
    · rintro ⟨next, entry, hentry, back, hback, rfl⟩
      by_cases hwide : next.Wide
      · rw [if_pos hwide, ihWide] at hback
        obtain ⟨filled, rfl, hfilled, hresult⟩ := hback
        exact ⟨next :: .unusable :: filled, rfl, .wide hwide hentry hfilled, by simpa using hresult⟩
      · rw [if_neg hwide, ihNarrow] at hback
        obtain ⟨filled, hlength, hfilled, hresult⟩ := hback
        exact ⟨next :: filled, by rw [List.length_cons, hlength], .narrow hwide hentry hfilled, by simpa using hresult⟩
    · rintro ⟨filled, hlength, hfilled, hresult⟩
      cases hfilled with
      | nil => exact absurd hlength (by simp)
      | @narrow next entry later rest hnarrow hentry hrest =>
        refine ⟨next, entry, hentry, rest, ?_, rfl⟩
        rw [if_neg hnarrow, ihNarrow]
        exact ⟨later, Nat.succ.inj hlength, hrest, by simpa using hresult⟩
      | @wide next entry later rest hwide hentry hrest =>
        refine ⟨next, entry, hentry, rest, ?_, rfl⟩
        rw [if_pos hwide, ihWide]
        exact ⟨later, Nat.succ.inj (Nat.succ.inj hlength), hrest, by simpa using hresult⟩

/-! ### Tables -/

instance : Sequential attributeEntry := by
  unfold attributeEntry
  infer_instance

instance : Sequential member := by
  unfold member
  infer_instance

theorem inverts_attributeEntry : attributeEntry.Inverts Layout.attributeEntry Attribute.Fits := by
  intro content entry
  simp only [attributeEntry, reads_u2_bind_iff, reads_u4_bind_iff, reads_map_iff, reads_bytes_iff]
  constructor
  · rintro ⟨name, _, rfl, length, info, rfl, _, ⟨rfl, hlength⟩, rfl⟩
    have hbound := length.toNat_lt
    refine ⟨?_, ?_⟩
    · change info.length < 2 ^ 32
      omega
    · rw [Layout.attributeEntry, Layout.sized, hlength, Layout.u4]
  · rintro ⟨hfits, rfl⟩
    have hlength : (UInt32.ofNat entry.info.length).toNat = entry.info.length := UInt32.toNat_ofNat_of_lt hfits
    refine ⟨entry.name, _, rfl, UInt32.ofNat entry.info.length, entry.info, ?_, entry.info, ⟨rfl, hlength.symm⟩, rfl⟩
    rw [Layout.sized, Layout.u4, hlength]

theorem inverts_member : member.Inverts Layout.member Member.Fits := by
  intro content entry
  simp only [member, reads_u2_bind_iff, reads_map_iff, inverts_counted inverts_attributeEntry _ _]
  constructor
  · rintro ⟨access, _, rfl, name, _, rfl, descriptor, _, rfl, attributes, ⟨hfits, rfl⟩, rfl⟩
    refine ⟨hfits, ?_⟩
    simp only [Layout.member, List.append_assoc]
  · rintro ⟨hfits, rfl⟩
    refine ⟨entry.access.bits, _, ?_, entry.name, _, rfl, entry.descriptor, _, rfl, entry.attributes, ⟨hfits, rfl⟩, rfl⟩
    simp only [Layout.member, List.append_assoc]

/-! ### The whole file -/

instance : Sequential constantPool := by
  unfold constantPool
  infer_instance

instance : Sequential magic := by
  unfold magic
  infer_instance

instance : Sequential preamble := by
  unfold preamble
  infer_instance

instance : Sequential classFile := by
  unfold classFile
  infer_instance

theorem inverts_magic : magic.Inverts (fun _ => Layout.u4 0xCAFEBABE) fun _ => True := by
  rintro content ⟨⟩
  simp only [magic, reads_u4_bind_iff, true_and]
  constructor
  · rintro ⟨found, back, rfl, hback⟩
    by_cases hfound : found = classMagic
    · rw [hfound, if_neg (by simp), reads_pure_iff] at hback
      rw [hback.1, hfound, List.append_nil]
      rfl
    · rw [if_pos (by simpa using hfound)] at hback
      exact absurd hback not_reads_fail
  · rintro rfl
    refine ⟨classMagic, [], (List.append_nil _).symm, ?_⟩
    rw [if_neg (by simp), reads_pure_iff]
    exact ⟨rfl, rfl⟩

theorem reads_constantPool_iff {content : Bytes} {pool : ConstantPool} :
    constantPool.Reads content pool ↔
      ∃ count entries, pool.size = count.toNat - 1 ∧ Layout.Filled pool.slots.toList entries ∧
        content = Layout.u2 count ++ entries := by
  simp only [constantPool, reads_u2_bind_iff, reads_map_iff, reads_slots_iff]
  constructor
  · rintro ⟨count, entries, rfl, slots, ⟨filled, hlength, hfilled, hslots⟩, rfl⟩
    obtain rfl : slots.toList = filled := hslots
    exact ⟨count, entries, hlength, hfilled, rfl⟩
  · rintro ⟨count, entries, hsize, hfilled, rfl⟩
    exact ⟨count, entries, rfl, pool.slots, ⟨pool.slots.toList, hsize, hfilled, rfl⟩, rfl⟩

theorem reads_preamble_iff {content : Bytes} {minor major : UInt16} {pool : ConstantPool} :
    preamble.Reads content (minor, major, pool) ↔
      ∃ count entries, pool.size = count.toNat - 1 ∧ Layout.Filled pool.slots.toList entries ∧
        content = Layout.header minor major count ++ entries := by
  simp only [preamble, inverts_magic.reads_bind_iff, reads_u2_bind_iff, reads_map_iff, reads_constantPool_iff,
    true_and, Prod.mk.injEq]
  constructor
  · rintro ⟨_, _, rfl, _, _, rfl, _, _, rfl, _, ⟨count, entries, hsize, hfilled, rfl⟩, rfl, rfl, rfl⟩
    refine ⟨count, entries, hsize, hfilled, ?_⟩
    simp only [Layout.header, List.append_assoc]
  · rintro ⟨count, entries, hsize, hfilled, rfl⟩
    refine ⟨(), _, ?_, minor, _, rfl, major, _, rfl, pool, ⟨count, entries, hsize, hfilled, rfl⟩, rfl, rfl, rfl⟩
    simp only [Layout.header, List.append_assoc]

/-- A class file is read exactly from the byte strings that the grammar gives to it. -/
theorem reads_classFile_iff {content : Bytes} {file : ClassFile} :
    classFile.Reads content file ↔ ∃ count, file.LaidOut count content := by
  rw [classFile, reads_bind_iff]
  simp only [Prod.exists, reads_preamble_iff, reads_u2_bind_iff, (inverts_counted inverts_u2).reads_bind_iff,
    (inverts_counted inverts_member).reads_bind_iff, reads_map_iff, inverts_counted inverts_attributeEntry _ _]
  constructor
  · rintro ⟨minor, major, pool, _, ⟨count, entries, hsize, hfilled, rfl⟩, _, ⟨access, _, rfl, thisClass, _, rfl,
      superClass, _, rfl, interfaces, _, rfl, hinterfaces, fields, _, rfl, hfields, methods, _, rfl, hmethods,
      attributes, ⟨hattributes, rfl⟩, rfl⟩, rfl⟩
    refine ⟨count, hsize, ⟨hinterfaces.1, hfields, hmethods, hattributes⟩, entries, hfilled, ?_⟩
    simp only [ClassFile.layout, List.append_assoc]
  · rintro ⟨count, hsize, htables, entries, hfilled, rfl⟩
    refine ⟨file.minorVersion, file.majorVersion, file.pool, _, ⟨count, entries, hsize, hfilled, rfl⟩, _,
      ⟨file.access.bits, _, rfl, file.thisClass, _, rfl, file.superClass, _, rfl, file.interfaces, _, rfl,
        ⟨htables.interfaces, fun _ _ => trivial⟩, file.fields, _, rfl, htables.fields, file.methods, _, rfl,
        htables.methods, file.attributes, ⟨htables.attributes, rfl⟩, rfl⟩, ?_⟩
    simp only [ClassFile.layout, List.append_assoc]

end ClassInspect.Decoder
