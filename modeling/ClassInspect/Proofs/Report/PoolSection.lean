import ClassInspect.Proofs.ClassFile.RoundTrip
import ClassInspect.Proofs.ClassFile.Summary
import ClassInspect.Report.Text

/-!
# The constant pool in a report

A report takes the kind of a constant from the summary and its description from the pool, and joins the two by index.
The summary counts its indices up from the first slot and the pool follows them back, both in 16 bits, so a line could
speak of two slots at once. It does not: the indices that are handed out are those that look-ups understand, and each
line is that of a single slot.
-/

namespace ClassInspect

/-- No index wraps: as numbers, the indices count the slots from one. -/
theorem ConstantPool.map_toNat_entries {pool : ConstantPool} (hsize : pool.size ≤ 65535) :
    pool.entries.map (fun entry => (entry.2, entry.1.toNat)) =
      (pool.slots.toList.zipIdx 1).filter fun numbered => numbered.1 ≠ .unusable := by
  rw [entries_eq_listing, listing, List.map_map]
  refine (List.map_congr_left ?_).trans (List.map_id _)
  intro numbered hnumbered
  obtain ⟨slot, number⟩ := numbered
  have hlast : number < 1 + pool.slots.toList.length :=
    (List.mem_zipIdx (List.mem_of_mem_filter hnumbered)).2.1
  rw [Array.length_toList] at hlast
  have haddressed : number < 65536 := Nat.lt_of_lt_of_le hlast (Nat.add_comm 1 _ ▸ Nat.succ_le_succ hsize)
  show (slot, (UInt16.ofNat number).toNat) = (slot, number)
  rw [UInt16.toNat_ofNat_of_lt' haddressed]

theorem ClassFile.size_pool_of_parse {data : Bytes} {file : ClassFile} (hparse : parse data = .ok file) :
    file.pool.size ≤ 65534 := by
  obtain ⟨⟨content, tail, rfl, hreads⟩, -⟩ := parse_eq_ok_iff_reads.mp hparse
  obtain ⟨count, hlaid⟩ := Decoder.reads_classFile_iff.mp hreads
  have hsize := hlaid.size
  have hcount := count.toNat_lt
  omega

theorem ClassFile.Resolved.mem_indices_iff {file : ClassFile} {summary : ClassSummary}
    (hresolved : file.Resolved summary) (hsize : file.pool.size ≤ 65535) {index : UInt16} :
    index ∈ summary.pool.map PoolEntry.index ↔
      ∃ constant, file.pool.get? index = some constant ∧ constant ≠ .unusable := by
  have hmember := (hresolved.pool_ordered hsize).2
  rw [List.mem_map]
  apply Iff.intro
  · intro hindex
    obtain ⟨entry, hentry, rfl⟩ := hindex
    obtain ⟨hfound, husable⟩ := (hmember entry).mp hentry
    exact ⟨entry.constant, hfound, husable⟩
  · intro hslot
    obtain ⟨constant, hfound, husable⟩ := hslot
    exact ⟨⟨index, constant⟩, (hmember _).mpr ⟨hfound, husable⟩, rfl⟩

namespace Report

/-- The line of a slot, found by its index alone. -/
def slotLine (pool : ConstantPool) (index : UInt16) : String :=
  let kind := (pool.get? index).elim "" Constant.kindName
  let padding := String.ofList (List.replicate (kindWidth - kind.length) ' ')
  let detail := (pool.describe index).getD ""
  s!"  #{index} = {kind}{padding} {detail}"

theorem poolLine_eq_slotLine {pool : ConstantPool} {entry : PoolEntry}
    (hfound : pool.get? entry.index = some entry.constant) : poolLine pool entry = slotLine pool entry.index := by
  rw [poolLine, slotLine, hfound]
  rfl

theorem map_poolLine_eq {file : ClassFile} {summary : ClassSummary} (hresolved : file.Resolved summary)
    (hsize : file.pool.size ≤ 65535) :
    summary.pool.map (poolLine file.pool) = (summary.pool.map PoolEntry.index).map (slotLine file.pool) := by
  rw [List.map_map]
  apply List.map_congr_left
  intro entry hentry
  exact poolLine_eq_slotLine (((hresolved.pool_ordered hsize).2 entry).mp hentry).1

/-- The constant pool stands behind everything else. -/
theorem text_of_showPool {settings : Settings} (pool : ConstantPool) (summary : ClassSummary)
    (hshow : settings.showPool = true) :
    text pool summary settings =
      text pool summary { settings with showPool := false } ++
        String.join (("constant pool" :: summary.pool.map (poolLine pool)).map (· ++ "\n")) := by
  have hlines : lines pool summary settings =
      lines pool summary { settings with showPool := false } ++ "constant pool" :: summary.pool.map (poolLine pool) := by
    simp [lines, poolLines, memberLines, attributeLines, hshow]
  rw [text, hlines, List.map_append, String.join_append]
  rfl

/-- The entries of an addressable pool are numbered without a wrap, in ascending order, and by the indices at which
look-ups find them; every parsed class has such a pool; and a report of a class with its own summary gives each usable
slot one line, in the order of the indices. -/
theorem pool_section_by_slot :
    (∀ pool : ConstantPool, pool.size ≤ 65535 →
      pool.entries.Pairwise (fun earlier later => earlier.1 < later.1) ∧
      (∀ index constant, (index, constant) ∈ pool.entries ↔
        pool.get? index = some constant ∧ constant ≠ .unusable) ∧
      pool.entries.map (fun entry => (entry.2, entry.1.toNat)) =
        (pool.slots.toList.zipIdx 1).filter fun numbered => numbered.1 ≠ .unusable) ∧
    (∀ data file, ClassFile.parse data = .ok file → file.pool.size ≤ 65534) ∧
    ∀ (file : ClassFile) (summary : ClassSummary) (settings : Settings), file.pool.size ≤ 65535 →
      file.summary = .ok summary → settings.showPool = true →
      ∃ indices : List UInt16, indices.Pairwise (· < ·) ∧
        (∀ index, index ∈ indices ↔ ∃ constant, file.pool.get? index = some constant ∧ constant ≠ .unusable) ∧
        text file.pool summary settings =
          text file.pool summary { settings with showPool := false } ++
            String.join (("constant pool" :: indices.map (slotLine file.pool)).map (· ++ "\n")) := by
  refine ⟨?_, fun data file => ClassFile.size_pool_of_parse, ?_⟩
  · intro pool hsize
    exact ⟨ConstantPool.pairwise_entries hsize, fun _ _ => ConstantPool.mem_entries_iff hsize,
      ConstantPool.map_toNat_entries hsize⟩
  · intro file summary settings hsize hsummary hshow
    have hresolved := ClassFile.summary_eq_ok_iff.mp hsummary
    refine ⟨summary.pool.map PoolEntry.index, List.pairwise_map.mpr (hresolved.pool_ordered hsize).1,
      fun index => hresolved.mem_indices_iff hsize, ?_⟩
    rw [text_of_showPool file.pool summary hshow, map_poolLine_eq hresolved hsize]

/-- The specimen without its malformed method: the slots behind the long and the double have no lines. -/
theorem pool_section_by_slot_specimen :
    ∃ file : ClassFile, file = { ClassFile.specimen with methods := [] } ∧
      ∃ summary, file.summary = .ok summary ∧ summary.pool.map PoolEntry.index = [1, 2, 3, 5] ∧
        ∃ indices : List UInt16, indices.Pairwise (· < ·) ∧
          (∀ index, index ∈ indices ↔ ∃ constant, file.pool.get? index = some constant ∧ constant ≠ .unusable) ∧
          text file.pool summary ⟨"A.class", .text, true, true, true⟩ =
            text file.pool summary ⟨"A.class", .text, false, true, true⟩ ++
              String.join (("constant pool" :: indices.map (slotLine file.pool)).map (· ++ "\n")) :=
  ⟨_, rfl, _, rfl, rfl, pool_section_by_slot.2.2 _ _ _ (by decide) rfl rfl⟩

end Report

end ClassInspect
