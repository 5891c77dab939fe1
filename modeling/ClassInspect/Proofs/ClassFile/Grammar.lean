import ClassInspect.ClassFile.Layout
import ClassInspect.Proofs.Text.ModifiedUtf8

/-!
# The grammar of class files

Which byte strings are class files, and of which class, without a decoder. Most of the format has one
layout for each value, and `ClassInspect.ClassFile.Layout` writes it. Three things it leaves open are said
here. A text has many payloads, since every byte string decodes to some text. A pool without slots may state
a size of zero as well as of one. And a list or a payload is written only if its length fits into the field
in front of it.

`ClassFile.LaidOut` is the grammar of the whole file. The layout that `ClassFile.encode` writes is one of
its members for every class that can be written at all, which `ClassFile.Encodable` spells out.
-/

namespace ClassInspect

/-! ### Constants and slots -/

namespace Constant

variable {constant : Constant}

/-- The constant is a long or a double, which fill two slots each. -/
def Wide (constant : Constant) : Prop := (∃ value, constant = .long value) ∨ ∃ bits, constant = .double bits

theorem isWide_eq_true_iff : constant.isWide = true ↔ constant.Wide := by
  cases constant <;> simp [isWide, Wide]

instance (constant : Constant) : Decidable constant.Wide := decidable_of_iff _ isWide_eq_true_iff

end Constant

/-- The bytes that can stand for a constant. A text may have any payload that decodes to it, and an unusable
slot has no bytes of its own. -/
def Constant.Entry : Constant → Bytes → Prop
  | .utf8 value, content =>
    ∃ raw : Bytes, raw.length ≤ 0xFFFF ∧ ModifiedUtf8.decode raw = value ∧
      content = Layout.u1 1 ++ Layout.sized 2 raw
  | .unusable, _ => False
  | constant, content => content = Layout.constant constant

namespace Layout

theorem u1_eq (value : UInt8) : u1 value = [value] := by
  rw [u1, BigEndian.ofNat, BigEndian.ofNat, UInt8.ofNat_toNat, List.nil_append]

/-- The bytes that fill slots, entry by entry. A wide constant fills two slots. -/
inductive Filled : List Constant → Bytes → Prop where
  | nil : Filled [] []
  | narrow {constant : Constant} {entry : Bytes} {slots : List Constant} {content : Bytes}
    (hnarrow : ¬ constant.Wide) (hentry : constant.Entry entry) (hrest : Filled slots content) :
    Filled (constant :: slots) (entry ++ content)
  | wide {constant : Constant} {entry : Bytes} {slots : List Constant} {content : Bytes}
    (hwide : constant.Wide) (hentry : constant.Entry entry) (hrest : Filled slots content) :
    Filled (constant :: .unusable :: slots) (entry ++ content)

/-- Behind every wide constant stands an unusable slot, and nowhere else. -/
structure Paired (slots : List Constant) : Prop where
  first : slots[0]? ≠ some .unusable
  next (k : Nat) : slots[k + 1]? = some .unusable ↔ ∃ constant, slots[k]? = some constant ∧ constant.Wide

theorem Paired.tail_of_narrow {constant : Constant} {slots : List Constant} (hpaired : Paired (constant :: slots))
    (hnarrow : ¬ constant.Wide) : Paired slots := by
  refine ⟨?_, fun k => hpaired.next (k + 1)⟩
  intro hfirst
  obtain ⟨previous, hprevious, hwide⟩ := (hpaired.next 0).mp hfirst
  rw [← Option.some.inj hprevious] at hwide
  exact hnarrow hwide

theorem Paired.tail_of_wide {constant : Constant} {slots : List Constant} (hpaired : Paired (constant :: slots))
    (hwide : constant.Wide) : ∃ later, slots = .unusable :: later ∧ Paired later := by
  have hsecond : slots[0]? = some .unusable := (hpaired.next 0).mpr ⟨constant, rfl, hwide⟩
  cases slots with
  | nil => exact absurd hsecond (by simp)
  | cons second later =>
    obtain rfl : second = .unusable := Option.some.inj hsecond
    refine ⟨later, rfl, ?_, fun k => hpaired.next (k + 2)⟩
    intro hfirst
    obtain ⟨previous, hprevious, hwidePrevious⟩ := (hpaired.next 1).mp hfirst
    rw [← Option.some.inj hprevious] at hwidePrevious
    exact absurd hwidePrevious (by simp [Constant.Wide])

theorem entry_constant {constant : Constant} (husable : constant ≠ .unusable)
    (htext : ∀ value, constant = .utf8 value → (ModifiedUtf8.encode value).length ≤ 0xFFFF) :
    constant.Entry (Layout.constant constant) := by
  cases constant with
  | utf8 value => exact ⟨ModifiedUtf8.encode value, htext value rfl, ModifiedUtf8.decode_encode value, rfl⟩
  | unusable => exact absurd rfl husable
  | _ => rfl

/-- The plain layouts of paired slots fill them. -/
theorem filled_flatMap_constant {slots : List Constant} (hpaired : Paired slots)
    (htexts : ∀ value, .utf8 value ∈ slots → (ModifiedUtf8.encode value).length ≤ 0xFFFF) :
    Filled slots (slots.flatMap constant) := by
  -- a wide constant takes two slots off the list, so the induction is on its length
  induction hlength : slots.length using Nat.strongRecOn generalizing slots with
  | ind length ih =>
    subst hlength
    cases slots with
    | nil => exact .nil
    | cons first rest =>
      have husable : first ≠ .unusable := fun hfirst => hpaired.first (by rw [hfirst]; rfl)
      have hentry := entry_constant husable fun value hvalue => htexts value (hvalue ▸ List.mem_cons_self)
      by_cases hwide : first.Wide
      · obtain ⟨later, rfl, hlater⟩ := hpaired.tail_of_wide hwide
        exact .wide hwide hentry (ih _ (by rw [List.length_cons, List.length_cons]; omega) hlater
          (fun value hvalue => htexts value (List.mem_cons_of_mem _ (List.mem_cons_of_mem _ hvalue))) rfl)
      · exact .narrow hwide hentry (ih _ (by simp) (hpaired.tail_of_narrow hwide)
          (fun value hvalue => htexts value (List.mem_cons_of_mem _ hvalue)) rfl)

/-! ### Tables -/

/-- The ten bytes in front of the constants: the magic number, the two versions and the stated size of the pool. -/
def header (minor major count : UInt16) : Bytes := u4 0xCAFEBABE ++ u2 minor ++ u2 major ++ u2 count

/-- The length of the list fits into two bytes, and every item fits. -/
def CountFits {α : Type} (fits : α → Prop) (items : List α) : Prop :=
  items.length ≤ 0xFFFF ∧ ∀ item ∈ items, fits item

end Layout

/-- The length of the payload fits into four bytes. -/
def Attribute.Fits (entry : Attribute) : Prop := entry.info.length < 2 ^ 32

def Member.Fits (entry : Member) : Prop := Layout.CountFits Attribute.Fits entry.attributes

namespace ClassFile

/-- All lengths behind the constant pool fit into the fields in front of them. -/
structure TablesFit (file : ClassFile) : Prop where
  interfaces : file.interfaces.length ≤ 0xFFFF
  fields : Layout.CountFits Member.Fits file.fields
  methods : Layout.CountFits Member.Fits file.methods
  attributes : Layout.CountFits Attribute.Fits file.attributes

/-! ### The whole file -/

/-- The bytes of a class file whose stated pool size is `count` and whose slots are filled by `entries`. -/
def layout (file : ClassFile) (count : UInt16) (entries : Bytes) : Bytes :=
  Layout.header file.minorVersion file.majorVersion count ++ entries ++
    Layout.u2 file.access.bits ++ Layout.u2 file.thisClass ++ Layout.u2 file.superClass ++
    Layout.counted Layout.u2 file.interfaces ++ Layout.counted Layout.member file.fields ++
    Layout.counted Layout.member file.methods ++ Layout.counted Layout.attributeEntry file.attributes

/-- The byte string is a class file of this class and states `count` as the size of its pool. -/
structure LaidOut (file : ClassFile) (count : UInt16) (content : Bytes) : Prop where
  size : file.pool.size = count.toNat - 1
  tables : file.TablesFit
  spelled : ∃ entries, Layout.Filled file.pool.slots.toList entries ∧ content = file.layout count entries

/-- The class has a name: its own index leads to a class entry and on to a text. -/
def Named (file : ClassFile) : Prop :=
  ∃ name value, file.pool.get? file.thisClass = some (.classRef name) ∧ file.pool.get? name = some (.utf8 value)

/-- The class can be written as a class file and read back. -/
structure Encodable (file : ClassFile) : Prop where
  size_le : file.pool.size ≤ 65534
  paired : Layout.Paired file.pool.slots.toList
  texts : ∀ value, .utf8 value ∈ file.pool.slots → (ModifiedUtf8.encode value).length ≤ 65535
  tables : file.TablesFit
  named : file.Named

theorem encode_eq_layout {file : ClassFile} (hsize : file.pool.size ≤ 65534) :
    file.encode = file.layout (UInt16.ofNat (file.pool.size + 1)) (file.pool.slots.toList.flatMap Layout.constant) := by
  have hcount : Layout.u2 (UInt16.ofNat (file.pool.size + 1)) = BigEndian.ofNat 2 (file.pool.size + 1) := by
    rw [Layout.u2, UInt16.toNat_ofNat', Nat.mod_eq_of_lt (by omega)]
  rw [encode, layout, Layout.constantPool, Layout.header, hcount]
  simp only [List.append_assoc]

/-- What is written for a class is a class file of it. -/
theorem Encodable.laidOut {file : ClassFile} (hfile : file.Encodable) :
    file.LaidOut (UInt16.ofNat (file.pool.size + 1)) file.encode := by
  have hsize := hfile.size_le
  refine ⟨?_, hfile.tables, file.pool.slots.toList.flatMap Layout.constant, ?_, encode_eq_layout hsize⟩
  · rw [UInt16.toNat_ofNat']
    omega
  · exact Layout.filled_flatMap_constant hfile.paired fun value hvalue => hfile.texts value (Array.mem_toList_iff.mp hvalue)

end ClassFile

end ClassInspect
