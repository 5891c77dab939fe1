import ClassInspect.Proofs.ClassFile.RoundTrip
import ClassInspect.Proofs.ClassFile.Summary
import ClassInspect.Report.Json
import ClassInspect.Report.Text

/-!
# Attribute payloads are opaque

The payload of an attribute is carried along and never looked at. In the bytes of a class file it lies between a front and
a back that do not depend on it (`Layout.Gapped`), so bytes of the same length can take its place, whatever they spell,
and nothing behind them moves. In the class, everything that a report says survives the removal of all payloads
(`ClassFile.withoutInfo`), so two classes that differ in payloads only are reported alike.
-/

namespace ClassInspect

/-- Where an attribute of a class stands. -/
inductive AttributePlace where
  | ofClass (position : Nat)
  | ofField (field position : Nat)
  | ofMethod (method position : Nat)
deriving Repr, DecidableEq

def Attribute.withInfo (info : Bytes) (entry : Attribute) : Attribute := { entry with info }

/-- The member with another payload in one of its attributes. -/
def Member.withInfo (position : Nat) (info : Bytes) (entry : Member) : Member :=
  { entry with attributes := entry.attributes.modify position (Attribute.withInfo info) }

namespace ClassFile

def attributeAt? (file : ClassFile) : AttributePlace → Option Attribute
  | .ofClass position => file.attributes[position]?
  | .ofField field position => file.fields[field]?.bind fun member => member.attributes[position]?
  | .ofMethod method position => file.methods[method]?.bind fun member => member.attributes[position]?

/-- The class with another payload in one of its attributes. -/
def withInfo (file : ClassFile) (place : AttributePlace) (info : Bytes) : ClassFile :=
  match place with
  | .ofClass position => { file with attributes := file.attributes.modify position (Attribute.withInfo info) }
  | .ofField field position => { file with fields := file.fields.modify field (Member.withInfo position info) }
  | .ofMethod method position => { file with methods := file.methods.modify method (Member.withInfo position info) }

end ClassFile

/-! ### The gap in the layout -/

section Modify

variable {α β : Type}

theorem modify_eq_of_getElem? {items : List α} {position : Nat} {item : α} (hitem : items[position]? = some item)
    (change : α → α) :
    items.modify position change = items.take position ++ change item :: items.drop (position + 1) := by
  obtain ⟨hposition, rfl⟩ := List.getElem?_eq_some_iff.mp hitem
  exact List.modify_eq_take_cons_drop hposition

theorem modify_eq_self {items : List α} {position : Nat} {item : α} {change : α → α}
    (hitem : items[position]? = some item) (hchange : change item = item) : items.modify position change = items := by
  obtain ⟨hposition, rfl⟩ := List.getElem?_eq_some_iff.mp hitem
  rw [List.modify_eq_take_cons_drop hposition, hchange, List.getElem_cons_drop, List.take_append_drop]

theorem map_modify_of_forall_eq {change : α → α} {view : α → β} (hview : ∀ item, view (change item) = view item)
    (items : List α) (position : Nat) : (items.modify position change).map view = items.map view := by
  apply List.ext_getElem?
  intro k
  rw [List.getElem?_map, List.getElem?_map, List.getElem?_modify]
  cases items[k]? with
  | none => rfl
  | some item =>
    by_cases hk : position = k
    · simp [hk, hview]
    · simp [hk]

end Modify

namespace Layout

theorem CountFits.modify {α : Type} {fits : α → Prop} {items : List α} {position : Nat} {item : α} {change : α → α}
    (hfits : CountFits fits items) (hitem : items[position]? = some item) (hchange : fits (change item)) :
    CountFits fits (items.modify position change) := by
  refine ⟨by rw [List.length_modify]; exact hfits.1, fun other hother => ?_⟩
  rw [modify_eq_of_getElem? hitem, List.mem_append, List.mem_cons] at hother
  rcases hother with hbefore | rfl | hbehind
  · exact hfits.2 other (List.mem_of_mem_take hbefore)
  · exact hchange
  · exact hfits.2 other (List.mem_of_mem_drop hbehind)

/-- The bytes are a fixed front and a fixed back with the payload between them, for all payloads of the given length. -/
def Gapped (length : Nat) (content : Bytes → Bytes) : Prop :=
  ∃ front back, ∀ info, info.length = length → content info = front ++ info ++ back

namespace Gapped

variable {length : Nat} {content : Bytes → Bytes}

theorem append_left (hgap : Gapped length content) (before : Bytes) : Gapped length fun info => before ++ content info := by
  obtain ⟨front, back, hcontent⟩ := hgap
  refine ⟨before ++ front, back, fun info hinfo => ?_⟩
  simp only [hcontent info hinfo, List.append_assoc]

theorem append_right (hgap : Gapped length content) (behind : Bytes) : Gapped length fun info => content info ++ behind := by
  obtain ⟨front, back, hcontent⟩ := hgap
  refine ⟨front, back ++ behind, fun info hinfo => ?_⟩
  simp only [hcontent info hinfo, List.append_assoc]

/-- A gap in one item is a gap in the list behind its length. -/
theorem counted {α : Type} {layout : α → Bytes} {items : List α} {position : Nat} {item : α} {change : Bytes → α → α}
    (hitem : items[position]? = some item) (hgap : Gapped length fun info => layout (change info item)) :
    Gapped length fun info => Layout.counted layout (items.modify position (change info)) := by
  have hsplit : ∀ info, Layout.counted layout (items.modify position (change info)) =
      BigEndian.ofNat 2 items.length ++ (items.take position).flatMap layout ++
        (layout (change info item) ++ (items.drop (position + 1)).flatMap layout) := by
    intro info
    rw [Layout.counted, List.length_modify, modify_eq_of_getElem? hitem, List.flatMap_append, List.flatMap_cons,
      List.append_assoc]
  simp only [hsplit]
  exact (hgap.append_right _).append_left _

/-- The payload stands behind the name and its own length, which is all that the rest of the entry knows of it. -/
theorem attributeEntry (entry : Attribute) :
    Gapped entry.info.length fun info => Layout.attributeEntry (entry.withInfo info) := by
  refine ⟨u2 entry.name ++ BigEndian.ofNat 4 entry.info.length, [], fun info hinfo => ?_⟩
  simp only [Layout.attributeEntry, Attribute.withInfo, sized, hinfo, List.append_assoc, List.append_nil]

theorem member {entry : Member} {position : Nat} {found : Attribute}
    (hfound : entry.attributes[position]? = some found) :
    Gapped found.info.length fun info => Layout.member (entry.withInfo position info) := by
  simp only [Layout.member, Member.withInfo]
  exact (counted hfound (attributeEntry found)).append_left _

end Gapped

end Layout

namespace ClassFile

variable {file : ClassFile} {place : AttributePlace} {entry : Attribute}

theorem gapped_layout (hentry : file.attributeAt? place = some entry) (count : UInt16) (entries : Bytes) :
    Layout.Gapped entry.info.length fun info => (file.withInfo place info).layout count entries := by
  cases place with
  | ofClass position =>
    simp only [withInfo, layout]
    exact (Layout.Gapped.counted hentry (.attributeEntry entry)).append_left _
  -- behind the fields come the methods and the attributes of the class, which keep their places
  | ofField field position =>
    obtain ⟨member, hmember, hfound⟩ := Option.bind_eq_some_iff.mp hentry
    have hgap := Layout.Gapped.counted hmember (.member hfound)
    simp only [withInfo, layout]
    exact ((hgap.append_left _).append_right _).append_right _
  | ofMethod method position =>
    obtain ⟨member, hmember, hfound⟩ := Option.bind_eq_some_iff.mp hentry
    have hgap := Layout.Gapped.counted hmember (.member hfound)
    simp only [withInfo, layout]
    exact (hgap.append_left _).append_right _

theorem withInfo_self (hentry : file.attributeAt? place = some entry) : file.withInfo place entry.info = file := by
  have hmember : ∀ {member : Member} {position : Nat}, member.attributes[position]? = some entry →
      member.withInfo position entry.info = member := by
    intro member position hfound
    rw [Member.withInfo, modify_eq_self hfound rfl]
  cases place with
  | ofClass position => rw [withInfo, modify_eq_self hentry rfl]
  | ofField field position =>
    obtain ⟨member, hfield, hfound⟩ := Option.bind_eq_some_iff.mp hentry
    rw [withInfo, modify_eq_self hfield (hmember hfound)]
  | ofMethod method position =>
    obtain ⟨member, hmethod, hfound⟩ := Option.bind_eq_some_iff.mp hentry
    rw [withInfo, modify_eq_self hmethod (hmember hfound)]

@[simp] theorem withInfo_pool (file : ClassFile) (place : AttributePlace) (info : Bytes) :
    (file.withInfo place info).pool = file.pool := by
  cases place <;> rfl

@[simp] theorem withInfo_thisClass (file : ClassFile) (place : AttributePlace) (info : Bytes) :
    (file.withInfo place info).thisClass = file.thisClass := by
  cases place <;> rfl

theorem TablesFit.withInfo {info : Bytes} (htables : file.TablesFit) (hentry : file.attributeAt? place = some entry)
    (hinfo : info.length = entry.info.length) : (file.withInfo place info).TablesFit := by
  have hfits : ∀ {attributes : List Attribute} {position : Nat}, Layout.CountFits Attribute.Fits attributes →
      attributes[position]? = some entry →
        Layout.CountFits Attribute.Fits (attributes.modify position (Attribute.withInfo info)) := by
    intro attributes position hattributes hfound
    refine hattributes.modify hfound ?_
    show info.length < 2 ^ 32
    rw [hinfo]
    exact hattributes.2 entry (List.mem_of_getElem? hfound)
  cases place with
  | ofClass position => exact ⟨htables.interfaces, htables.fields, htables.methods, hfits htables.attributes hentry⟩
  | ofField field position =>
    obtain ⟨member, hmember, hfound⟩ := Option.bind_eq_some_iff.mp hentry
    have hchanged := hfits (htables.fields.2 member (List.mem_of_getElem? hmember)) hfound
    exact ⟨htables.interfaces, htables.fields.modify hmember hchanged, htables.methods, htables.attributes⟩
  | ofMethod method position =>
    obtain ⟨member, hmember, hfound⟩ := Option.bind_eq_some_iff.mp hentry
    have hchanged := hfits (htables.methods.2 member (List.mem_of_getElem? hmember)) hfound
    exact ⟨htables.interfaces, htables.fields, htables.methods.modify hmember hchanged, htables.attributes⟩

/-- In a class file, every payload of the same length can stand where a payload stands. -/
theorem LaidOut.exists_gap {count : UInt16} {content : Bytes} (hlaid : file.LaidOut count content)
    (hentry : file.attributeAt? place = some entry) :
    ∃ front back, content = front ++ entry.info ++ back ∧ ∀ info, info.length = entry.info.length →
      (file.withInfo place info).LaidOut count (front ++ info ++ back) := by
  obtain ⟨entries, hfilled, rfl⟩ := hlaid.spelled
  obtain ⟨front, back, hgap⟩ := gapped_layout hentry count entries
  refine ⟨front, back, ?_, fun info hinfo => ?_⟩
  · have hown := hgap entry.info rfl
    simp only [withInfo_self hentry] at hown
    exact hown
  · refine ⟨?_, hlaid.tables.withInfo hentry hinfo, entries, ?_, (hgap info hinfo).symm⟩
    · rw [withInfo_pool]
      exact hlaid.size
    · rw [withInfo_pool]
      exact hfilled

theorem Named.withInfo (hnamed : file.Named) (place : AttributePlace) (info : Bytes) :
    (file.withInfo place info).Named := by
  rw [Named, withInfo_pool, withInfo_thisClass]
  exact hnamed

end ClassFile

/-! ### Reports without payloads -/

def Attribute.withoutInfo (entry : Attribute) : Attribute := { entry with info := [] }

def Member.withoutInfo (entry : Member) : Member :=
  { entry with attributes := entry.attributes.map Attribute.withoutInfo }

namespace ClassFile

/-- The class with all payloads removed. -/
def withoutInfo (file : ClassFile) : ClassFile :=
  { file with
    fields := file.fields.map Member.withoutInfo
    methods := file.methods.map Member.withoutInfo
    attributes := file.attributes.map Attribute.withoutInfo }

theorem attributeNames_withoutInfo (file : ClassFile) (attributes : List Attribute) :
    file.withoutInfo.attributeNames (attributes.map Attribute.withoutInfo) = file.attributeNames attributes := by
  rw [attributeNames, attributeNames, List.mapM_map]
  rfl

theorem fieldSummary_withoutInfo (file : ClassFile) (field : Member) :
    file.withoutInfo.fieldSummary field.withoutInfo = file.fieldSummary field := by
  simp only [fieldSummary, Member.withoutInfo, attributeNames_withoutInfo]
  rfl

theorem methodSummary_withoutInfo (file : ClassFile) (method : Member) :
    file.withoutInfo.methodSummary method.withoutInfo = file.methodSummary method := by
  simp only [methodSummary, Member.withoutInfo, attributeNames_withoutInfo]
  rfl

theorem mapM_withoutInfo {view other : Member → Except Fault MemberSummary}
    (hview : ∀ member, view member.withoutInfo = other member) (members : List Member) :
    (members.map Member.withoutInfo).mapM view = members.mapM other := by
  have hstep : view ∘ Member.withoutInfo = other := funext hview
  rw [List.mapM_map, hstep]

/-- A summary asks for the names of attributes and for nothing else of them. -/
theorem summary_withoutInfo (file : ClassFile) : file.withoutInfo.summary = file.summary := by
  have hfields : file.withoutInfo.fields.mapM file.withoutInfo.fieldSummary = file.fields.mapM file.fieldSummary :=
    mapM_withoutInfo (fieldSummary_withoutInfo file) file.fields
  have hmethods : file.withoutInfo.methods.mapM file.withoutInfo.methodSummary = file.methods.mapM file.methodSummary :=
    mapM_withoutInfo (methodSummary_withoutInfo file) file.methods
  have hattributes : file.withoutInfo.attributeNames file.withoutInfo.attributes = file.attributeNames file.attributes :=
    attributeNames_withoutInfo file file.attributes
  rw [summary, hfields, hmethods, hattributes]
  rfl

theorem withoutInfo_withInfo (file : ClassFile) (place : AttributePlace) (info : Bytes) :
    (file.withInfo place info).withoutInfo = file.withoutInfo := by
  have hattributes : ∀ (attributes : List Attribute) (position : Nat),
      (attributes.modify position (Attribute.withInfo info)).map Attribute.withoutInfo =
        attributes.map Attribute.withoutInfo := map_modify_of_forall_eq fun _ => rfl
  have hmembers : ∀ (members : List Member) (k position : Nat),
      (members.modify k (Member.withInfo position info)).map Member.withoutInfo = members.map Member.withoutInfo := by
    intro members k position
    refine map_modify_of_forall_eq (fun member => ?_) members k
    rw [Member.withoutInfo, Member.withInfo, hattributes]
    rfl
  cases place with
  | ofClass position => simp only [withoutInfo, withInfo, hattributes]
  | ofField field position => simp only [withoutInfo, withInfo, hmembers]
  | ofMethod method position => simp only [withoutInfo, withInfo, hmembers]

theorem summary_withInfo (file : ClassFile) (place : AttributePlace) (info : Bytes) :
    (file.withInfo place info).summary = file.summary := by
  rw [← summary_withoutInfo, withoutInfo_withInfo, summary_withoutInfo]

/-- The texts of a class, in both formats, or the fault for which it has no summary. -/
def reports (file : ClassFile) (settings : Settings) : Except Fault (String × String) :=
  file.summary.map fun summary => (Report.text file.pool summary settings, Report.json summary settings)

/-- The payload of every attribute of a parsed class is a range of the input, and any bytes of the same length can take
its place: the parse then gives the same class with this one payload exchanged, and its summary and both reports, under
all settings, or their fault, stay as they are. -/
theorem parse_exchange_info {data : Bytes} {file : ClassFile} {place : AttributePlace} {entry : Attribute}
    (hparse : parse data = .ok file) (hentry : file.attributeAt? place = some entry) :
    ∃ front back, data = front ++ entry.info ++ back ∧ ∀ info, info.length = entry.info.length →
      parse (front ++ info ++ back) = .ok (file.withInfo place info) ∧
      (file.withInfo place info).summary = file.summary ∧
      ∀ settings, (file.withInfo place info).reports settings = file.reports settings := by
  obtain ⟨⟨content, tail, rfl, hreads⟩, hnamed⟩ := parse_eq_ok_iff_reads.mp hparse
  obtain ⟨count, hlaid⟩ := Decoder.reads_classFile_iff.mp hreads
  obtain ⟨front, back, rfl, hexchange⟩ := hlaid.exists_gap hentry
  refine ⟨front, back ++ tail, List.append_assoc _ _ _, fun info hinfo => ⟨?_, summary_withInfo file place info, ?_⟩⟩
  · rw [← List.append_assoc]
    exact (hexchange info hinfo).parse_append (hnamed.withInfo place info) tail
  · intro settings
    rw [reports, summary_withInfo, withInfo_pool, reports]

/-- The payload of the only method of the specimen, replaced by the start of a class file. -/
theorem parse_exchange_info_specimen :
    specimen.attributeAt? (.ofMethod 0 0) = some ⟨1, [0xCA, 0xFE]⟩ ∧
      ∃ front back, specimen.encode ++ [] = front ++ [0xCA, 0xFE] ++ back ∧
        parse (front ++ [0xBA, 0xBE] ++ back) = .ok (specimen.withInfo (.ofMethod 0 0) [0xBA, 0xBE]) := by
  have hparse := specimen_encodable.laidOut.parse_append specimen_encodable.named []
  have hentry : specimen.attributeAt? (.ofMethod 0 0) = some ⟨1, [0xCA, 0xFE]⟩ := rfl
  obtain ⟨front, back, hdata, hexchange⟩ := parse_exchange_info hparse hentry
  exact ⟨hentry, front, back, hdata, (hexchange [0xBA, 0xBE] rfl).1⟩

end ClassFile

end ClassInspect
