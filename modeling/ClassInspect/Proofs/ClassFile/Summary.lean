import ClassInspect.ClassFile.Summary
import ClassInspect.Proofs.ClassFile.Entries
import ClassInspect.Proofs.ClassFile.Lookup
import ClassInspect.Proofs.Descriptor.Grammar
import ClassInspect.Proofs.Outcome

/-!
# What a summary says, and what it complains about

A summary is computed by many look-ups that share one way to fail. Two readings of it leave the computation behind.
A summary that exists is the resolved class, position by position (`ClassFile.Resolved`). One that does not exist has
a first defect in a list of checks, which `ClassFile.checks` writes down in the order in which they are made;
`Examines` says of a computation that it fails as its list of checks does, and has one law for each way to compose.
-/

namespace ClassInspect

/-! ### Checks -/

/-- A question that a summary asks of the constant pool. -/
inductive SummaryCheck where
  /-- The index leads to a text. -/
  | text (index : UInt16)
  /-- The index leads to a class entry and on to a text. -/
  | className (index : UInt16)
  /-- The text at the index is a method descriptor. -/
  | descriptor (index : UInt16)
deriving Repr, DecidableEq

namespace SummaryCheck

/-- What a check complains about. Whether there is a text to read as a descriptor is the question of another check. -/
def defect? (pool : ConstantPool) : SummaryCheck → Option Fault
  | text index =>
    match pool.get? index with
    | some (.utf8 _) => none
    | _ => some (.invalidIndex index .utf8)
  | className index =>
    match pool.get? index with
    | some (.classRef name) =>
      match pool.get? name with
      | some (.utf8 _) => none
      | _ => some (.invalidIndex name .utf8)
    | _ => some (.invalidIndex index .classEntry)
  | descriptor index =>
    match pool.get? index with
    | some (.utf8 value) =>
      match MethodDescriptor.parse value with
      | .ok _ => none
      | .error _ => some (.invalidDescriptor value)
    | _ => none

variable {pool : ConstantPool} {index : UInt16} {fault : Fault}

theorem defect?_text_eq_some_iff :
    (text index).defect? pool = some fault ↔
      fault = .invalidIndex index .utf8 ∧ ∀ value, pool.get? index ≠ some (.utf8 value) := by
  simp only [defect?]
  split
  · next found hfound => exact iff_of_false nofun fun hnone => hnone.2 found hfound
  · next hother => rw [Option.some.injEq, eq_comm, and_iff_left hother]

theorem defect?_className_eq_some_iff :
    (className index).defect? pool = some fault ↔
      (fault = .invalidIndex index .classEntry ∧ ∀ name, pool.get? index ≠ some (.classRef name)) ∨
        ∃ name, pool.get? index = some (.classRef name) ∧ (text name).defect? pool = some fault := by
  simp only [defect?]
  split
  · next name hname => simp [hname]
  · next hother =>
    have hno : ¬ ∃ name, pool.get? index = some (.classRef name) ∧ (text name).defect? pool = some fault := by
      intro hclass
      obtain ⟨name, hname, -⟩ := hclass
      exact hother name hname
    simp only [defect?] at hno
    rw [or_iff_left hno, Option.some.injEq, eq_comm, and_iff_left hother]

theorem defect?_descriptor_eq_some_iff :
    (descriptor index).defect? pool = some fault ↔
      ∃ value, pool.get? index = some (.utf8 value) ∧ MethodDescriptor.parse value = .error fault := by
  simp only [defect?]
  split
  · next value hvalue =>
    cases hparse : MethodDescriptor.parse value with
    | ok found => simp [hvalue, hparse]
    | error own => simp [hvalue, hparse, (MethodDescriptor.parse_eq_error_iff_read?.mp hparse).1]
  · next hother =>
    refine iff_of_false nofun ?_
    intro hvalue
    obtain ⟨value, hvalue, -⟩ := hvalue
    exact hother value hvalue

end SummaryCheck

namespace ClassFile

def attributeChecks (attributes : List Attribute) : List SummaryCheck := attributes.map fun entry => .text entry.name

def fieldChecks (field : Member) : List SummaryCheck :=
  .text field.name :: .text field.descriptor :: attributeChecks field.attributes

def methodChecks (method : Member) : List SummaryCheck :=
  .text method.name :: .text method.descriptor :: .descriptor method.descriptor :: attributeChecks method.attributes

def superChecks (file : ClassFile) : List SummaryCheck :=
  if file.superClass = 0 then [] else [.className file.superClass]

/-- All checks of a summary, in the order in which they are made. -/
def checks (file : ClassFile) : List SummaryCheck :=
  file.fields.flatMap fieldChecks ++ file.methods.flatMap methodChecks ++ [.className file.thisClass] ++
    file.superChecks ++ file.interfaces.map .className ++ attributeChecks file.attributes

end ClassFile

/-- The computation fails exactly if one of the checks does, with the defect that the first such check finds. -/
def Examines {α : Type} (pool : ConstantPool) (outcome : Except Fault α) (checks : List SummaryCheck) : Prop :=
  ∀ fault, outcome = .error fault ↔ checks.findSome? (SummaryCheck.defect? pool) = some fault

namespace Examines

variable {α β : Type} {pool : ConstantPool} {checks more : List SummaryCheck}

theorem ok (value : α) : Examines pool (.ok value) [] := by
  intro fault
  simp

theorem of_defect? {outcome : Except Fault α} {check : SummaryCheck}
    (hdefect : ∀ fault, outcome = .error fault ↔ check.defect? pool = some fault) : Examines pool outcome [check] := by
  intro fault
  simp [hdefect]

/-- All checks of a computation that succeeded pass. -/
theorem findSome?_eq_none {outcome : Except Fault α} {value : α} (hexamines : Examines pool outcome checks)
    (hvalue : outcome = .ok value) : checks.findSome? (SummaryCheck.defect? pool) = none := by
  apply Option.eq_none_iff_forall_ne_some.mpr
  intro fault hfault
  rw [← hexamines fault, hvalue] at hfault
  simp at hfault

/-- A computation succeeds exactly if all of its checks pass. -/
theorem exists_ok_iff {outcome : Except Fault α} (hexamines : Examines pool outcome checks) :
    (∃ value, outcome = .ok value) ↔ ∀ check ∈ checks, check.defect? pool = none := by
  rw [← List.findSome?_eq_none_iff]
  apply Iff.intro
  · intro hvalue
    obtain ⟨value, hvalue⟩ := hvalue
    exact hexamines.findSome?_eq_none hvalue
  · intro hnone
    cases houtcome : outcome with
    | ok value => exact ⟨value, rfl⟩
    | error fault =>
      rw [hexamines fault, hnone] at houtcome
      simp at houtcome

/-- What comes second is examined only if the first part has passed, so its checks come second. -/
theorem bind {first : Except Fault α} {next : α → Except Fault β} (hfirst : Examines pool first checks)
    (hnext : ∀ value, first = .ok value → Examines pool (next value) more) :
    Examines pool (first >>= next) (checks ++ more) := by
  intro fault
  rw [List.findSome?_append]
  cases hvalue : first with
  | error own =>
    rw [(hfirst own).mp hvalue, Option.some_or, Option.some.injEq]
    change (Except.error own : Except Fault β) = .error fault ↔ own = fault
    rw [Except.error.injEq]
  | ok value =>
    rw [hfirst.findSome?_eq_none hvalue, Option.none_or]
    exact hnext value hvalue fault

theorem bind_ok {first : Except Fault α} {make : α → β} (hfirst : Examines pool first checks) :
    Examines pool (first >>= fun value => .ok (make value)) checks := by
  have hwhole := hfirst.bind fun value _ => ok (make value)
  rwa [List.append_nil] at hwhole

theorem mapM {step : α → Except Fault β} {checksOf : α → List SummaryCheck}
    (hstep : ∀ item, Examines pool (step item) (checksOf item)) (items : List α) :
    Examines pool (items.mapM step) (items.flatMap checksOf) := by
  induction items with
  | nil => exact ok []
  | cons item items ih =>
    rw [List.mapM_cons, List.flatMap_cons]
    apply (hstep item).bind
    intro first _
    exact ih.bind_ok

theorem utf8 (pool : ConstantPool) (index : UInt16) : Examines pool (pool.utf8 index) [.text index] := by
  apply of_defect?
  intro fault
  rw [ConstantPool.utf8_eq_error_iff, SummaryCheck.defect?_text_eq_some_iff]

theorem className (pool : ConstantPool) (index : UInt16) :
    Examines pool (pool.className index) [.className index] := by
  apply of_defect?
  intro fault
  simp only [ConstantPool.className_eq_error_iff, SummaryCheck.defect?_className_eq_some_iff,
    SummaryCheck.defect?_text_eq_some_iff]

/-- The form of a descriptor is the question behind the one for its text. -/
theorem parse {index : UInt16} {value : String} (hvalue : pool.utf8 index = .ok value) :
    Examines pool (MethodDescriptor.parse value) [.descriptor index] := by
  apply of_defect?
  intro fault
  rw [ConstantPool.utf8_eq_ok_iff] at hvalue
  simp [SummaryCheck.defect?_descriptor_eq_some_iff, hvalue]

end Examines

namespace ClassFile

variable (file : ClassFile)

theorem examines_attributeNames (attributes : List Attribute) :
    Examines file.pool (file.attributeNames attributes) (attributeChecks attributes) := by
  rw [attributeChecks, List.map_eq_flatMap]
  exact .mapM (fun entry => .utf8 file.pool entry.name) attributes

theorem examines_interfaceNames : Examines file.pool file.interfaceNames (file.interfaces.map .className) := by
  rw [List.map_eq_flatMap]
  exact .mapM (.className file.pool) file.interfaces

theorem examines_fieldSummary (field : Member) :
    Examines file.pool (file.fieldSummary field) (fieldChecks field) := by
  apply (Examines.utf8 file.pool field.name).bind
  intro name _
  apply (Examines.utf8 file.pool field.descriptor).bind
  intro descriptor _
  exact (examines_attributeNames file field.attributes).bind_ok

theorem examines_methodSummary (method : Member) :
    Examines file.pool (file.methodSummary method) (methodChecks method) := by
  apply (Examines.utf8 file.pool method.name).bind
  intro name _
  apply (Examines.utf8 file.pool method.descriptor).bind
  intro descriptor hdescriptor
  apply (Examines.parse hdescriptor).bind_ok.bind
  intro slots _
  exact (examines_attributeNames file method.attributes).bind_ok

theorem examines_superClassName : Examines file.pool file.superClassName file.superChecks := by
  unfold superClassName superChecks
  split
  · exact .ok none
  · rw [map_eq_bind_pure]
    exact (Examines.className file.pool file.superClass).bind_ok

/-- A summary makes its checks in order and stops at the first that fails. -/
theorem examines_summary : Examines file.pool file.summary file.checks := by
  simp only [checks, List.append_assoc]
  apply (Examines.mapM (examines_fieldSummary file) file.fields).bind
  intro fields _
  apply (Examines.mapM (examines_methodSummary file) file.methods).bind
  intro methods _
  apply (Examines.className file.pool file.thisClass).bind
  intro name _
  apply (examines_superClassName file).bind
  intro superName _
  apply (examines_interfaceNames file).bind
  intro interfaces _
  exact (examines_attributeNames file file.attributes).bind_ok

end ClassFile

/-! ### Resolved classes -/

namespace ConstantPool

/-- The index leads to this text. -/
def IsText (pool : ConstantPool) (index : UInt16) (value : String) : Prop := pool.get? index = some (.utf8 value)

/-- The index leads to a class entry and on to this text. -/
def IsClassName (pool : ConstantPool) (index : UInt16) (value : String) : Prop :=
  ∃ name, pool.get? index = some (.classRef name) ∧ pool.IsText name value

/-- The names of the attributes, position by position. -/
def AreNames (pool : ConstantPool) (attributes : List Attribute) (names : List String) : Prop :=
  List.Forall₂ (fun entry name => pool.IsText entry.name name) attributes names

end ConstantPool

/-- The summary has the texts and flags of the member, which belongs to an owner of the given kind. -/
structure Member.Resolved (pool : ConstantPool) (owner : FlagOwner) (member : Member) (summary : MemberSummary) :
    Prop where
  name : pool.IsText member.name summary.name
  descriptor : pool.IsText member.descriptor summary.descriptor
  access : summary.access = member.access.names owner
  attributes : pool.AreNames member.attributes summary.attributes

/-- All texts of the member are there. -/
structure Member.Resolvable (pool : ConstantPool) (member : Member) : Prop where
  name : ∃ value, pool.IsText member.name value
  descriptor : ∃ value, pool.IsText member.descriptor value
  attributes : ∀ entry ∈ member.attributes, ∃ value, pool.IsText entry.name value

namespace ClassFile

/-- The summary is the class with all indices followed: every list has an element for each of the original, in its
place, only methods have argument slots, and the pool lists the usable slots in order. -/
structure Resolved (file : ClassFile) (summary : ClassSummary) : Prop where
  name : file.pool.IsClassName file.thisClass summary.name
  superName : file.superClass = 0 ∧ summary.superName = none ∨
    file.superClass ≠ 0 ∧ ∃ value, file.pool.IsClassName file.superClass value ∧ summary.superName = some value
  version : summary.version = s!"{file.majorVersion}.{file.minorVersion}"
  access : summary.access = file.access.names .classFile
  interfaces : List.Forall₂ file.pool.IsClassName file.interfaces summary.interfaces
  fields : List.Forall₂ (fun field resolved => field.Resolved file.pool .field resolved ∧ resolved.argumentSlots = none)
    file.fields summary.fields
  methods : List.Forall₂ (fun method resolved => method.Resolved file.pool .method resolved ∧
      ∃ slots, argumentSlots resolved.descriptor method.access.isStatic = .ok slots ∧ resolved.argumentSlots = some slots)
    file.methods summary.methods
  attributes : file.pool.AreNames file.attributes summary.attributes
  pool : summary.pool = (ConstantPool.listing file.pool.slots.toList 1).map fun entry => ⟨entry.1, entry.2⟩

/-- Everything that a summary follows leads somewhere, and the descriptors of methods are method descriptors. -/
structure Resolvable (file : ClassFile) : Prop where
  fields : ∀ field ∈ file.fields, field.Resolvable file.pool
  methods : ∀ method ∈ file.methods, method.Resolvable file.pool ∧
    ∀ value, file.pool.IsText method.descriptor value → ∃ descriptor, MethodDescriptor.parse value = .ok descriptor
  thisClass : ∃ value, file.pool.IsClassName file.thisClass value
  superClass : file.superClass = 0 ∨ ∃ value, file.pool.IsClassName file.superClass value
  interfaces : ∀ index ∈ file.interfaces, ∃ value, file.pool.IsClassName index value
  attributes : ∀ entry ∈ file.attributes, ∃ value, file.pool.IsText entry.name value

variable {file : ClassFile}

theorem attributeNames_eq_ok_iff {attributes : List Attribute} {names : List String} :
    file.attributeNames attributes = .ok names ↔ file.pool.AreNames attributes names := by
  simp only [attributeNames, mapM_eq_ok_iff, ConstantPool.utf8_eq_ok_iff]
  rfl

theorem interfaceNames_eq_ok_iff {names : List String} :
    file.interfaceNames = .ok names ↔ List.Forall₂ file.pool.IsClassName file.interfaces names := by
  simp only [interfaceNames, mapM_eq_ok_iff, ConstantPool.className_eq_ok_iff]
  rfl

theorem superClassName_eq_ok_iff {superName : Option String} :
    file.superClassName = .ok superName ↔
      file.superClass = 0 ∧ superName = none ∨
        file.superClass ≠ 0 ∧ ∃ value, file.pool.IsClassName file.superClass value ∧ superName = some value := by
  unfold superClassName
  split
  · next hzero => simp [hzero, eq_comm]
  · next hsuper =>
    simp only [map_eq_bind_pure, bind_eq_ok_iff, pure_eq_ok_iff, ConstantPool.className_eq_ok_iff, hsuper, false_and,
      false_or, ne_eq, not_false_eq_true, true_and]
    rfl

theorem fieldSummary_eq_ok_iff {field : Member} {summary : MemberSummary} :
    file.fieldSummary field = .ok summary ↔
      field.Resolved file.pool .field summary ∧ summary.argumentSlots = none := by
  simp only [fieldSummary, memberName, memberDescriptor, bind_eq_ok_iff, pure_eq_ok_iff, ConstantPool.utf8_eq_ok_iff,
    attributeNames_eq_ok_iff]
  apply Iff.intro
  · intro hfield
    obtain ⟨name, hname, descriptor, hdescriptor, attributes, hattributes, rfl⟩ := hfield
    exact ⟨⟨hname, hdescriptor, rfl, hattributes⟩, rfl⟩
  · intro hfield
    obtain ⟨hresolved, hslots⟩ := hfield
    refine ⟨_, hresolved.name, _, hresolved.descriptor, _, hresolved.attributes, ?_⟩
    rw [← hresolved.access, ← hslots]

theorem methodSummary_eq_ok_iff {method : Member} {summary : MemberSummary} :
    file.methodSummary method = .ok summary ↔
      method.Resolved file.pool .method summary ∧ ∃ slots,
        argumentSlots summary.descriptor method.access.isStatic = .ok slots ∧ summary.argumentSlots = some slots := by
  simp only [methodSummary, memberName, memberDescriptor, bind_eq_ok_iff, pure_eq_ok_iff, ConstantPool.utf8_eq_ok_iff,
    attributeNames_eq_ok_iff]
  apply Iff.intro
  · intro hmethod
    obtain ⟨name, hname, descriptor, hdescriptor, slots, hslots, attributes, hattributes, rfl⟩ := hmethod
    exact ⟨⟨hname, hdescriptor, rfl, hattributes⟩, slots, hslots, rfl⟩
  · intro hmethod
    obtain ⟨hresolved, slots, hslots, hown⟩ := hmethod
    refine ⟨_, hresolved.name, _, hresolved.descriptor, slots, hslots, _, hresolved.attributes, ?_⟩
    rw [← hresolved.access, ← hown]

theorem summary_eq_ok_iff {summary : ClassSummary} : file.summary = .ok summary ↔ file.Resolved summary := by
  simp only [ClassFile.summary, bind_eq_ok_iff, pure_eq_ok_iff, mapM_eq_ok_iff, fieldSummary_eq_ok_iff,
    methodSummary_eq_ok_iff, thisClassName, ConstantPool.className_eq_ok_iff, superClassName_eq_ok_iff,
    interfaceNames_eq_ok_iff, attributeNames_eq_ok_iff, ConstantPool.entries_eq_listing]
  apply Iff.intro
  · intro hsummary
    obtain ⟨fields, hfields, methods, hmethods, name, hname, superName, hsuperName, interfaces, hinterfaces, attributes,
      hattributes, rfl⟩ := hsummary
    exact ⟨hname, hsuperName, rfl, rfl, hinterfaces, hfields, hmethods, hattributes, rfl⟩
  · intro hresolved
    refine ⟨_, hresolved.fields, _, hresolved.methods, _, hresolved.name, _, hresolved.superName, _,
      hresolved.interfaces, _, hresolved.attributes, ?_⟩
    rw [← hresolved.version, ← hresolved.access]
    exact congrArg (fun pool => { summary with pool }) hresolved.pool

end ClassFile

/-! ### Resolvable classes -/

namespace SummaryCheck

variable {pool : ConstantPool} {index : UInt16}

theorem defect?_text_eq_none_iff : (text index).defect? pool = none ↔ ∃ value, pool.IsText index value := by
  have hpasses := (Examines.utf8 pool index).exists_ok_iff
  simp only [ConstantPool.utf8_eq_ok_iff, List.mem_singleton, forall_eq] at hpasses
  exact hpasses.symm

theorem defect?_className_eq_none_iff :
    (className index).defect? pool = none ↔ ∃ value, pool.IsClassName index value := by
  have hpasses := (Examines.className pool index).exists_ok_iff
  simp only [ConstantPool.className_eq_ok_iff, List.mem_singleton, forall_eq] at hpasses
  exact hpasses.symm

theorem defect?_descriptor_eq_none_iff :
    (descriptor index).defect? pool = none ↔
      ∀ value, pool.IsText index value → ∃ descriptor, MethodDescriptor.parse value = .ok descriptor := by
  simp only [Option.eq_none_iff_forall_ne_some, ne_eq, defect?_descriptor_eq_some_iff, not_exists, not_and]
  apply Iff.intro
  · intro hnone value hvalue
    cases hparse : MethodDescriptor.parse value with
    | ok found => exact ⟨found, rfl⟩
    | error fault => exact absurd hparse (hnone fault value hvalue)
  · intro hparses fault value hvalue hparse
    obtain ⟨found, hfound⟩ := hparses value hvalue
    rw [hfound] at hparse
    simp at hparse

end SummaryCheck

namespace ClassFile

variable {file : ClassFile}

theorem forall_fieldChecks_iff {pool : ConstantPool} {field : Member} :
    (∀ check ∈ fieldChecks field, check.defect? pool = none) ↔ field.Resolvable pool := by
  simp only [fieldChecks, attributeChecks, List.forall_mem_cons, List.forall_mem_map,
    SummaryCheck.defect?_text_eq_none_iff]
  exact ⟨fun hfield => ⟨hfield.1, hfield.2.1, hfield.2.2⟩, fun hfield => ⟨hfield.name, hfield.descriptor, hfield.attributes⟩⟩

theorem forall_methodChecks_iff {pool : ConstantPool} {method : Member} :
    (∀ check ∈ methodChecks method, check.defect? pool = none) ↔
      method.Resolvable pool ∧
        ∀ value, pool.IsText method.descriptor value → ∃ descriptor, MethodDescriptor.parse value = .ok descriptor := by
  rw [← forall_fieldChecks_iff, ← SummaryCheck.defect?_descriptor_eq_none_iff]
  simp only [methodChecks, fieldChecks, List.forall_mem_cons]
  tauto

theorem forall_superChecks_iff :
    (∀ check ∈ file.superChecks, check.defect? file.pool = none) ↔
      file.superClass = 0 ∨ ∃ value, file.pool.IsClassName file.superClass value := by
  unfold superChecks
  split
  · next hzero => simp [hzero]
  · next hsuper => simp [hsuper, SummaryCheck.defect?_className_eq_none_iff]

theorem forall_checks_iff : (∀ check ∈ file.checks, check.defect? file.pool = none) ↔ file.Resolvable := by
  simp only [checks, List.forall_mem_append, List.forall_mem_flatMap, forall_fieldChecks_iff, forall_methodChecks_iff,
    List.forall_mem_singleton, forall_superChecks_iff, List.forall_mem_map, attributeChecks,
    SummaryCheck.defect?_text_eq_none_iff, SummaryCheck.defect?_className_eq_none_iff]
  apply Iff.intro
  · intro hpasses
    obtain ⟨⟨⟨⟨⟨hfields, hmethods⟩, hthis⟩, hsuper⟩, hinterfaces⟩, hattributes⟩ := hpasses
    exact ⟨hfields, hmethods, hthis, hsuper, hinterfaces, hattributes⟩
  · intro hfile
    exact ⟨⟨⟨⟨⟨hfile.fields, hfile.methods⟩, hfile.thisClass⟩, hfile.superClass⟩, hfile.interfaces⟩, hfile.attributes⟩

/-- In a pool that indices can address, the listed entries ascend and are what look-ups find. -/
theorem Resolved.pool_ordered {summary : ClassSummary} (hresolved : file.Resolved summary)
    (hsize : file.pool.size ≤ 65535) :
    summary.pool.Pairwise (fun earlier later => earlier.index < later.index) ∧
      ∀ entry, entry ∈ summary.pool ↔
        file.pool.get? entry.index = some entry.constant ∧ entry.constant ≠ .unusable := by
  rw [hresolved.pool, ← ConstantPool.entries_eq_listing]
  refine ⟨List.pairwise_map.mpr (ConstantPool.pairwise_entries hsize), fun entry => ?_⟩
  rw [← ConstantPool.mem_entries_iff hsize, List.mem_map]
  apply Iff.intro
  · intro hentry
    obtain ⟨pair, hpair, rfl⟩ := hentry
    exact hpair
  · intro hentry
    exact ⟨(entry.index, entry.constant), hentry, rfl⟩

/-- A class has a summary exactly if everything that the summary follows leads somewhere. The summary is then the class
resolved position by position, with the usable slots in the order of their indices; and otherwise it fails with the defect
of the first check that fails, in the order of `checks`. -/
theorem summary_verdict (file : ClassFile) :
    ((∃ summary, file.summary = .ok summary) ↔ file.Resolvable) ∧
    (∀ summary, file.summary = .ok summary ↔ file.Resolved summary) ∧
    (∀ summary, file.summary = .ok summary → file.pool.size ≤ 65535 →
      summary.pool.Pairwise (fun earlier later => earlier.index < later.index) ∧
        ∀ entry, entry ∈ summary.pool ↔
          file.pool.get? entry.index = some entry.constant ∧ entry.constant ≠ .unusable) ∧
    ∀ fault, file.summary = .error fault ↔ file.checks.findSome? (SummaryCheck.defect? file.pool) = some fault := by
  refine ⟨?_, fun summary => summary_eq_ok_iff, ?_, examines_summary file⟩
  · rw [(examines_summary file).exists_ok_iff, forall_checks_iff]
  · intro summary hsummary
    exact (summary_eq_ok_iff.mp hsummary).pool_ordered

end ClassFile

end ClassInspect
