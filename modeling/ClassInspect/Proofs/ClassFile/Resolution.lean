import ClassInspect.Proofs.ClassFile.Summary

/-!
# Where a look-up leads and what it blames

A look-up follows links from slot to slot. What it should find is said here by predicates on the slots alone, and what
it should complain about by `ConstantPool.FirstBroken`, with one rule for each link of a chain: the links in front of the
broken one are intact, and the slot behind it has no entry of the kind that the fault names. Nothing is assumed of the
pool, in which links may lead nowhere, to entries of another kind or in circles.
-/

namespace ClassInspect

/-- The names of the kinds of constant that meet an expectation. -/
def Expected.kindNames : Expected → List String
  | memberReference => ["Fieldref", "Methodref", "InterfaceMethodref"]
  | twoSlots => ["Long", "Double"]
  | kind => [kind.text]

namespace ConstantPool

/-- The slot has an entry of the expected kind. -/
def Holds (pool : ConstantPool) (index : UInt16) (kind : Expected) : Prop :=
  ∃ constant, pool.get? index = some constant ∧ constant.kindName ∈ kind.kindNames

/-- The slot refers to a field or a method of the owner. -/
def Refers (pool : ConstantPool) (index owner member : UInt16) : Prop :=
  pool.get? index = some (.fieldRef owner member) ∨ pool.get? index = some (.methodRef owner member) ∨
    pool.get? index = some (.interfaceMethodRef owner member)

/-- The index leads to an entry for this name and this descriptor. -/
def IsNameAndType (pool : ConstantPool) (index : UInt16) (value : String × String) : Prop :=
  ∃ name descriptor, pool.get? index = some (.nameAndType name descriptor) ∧ pool.IsText name value.1 ∧
    pool.IsText descriptor value.2

/-- The index leads to a reference to this member. -/
def IsMember (pool : ConstantPool) (index : UInt16) (value : MemberRef) : Prop :=
  ∃ owner member, pool.Refers index owner member ∧ pool.IsClassName owner value.className ∧
    pool.IsNameAndType member (value.name, value.descriptor)

/-- On the way from an index that should lead to an entry of a kind, the first link that is broken is the one to
this slot, which has no entry of the kind needed there. -/
inductive FirstBroken (pool : ConstantPool) : Expected → UInt16 → UInt16 → Expected → Prop
  | here {kind : Expected} {index : UInt16} (hbroken : ¬ pool.Holds index kind) : FirstBroken pool kind index index kind
  | className {index name slot : UInt16} {kind : Expected} (hentry : pool.get? index = some (.classRef name))
      (hname : FirstBroken pool .utf8 name slot kind) : FirstBroken pool .classEntry index slot kind
  | name {index name descriptor slot : UInt16} {kind : Expected}
      (hentry : pool.get? index = some (.nameAndType name descriptor))
      (hname : FirstBroken pool .utf8 name slot kind) : FirstBroken pool .nameAndType index slot kind
  | descriptor {index name descriptor slot : UInt16} {kind : Expected} {value : String}
      (hentry : pool.get? index = some (.nameAndType name descriptor)) (hname : pool.IsText name value)
      (hdescriptor : FirstBroken pool .utf8 descriptor slot kind) : FirstBroken pool .nameAndType index slot kind
  | owner {index owner member slot : UInt16} {kind : Expected} (hentry : pool.Refers index owner member)
      (howner : FirstBroken pool .classEntry owner slot kind) : FirstBroken pool .memberReference index slot kind
  | member {index owner member slot : UInt16} {kind : Expected} {value : String}
      (hentry : pool.Refers index owner member) (howner : pool.IsClassName owner value)
      (hmember : FirstBroken pool .nameAndType member slot kind) : FirstBroken pool .memberReference index slot kind

/-- The outcome of a look-up from an index: a value exactly if the index leads to it, and otherwise the fault that names
the first broken link. -/
structure Verdict {α : Type} (pool : ConstantPool) (kind : Expected) (index : UInt16) (Leads : α → Prop)
    (outcome : Except Fault α) : Prop where
  ok : ∀ value, outcome = .ok value ↔ Leads value
  error : ∀ fault, outcome = .error fault ↔
    ∃ slot expected, pool.FirstBroken kind index slot expected ∧ fault = .invalidIndex slot expected

/-! ### Entries by their kinds -/

variable {pool : ConstantPool} {index owner member name descriptor slot : UInt16} {kind expected : Expected}

theorem holds_utf8_iff : pool.Holds index .utf8 ↔ ∃ value, pool.IsText index value := by
  have hkind (constant : Constant) :
      constant.kindName ∈ Expected.utf8.kindNames ↔ ∃ value, .utf8 value = constant := by
    cases constant <;> simp [Expected.kindNames, Expected.text, Constant.kindName]
  simp [Holds, hkind, IsText]

theorem holds_classEntry_iff : pool.Holds index .classEntry ↔ ∃ name, pool.get? index = some (.classRef name) := by
  have hkind (constant : Constant) :
      constant.kindName ∈ Expected.classEntry.kindNames ↔ ∃ name, .classRef name = constant := by
    cases constant <;> simp [Expected.kindNames, Expected.text, Constant.kindName]
  simp [Holds, hkind]

theorem holds_nameAndType_iff :
    pool.Holds index .nameAndType ↔ ∃ name descriptor, pool.get? index = some (.nameAndType name descriptor) := by
  have hkind (constant : Constant) :
      constant.kindName ∈ Expected.nameAndType.kindNames ↔ ∃ name descriptor, .nameAndType name descriptor = constant := by
    cases constant <;> simp [Expected.kindNames, Expected.text, Constant.kindName]
  simp [Holds, hkind]

theorem refers_iff : pool.Refers index owner member ↔ (pool.get? index).bind Constant.memberLinks = some (owner, member) := by
  have hlinks (constant : Constant) : constant.memberLinks = some (owner, member) ↔
      .fieldRef owner member = constant ∨ .methodRef owner member = constant ∨
        .interfaceMethodRef owner member = constant := by
    cases constant <;> simp [Constant.memberLinks, eq_comm]
  simp [Refers, Option.bind_eq_some_iff, hlinks, and_or_left, exists_or]

theorem Refers.inj {otherOwner otherMember : UInt16} (hrefers : pool.Refers index owner member)
    (hother : pool.Refers index otherOwner otherMember) : owner = otherOwner ∧ member = otherMember := by
  rw [refers_iff] at hrefers hother
  rw [hrefers, Option.some.injEq, Prod.mk.injEq] at hother
  exact hother

theorem holds_memberReference_iff :
    pool.Holds index .memberReference ↔ ∃ owner member, pool.Refers index owner member := by
  have hkind (constant : Constant) : constant.kindName ∈ Expected.memberReference.kindNames ↔
      ∃ owner member, constant.memberLinks = some (owner, member) := by
    cases constant <;> simp [Expected.kindNames, Constant.kindName, Constant.memberLinks]
  simp only [Holds, hkind, refers_iff, Option.bind_eq_some_iff]
  apply Iff.intro
  · intro hholds
    obtain ⟨constant, hconstant, owner, member, hlinks⟩ := hholds
    exact ⟨owner, member, constant, hconstant, hlinks⟩
  · intro hrefers
    obtain ⟨owner, member, constant, hconstant, hlinks⟩ := hrefers
    exact ⟨constant, hconstant, owner, member, hlinks⟩

theorem IsClassName.holds {value : String} (hvalue : pool.IsClassName index value) : pool.Holds index .classEntry := by
  obtain ⟨name, hentry, -⟩ := hvalue
  exact holds_classEntry_iff.mpr ⟨name, hentry⟩

theorem IsNameAndType.holds {value : String × String} (hvalue : pool.IsNameAndType index value) :
    pool.Holds index .nameAndType := by
  obtain ⟨name, descriptor, hentry, -⟩ := hvalue
  exact holds_nameAndType_iff.mpr ⟨name, descriptor, hentry⟩

theorem IsMember.holds {value : MemberRef} (hvalue : pool.IsMember index value) :
    pool.Holds index .memberReference := by
  obtain ⟨owner, member, hentry, -⟩ := hvalue
  exact holds_memberReference_iff.mpr ⟨owner, member, hentry⟩

/-! ### The first broken link -/

theorem FirstBroken.not_holds (hbroken : pool.FirstBroken kind index slot expected) : ¬ pool.Holds slot expected := by
  induction hbroken with
  | here hbroken => exact hbroken
  | className _ _ ih => exact ih
  | name _ _ ih => exact ih
  | descriptor _ _ _ ih => exact ih
  | owner _ _ ih => exact ih
  | member _ _ _ ih => exact ih

/-- Where the first slot has no entry of its kind, nothing else is blamed. -/
theorem firstBroken_iff_of_not_holds (hown : ¬ pool.Holds index kind) :
    pool.FirstBroken kind index slot expected ↔ slot = index ∧ expected = kind := by
  apply Iff.intro
  · intro hbroken
    cases hbroken with
    | here _ => exact ⟨rfl, rfl⟩
    | className hentry _ => exact absurd (holds_classEntry_iff.mpr ⟨_, hentry⟩) hown
    | name hentry _ => exact absurd (holds_nameAndType_iff.mpr ⟨_, _, hentry⟩) hown
    | descriptor hentry _ _ => exact absurd (holds_nameAndType_iff.mpr ⟨_, _, hentry⟩) hown
    | owner hentry _ => exact absurd (holds_memberReference_iff.mpr ⟨_, _, hentry⟩) hown
    | member hentry _ _ => exact absurd (holds_memberReference_iff.mpr ⟨_, _, hentry⟩) hown
  · intro hslot
    obtain ⟨rfl, rfl⟩ := hslot
    exact .here hown

theorem firstBroken_utf8_iff : pool.FirstBroken .utf8 index slot expected ↔
    ¬ pool.Holds index .utf8 ∧ slot = index ∧ expected = .utf8 := by
  apply Iff.intro
  · intro hbroken
    cases hbroken with
    | here hown => exact ⟨hown, rfl, rfl⟩
  · intro hslot
    exact (firstBroken_iff_of_not_holds hslot.1).mpr hslot.2

theorem firstBroken_classEntry_iff (hentry : pool.get? index = some (.classRef name)) :
    pool.FirstBroken .classEntry index slot expected ↔ pool.FirstBroken .utf8 name slot expected := by
  apply Iff.intro
  · intro hbroken
    cases hbroken with
    | here hown => exact absurd (holds_classEntry_iff.mpr ⟨_, hentry⟩) hown
    | className hother hname =>
      rw [hentry] at hother
      cases hother
      exact hname
  · exact .className hentry

theorem firstBroken_nameAndType_iff (hentry : pool.get? index = some (.nameAndType name descriptor)) :
    pool.FirstBroken .nameAndType index slot expected ↔
      pool.FirstBroken .utf8 name slot expected ∨
        ∃ value, pool.IsText name value ∧ pool.FirstBroken .utf8 descriptor slot expected := by
  apply Iff.intro
  · intro hbroken
    cases hbroken with
    | here hown => exact absurd (holds_nameAndType_iff.mpr ⟨_, _, hentry⟩) hown
    | name hother hname =>
      rw [hentry] at hother
      cases hother
      exact .inl hname
    | descriptor hother hname hdescriptor =>
      rw [hentry] at hother
      cases hother
      exact .inr ⟨_, hname, hdescriptor⟩
  · intro hbroken
    obtain hname | ⟨value, hname, hdescriptor⟩ := hbroken
    · exact .name hentry hname
    · exact .descriptor hentry hname hdescriptor

theorem firstBroken_memberReference_iff (hentry : pool.Refers index owner member) :
    pool.FirstBroken .memberReference index slot expected ↔
      pool.FirstBroken .classEntry owner slot expected ∨
        ∃ value, pool.IsClassName owner value ∧ pool.FirstBroken .nameAndType member slot expected := by
  apply Iff.intro
  · intro hbroken
    cases hbroken with
    | here hown => exact absurd (holds_memberReference_iff.mpr ⟨_, _, hentry⟩) hown
    | owner hother howner =>
      obtain ⟨rfl, rfl⟩ := hentry.inj hother
      exact .inl howner
    | member hother howner hmember =>
      obtain ⟨rfl, rfl⟩ := hentry.inj hother
      exact .inr ⟨_, howner, hmember⟩
  · intro hbroken
    obtain howner | ⟨value, howner, hmember⟩ := hbroken
    · exact .owner hentry howner
    · exact .member hentry howner hmember

/-! ### Look-ups -/

namespace Verdict

variable {α β γ : Type} {Leads : α → Prop} {Continues : β → Prop} {LeadsBoth : γ → Prop} {first : Except Fault α}
  {second : Except Fault β} {start further : UInt16} {startKind furtherKind : Expected}

/-- A look-up whose own slot has no entry of its kind blames this slot. -/
theorem of_not_holds (hown : ¬ pool.Holds index kind) (hleads : ∀ value, ¬ Leads value) :
    pool.Verdict kind index Leads (.error (.invalidIndex index kind)) := by
  refine ⟨fun value => iff_of_false nofun (hleads value), fun fault => ?_⟩
  simp [firstBroken_iff_of_not_holds hown, eq_comm]

/-- A look-up that only passes on to another slot. -/
theorem of_start (hfirst : pool.Verdict startKind start Leads first) {LeadsOn : α → Prop}
    (hleads : ∀ value, LeadsOn value ↔ Leads value)
    (hbroken : ∀ slot expected,
      pool.FirstBroken kind index slot expected ↔ pool.FirstBroken startKind start slot expected) :
    pool.Verdict kind index LeadsOn first := by
  refine ⟨fun value => (hfirst.ok value).trans (hleads value).symm, fun fault => ?_⟩
  simp only [hbroken]
  exact hfirst.error fault

/-- A look-up that needs two others, the second only if the first succeeds. -/
theorem of_both (hfirst : pool.Verdict startKind start Leads first)
    (hsecond : pool.Verdict furtherKind further Continues second) (make : α → β → γ)
    (hleads : ∀ value, LeadsBoth value ↔ ∃ a b, Leads a ∧ Continues b ∧ value = make a b)
    (hbroken : ∀ slot expected, pool.FirstBroken kind index slot expected ↔
      pool.FirstBroken startKind start slot expected ∨
        ∃ a, Leads a ∧ pool.FirstBroken furtherKind further slot expected) :
    pool.Verdict kind index LeadsBoth (first >>= fun a => second >>= fun b => pure (make a b)) := by
  refine ⟨fun value => ?_, fun fault => ?_⟩
  · simp only [bind_eq_ok_iff, pure_eq_ok_iff, hfirst.ok, hsecond.ok, hleads, exists_and_left]
  · have hmade : ∀ a b, (pure (make a b) : Except Fault γ) ≠ .error fault := fun a b => nofun
    simp only [bind_eq_error_iff, hfirst.ok, hfirst.error, hsecond.error, hbroken, hmade, and_false, exists_false, or_false]
    apply Iff.intro
    · intro hfault
      obtain ⟨slot, expected, hslot, hfault⟩ | ⟨a, ha, slot, expected, hslot, hfault⟩ := hfault
      · exact ⟨slot, expected, .inl hslot, hfault⟩
      · exact ⟨slot, expected, .inr ⟨a, ha, hslot⟩, hfault⟩
    · intro hfault
      obtain ⟨slot, expected, hslot | ⟨a, ha, hslot⟩, hfault⟩ := hfault
      · exact .inl ⟨slot, expected, hslot, hfault⟩
      · exact .inr ⟨a, ha, slot, expected, hslot, hfault⟩

end Verdict

theorem verdict_utf8 (pool : ConstantPool) (index : UInt16) :
    pool.Verdict .utf8 index (pool.IsText index) (pool.utf8 index) := by
  refine ⟨fun value => utf8_eq_ok_iff, fun fault => ?_⟩
  simp only [utf8_eq_error_iff, firstBroken_utf8_iff, holds_utf8_iff, not_exists]
  apply Iff.intro
  · intro hfault
    exact ⟨index, .utf8, ⟨hfault.2, rfl, rfl⟩, hfault.1⟩
  · intro hbroken
    obtain ⟨slot, expected, ⟨hnone, rfl, rfl⟩, rfl⟩ := hbroken
    exact ⟨rfl, hnone⟩

theorem verdict_className (pool : ConstantPool) (index : UInt16) :
    pool.Verdict .classEntry index (pool.IsClassName index) (pool.className index) := by
  by_cases hown : pool.Holds index .classEntry
  · obtain ⟨name, hentry⟩ := holds_classEntry_iff.mp hown
    have hlookup : pool.className index = pool.utf8 name := by
      rw [className, hentry]
    rw [hlookup]
    apply (verdict_utf8 pool name).of_start
    · intro value
      simp [IsClassName, hentry]
    · intro slot expected
      exact firstBroken_classEntry_iff hentry
  · have hlookup : pool.className index = .error (.invalidIndex index .classEntry) := by
      rw [holds_classEntry_iff, not_exists] at hown
      exact className_eq_error_iff.mpr (.inl ⟨rfl, hown⟩)
    rw [hlookup]
    exact .of_not_holds hown fun value hvalue => hown hvalue.holds

theorem verdict_nameAndType (pool : ConstantPool) (index : UInt16) :
    pool.Verdict .nameAndType index (pool.IsNameAndType index) (pool.nameAndType index) := by
  by_cases hown : pool.Holds index .nameAndType
  · obtain ⟨name, descriptor, hentry⟩ := holds_nameAndType_iff.mp hown
    rw [nameAndType, hentry]
    apply (verdict_utf8 pool name).of_both (verdict_utf8 pool descriptor) Prod.mk
    · intro value
      simp [IsNameAndType, hentry, Prod.ext_iff]
    · intro slot expected
      exact firstBroken_nameAndType_iff hentry
  · have hlookup : pool.nameAndType index = .error (.invalidIndex index .nameAndType) := by
      unfold nameAndType
      split
      · next hentry => exact absurd (holds_nameAndType_iff.mpr ⟨_, _, hentry⟩) hown
      · rfl
    rw [hlookup]
    exact .of_not_holds hown fun value hvalue => hown hvalue.holds

theorem verdict_memberRef (pool : ConstantPool) (index : UInt16) :
    pool.Verdict .memberReference index (pool.IsMember index) (pool.memberRef index) := by
  by_cases hown : pool.Holds index .memberReference
  · obtain ⟨owner, member, hentry⟩ := holds_memberReference_iff.mp hown
    rw [memberRef, refers_iff.mp hentry]
    apply (verdict_className pool owner).of_both (verdict_nameAndType pool member) fun className named =>
      MemberRef.mk className named.1 named.2
    · intro value
      apply Iff.intro
      · intro hvalue
        obtain ⟨_, _, hother, howner, hmember⟩ := hvalue
        obtain ⟨rfl, rfl⟩ := hentry.inj hother
        exact ⟨_, _, howner, hmember, rfl⟩
      · intro hvalue
        obtain ⟨className, named, howner, hmember, rfl⟩ := hvalue
        exact ⟨owner, member, hentry, howner, hmember⟩
    · intro slot expected
      exact firstBroken_memberReference_iff hentry
  · have hlookup : pool.memberRef index = .error (.invalidIndex index .memberReference) := by
      unfold memberRef
      split
      · next hlinks => exact absurd (holds_memberReference_iff.mpr ⟨_, _, refers_iff.mpr hlinks⟩) hown
      · rfl
    rw [hlookup]
    exact .of_not_holds hown fun value hvalue => hown hvalue.holds

/-! ### Descriptions -/

theorem describe_of_classRef (hentry : pool.get? index = some (.classRef name)) :
    pool.describe index = (pool.className index).toOption.map fun value => value := by
  rw [describe, hentry]
  exact Option.map_id'.symm

theorem describe_of_refers (hentry : pool.Refers index owner member) :
    pool.describe index = (pool.memberRef index).toOption.map fun value =>
      value.className ++ "." ++ value.name ++ ":" ++ value.descriptor := by
  obtain hfield | hmethod | hinterface := hentry
  · rw [describe, hfield]
    rfl
  · rw [describe, hmethod]
    rfl
  · rw [describe, hinterface]
    rfl

theorem describe_of_nameAndType (hentry : pool.get? index = some (.nameAndType name descriptor)) :
    pool.describe index = (pool.nameAndType index).toOption.map fun value => value.1 ++ ":" ++ value.2 := by
  rw [describe, hentry]
  rfl

/-- An entry whose description is the outcome of its own look-up is described exactly if that look-up succeeds. -/
theorem Verdict.described_iff {α : Type} {Leads : α → Prop} {outcome : Except Fault α} {render : α → String}
    {text : String} (hverdict : pool.Verdict kind index Leads outcome)
    (hholds : ∀ value, Leads value → pool.Holds index kind)
    (hdescribe : pool.Holds index kind → pool.describe index = outcome.toOption.map render) :
    pool.Holds index kind ∧ pool.describe index = some text ↔ ∃ value, outcome = .ok value ∧ text = render value := by
  apply Iff.intro
  · intro hdescribed
    rw [hdescribe hdescribed.1, Option.map_eq_some_iff] at hdescribed
    obtain ⟨-, value, hvalue, htext⟩ := hdescribed
    exact ⟨value, toOption_eq_some_iff.mp hvalue, htext.symm⟩
  · intro hlookup
    obtain ⟨value, hvalue, htext⟩ := hlookup
    have hown := hholds value ((hverdict.ok value).mp hvalue)
    rw [hdescribe hown, toOption_eq_some_iff.mpr hvalue, htext]
    exact ⟨hown, rfl⟩

variable {text : String}

theorem describe_classEntry_iff :
    pool.Holds index .classEntry ∧ pool.describe index = some text ↔
      ∃ value, pool.className index = .ok value ∧ text = value := by
  apply (verdict_className pool index).described_iff fun value => IsClassName.holds
  intro hholds
  obtain ⟨name, hentry⟩ := holds_classEntry_iff.mp hholds
  exact describe_of_classRef hentry

theorem describe_memberReference_iff :
    pool.Holds index .memberReference ∧ pool.describe index = some text ↔
      ∃ value, pool.memberRef index = .ok value ∧
        text = value.className ++ "." ++ value.name ++ ":" ++ value.descriptor := by
  apply (verdict_memberRef pool index).described_iff fun value => IsMember.holds
  intro hholds
  obtain ⟨owner, member, hentry⟩ := holds_memberReference_iff.mp hholds
  exact describe_of_refers hentry

theorem describe_nameAndType_iff :
    pool.Holds index .nameAndType ∧ pool.describe index = some text ↔
      ∃ value, pool.nameAndType index = .ok value ∧ text = value.1 ++ ":" ++ value.2 := by
  apply (verdict_nameAndType pool index).described_iff fun value => IsNameAndType.holds
  intro hholds
  obtain ⟨name, descriptor, hentry⟩ := holds_nameAndType_iff.mp hholds
  exact describe_of_nameAndType hentry

/-- In any pool, index zero leads nowhere and every other index to the slot with this number. A look-up from an index
gives exactly what the index leads to, and otherwise names the first broken link, whose slot really has no entry of the
kind that the fault names. The description of an entry that links to others is there exactly if its look-up succeeds,
and is made of the texts found. -/
theorem lookups_exact (pool : ConstantPool) (index : UInt16) :
    (∀ slot constant, pool.get? slot = some constant ↔ slot ≠ 0 ∧ pool.slots[slot.toNat - 1]? = some constant) ∧
    (pool.Verdict .memberReference index (pool.IsMember index) (pool.memberRef index) ∧
      pool.Verdict .classEntry index (pool.IsClassName index) (pool.className index) ∧
      pool.Verdict .nameAndType index (pool.IsNameAndType index) (pool.nameAndType index)) ∧
    (∀ kind slot expected, ¬ (pool.FirstBroken kind index slot expected ∧ pool.Holds slot expected)) ∧
    ∀ text,
      (pool.Holds index .classEntry ∧ pool.describe index = some text ↔
        ∃ value, pool.className index = .ok value ∧ text = value) ∧
      (pool.Holds index .memberReference ∧ pool.describe index = some text ↔
        ∃ value, pool.memberRef index = .ok value ∧
          text = value.className ++ "." ++ value.name ++ ":" ++ value.descriptor) ∧
      (pool.Holds index .nameAndType ∧ pool.describe index = some text ↔
        ∃ value, pool.nameAndType index = .ok value ∧ text = value.1 ++ ":" ++ value.2) := by
  refine ⟨fun slot constant => get?_eq_some_iff,
    ⟨verdict_memberRef pool index, verdict_className pool index, verdict_nameAndType pool index⟩, ?_, ?_⟩
  · intro kind slot expected hblamed
    exact hblamed.1.not_holds hblamed.2
  · intro text
    exact ⟨describe_classEntry_iff, describe_memberReference_iff, describe_nameAndType_iff⟩

/-- A class entry that names itself. -/
example : (ConstantPool.mk #[.classRef 1]).className 1 = .error (.invalidIndex 1 .utf8) := by decide

end ConstantPool

end ClassInspect
