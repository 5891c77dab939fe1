import ClassInspect.Proofs.ClassFile.Summary
import ClassInspect.Proofs.Report.Lossless
import ClassInspect.Report.Text

/-!
# Reports that leave out attributes

Names of attributes stand at two places of a summary: with the class and with each field and method. A report as text that
leaves out attributes drops them at both places, so it is the report of the summary without them
(`ClassSummary.withoutAttributes`). A JSON report drops the names of the class only. It writes every field and method in
full, so as long as there are fields and methods in the report, their attributes can be read off it.
-/

namespace ClassInspect

/-! ### Summaries up to names of attributes -/

def MemberSummary.withoutAttributes (member : MemberSummary) : MemberSummary := { member with attributes := [] }

/-- The summary with no names of attributes, neither for the class nor for any of its fields and methods. -/
def ClassSummary.withoutAttributes (summary : ClassSummary) : ClassSummary :=
  { summary with
    fields := summary.fields.map MemberSummary.withoutAttributes
    methods := summary.methods.map MemberSummary.withoutAttributes
    attributes := [] }

/-- The fields and the methods of the two summaries have the same attributes, place by place. -/
structure ClassSummary.SameMemberAttributes (summary other : ClassSummary) : Prop where
  fields : summary.fields.map MemberSummary.attributes = other.fields.map MemberSummary.attributes
  methods : summary.methods.map MemberSummary.attributes = other.methods.map MemberSummary.attributes

theorem MemberSummary.eq_of_withoutAttributes_eq {member other : MemberSummary}
    (hsame : member.withoutAttributes = other.withoutAttributes) (hattributes : member.attributes = other.attributes) :
    member = other := by
  obtain ⟨name, descriptor, access, attributes, slots⟩ := member
  obtain ⟨otherName, otherDescriptor, otherAccess, otherAttributes, otherSlots⟩ := other
  simp only [withoutAttributes, MemberSummary.mk.injEq] at hsame hattributes ⊢
  exact ⟨hsame.1, hsame.2.1, hsame.2.2.1, hattributes, hsame.2.2.2.2⟩

theorem MemberSummary.map_attributes_eq_iff {members others : List MemberSummary}
    (hsame : members.map withoutAttributes = others.map withoutAttributes) :
    members.map attributes = others.map attributes ↔ members = others := by
  refine ⟨fun hattributes => ?_, congrArg _⟩
  induction members generalizing others with
  | nil => exact (List.map_eq_nil_iff.mp hsame.symm).symm
  | cons member members ih =>
      cases others with
      | nil => exact absurd hsame (List.cons_ne_nil _ _)
      | cons other others =>
          simp only [List.map_cons, List.cons.injEq] at hsame hattributes
          rw [eq_of_withoutAttributes_eq hsame.1 hattributes.1, ih hsame.2 hattributes.2]

theorem ClassSummary.sameMemberAttributes_iff {summary other : ClassSummary}
    (hsame : summary.withoutAttributes = other.withoutAttributes) :
    summary.SameMemberAttributes other ↔ summary.fields = other.fields ∧ summary.methods = other.methods := by
  have hfields := MemberSummary.map_attributes_eq_iff (congrArg ClassSummary.fields hsame)
  have hmethods := MemberSummary.map_attributes_eq_iff (congrArg ClassSummary.methods hsame)
  rw [← hfields, ← hmethods]
  exact ⟨fun hattributes => ⟨hattributes.fields, hattributes.methods⟩, fun hattributes => ⟨hattributes.1, hattributes.2⟩⟩

namespace Report

variable {settings : Settings} {summary other : ClassSummary}

/-! ### Text -/

theorem memberLine_withoutAttributes (member : MemberSummary) :
    memberLine false member.withoutAttributes = memberLine false member := rfl

theorem memberLines_withoutAttributes (hhidden : settings.showAttributes = false) (summary : ClassSummary) :
    memberLines summary.withoutAttributes settings = memberLines summary settings := by
  simp only [memberLines, hhidden, ClassSummary.withoutAttributes, List.map_map, Function.comp_def,
    memberLine_withoutAttributes]

theorem text_withoutAttributes (hhidden : settings.showAttributes = false) (pool : ConstantPool) (summary : ClassSummary) :
    text pool summary.withoutAttributes settings = text pool summary settings := by
  have hattributes (summary : ClassSummary) : attributeLines summary settings = [] := by
    simp only [attributeLines, hhidden, Bool.false_and, Bool.false_eq_true, if_false]
  simp only [text, lines, memberLines_withoutAttributes hhidden, hattributes]
  rfl

/-! ### JSON -/

/-- With fields and methods left out as well, no name of an attribute is left. -/
theorem document_withoutAttributes (hhidden : settings.showAttributes = false) (hmembers : settings.showMembers = false)
    (summary : ClassSummary) : document summary.withoutAttributes settings = document summary settings := by
  simp only [document, hhidden, hmembers, Bool.false_eq_true, if_false]
  rfl

/-- Where fields and methods are shown, everything about them is told, their attributes as well. -/
theorem members_eq_of_tree_document_eq (hmembers : settings.showMembers = true)
    (htree : (document summary settings).tree = (document other settings).tree) :
    summary.fields = other.fields ∧ summary.methods = other.methods := by
  -- Which of the other sections stand before the fields makes no difference: they are the same in both reports.
  cases hattributes : settings.showAttributes <;> cases hpool : settings.showPool <;>
    simp only [document, hmembers, hattributes, hpool, Bool.false_eq_true, if_true, if_false, List.append_nil, List.nil_append,
      List.cons_append, Json.tree_object, List.map_cons, Json.Tree.object.injEq, List.cons.injEq, Prod.mk.injEq, true_and,
      tree_members_inj] at htree
  all_goals tauto

/-- The names of the class itself are left out wherever they could stand. -/
theorem document_eq_of_members_eq (hhidden : settings.showAttributes = false)
    (hsame : summary.withoutAttributes = other.withoutAttributes) (hfields : summary.fields = other.fields)
    (hmethods : summary.methods = other.methods) : document summary settings = document other settings := by
  obtain ⟨name, superName, version, access, interfaces, fields, methods, attributes, pool⟩ := summary
  obtain ⟨otherName, otherSuperName, otherVersion, otherAccess, otherInterfaces, otherFields, otherMethods, otherAttributes,
    otherPool⟩ := other
  simp only [ClassSummary.withoutAttributes, ClassSummary.mk.injEq] at hsame hfields hmethods
  obtain ⟨rfl, rfl, rfl, rfl, rfl, -, -, -, rfl⟩ := hsame
  subst hfields hmethods
  simp only [document, hhidden, Bool.false_eq_true, if_false]

theorem json_eq_iff_of_withoutAttributes_eq (hhidden : settings.showAttributes = false)
    (hsame : summary.withoutAttributes = other.withoutAttributes) :
    json summary settings = json other settings ↔ settings.showMembers = false ∨ summary.SameMemberAttributes other := by
  rw [ClassSummary.sameMemberAttributes_iff hsame]
  apply Iff.intro
  · intro hjson
    cases hmembers : settings.showMembers with
    | false => exact .inl rfl
    | true => exact .inr (members_eq_of_tree_document_eq hmembers (Json.pretty_newline_eq_iff.mp hjson))
  · intro hcase
    suffices hdocument : document summary settings = document other settings by rw [json, json, hdocument]
    obtain hmembers | ⟨hfields, hmethods⟩ := hcase
    · rw [← document_withoutAttributes hhidden hmembers summary, hsame, document_withoutAttributes hhidden hmembers other]
    · exact document_eq_of_members_eq hhidden hsame hfields hmethods

/-- Attributes that are left out cannot be told from a report as text. From a JSON report those of the class cannot be told,
and those of its fields and methods exactly if it shows fields and methods. -/
theorem hidden_attributes_told_iff (pool : ConstantPool) (settings : Settings) (summary other : ClassSummary)
    (hhidden : settings.showAttributes = false) (hsame : summary.withoutAttributes = other.withoutAttributes) :
    text pool summary settings = text pool other settings ∧
      (json summary settings = json other settings ↔
        settings.showMembers = false ∨ summary.SameMemberAttributes other) := by
  refine ⟨?_, json_eq_iff_of_withoutAttributes_eq hhidden hsame⟩
  rw [← text_withoutAttributes hhidden pool summary, hsame, text_withoutAttributes hhidden pool other]

/-- A class with one method, `run`. -/
def runnable (attributes : List Attribute) : ClassFile where
  minorVersion := 0
  majorVersion := 52
  pool := ⟨#[.utf8 "A", .classRef 1, .utf8 "run", .utf8 "()V", .utf8 "Code"]⟩
  access := ⟨0x21⟩
  thisClass := 2
  superClass := 0
  interfaces := []
  fields := []
  methods := [⟨⟨1⟩, 3, 4, attributes⟩]
  attributes := []

/-- The summary of `runnable`, by the names of the method's attributes. -/
def runnableSummary (attributes : List String) : ClassSummary where
  name := "A"
  superName := none
  version := "52.0"
  access := ["public", "super"]
  interfaces := []
  fields := []
  methods := [⟨"run", "()V", ["public"], attributes, some 1⟩]
  attributes := []
  pool := [⟨1, .utf8 "A"⟩, ⟨2, .classRef 1⟩, ⟨3, .utf8 "run"⟩, ⟨4, .utf8 "()V"⟩, ⟨5, .utf8 "Code"⟩]

theorem summary_runnable {attributes : List Attribute} {names : List String}
    (hnames : (runnable attributes).pool.AreNames attributes names) :
    (runnable attributes).summary = .ok (runnableSummary names) := by
  have hversion : "52.0" = s!"{(52 : UInt16)}.{(0 : UInt16)}" := by decide
  have hclass : (⟨0x21⟩ : AccessFlags).names .classFile = ["public", "super"] := by decide
  have hmethod : (⟨1⟩ : AccessFlags).names .method = ["public"] := by decide
  have hslots : argumentSlots "()V" (⟨1⟩ : AccessFlags).isStatic = .ok 1 := by cbv
  apply ClassFile.summary_eq_ok_iff.mpr
  refine ⟨⟨1, rfl, rfl⟩, .inl ⟨rfl, rfl⟩, hversion, hclass.symm, .nil, .nil, ?_, .nil, rfl⟩
  exact .cons ⟨⟨rfl, rfl, hmethod.symm, hnames⟩, 1, hslots, rfl⟩ .nil

/-- A method with code and one without are reported alike, unless the report is JSON and shows the method. -/
theorem hidden_attributes_told_iff_runnable :
    (runnableSummary ["Code"]).withoutAttributes = (runnableSummary []).withoutAttributes ∧
      text (runnable []).pool (runnableSummary ["Code"]) ⟨"A.class", .text, true, true, false⟩ =
        text (runnable []).pool (runnableSummary []) ⟨"A.class", .text, true, true, false⟩ ∧
      json (runnableSummary ["Code"]) ⟨"A.class", .json, true, false, false⟩ =
        json (runnableSummary []) ⟨"A.class", .json, true, false, false⟩ := by
  refine ⟨rfl, (hidden_attributes_told_iff _ _ _ _ rfl rfl).1, ?_⟩
  exact (hidden_attributes_told_iff (runnable []).pool _ _ _ rfl rfl).2.mpr (.inl rfl)

/-- Fields and methods, without their attributes. -/
def membersOnly : Settings := ⟨"A.class", .json, false, true, false⟩

theorem json_tells_hidden_attributes :
    (runnable [⟨5, []⟩]).summary = .ok (runnableSummary ["Code"]) ∧ (runnable []).summary = .ok (runnableSummary []) ∧
      (runnableSummary ["Code"]).withoutAttributes = (runnableSummary []).withoutAttributes ∧
      membersOnly.showAttributes = false ∧
      json (runnableSummary ["Code"]) membersOnly ≠ json (runnableSummary []) membersOnly := by
  have hsame : (runnableSummary ["Code"]).withoutAttributes = (runnableSummary []).withoutAttributes := rfl
  have hhidden : membersOnly.showAttributes = false := rfl
  refine ⟨summary_runnable (.cons rfl .nil), summary_runnable .nil, hsame, hhidden, ?_⟩
  intro hjson
  obtain hmembers | hattributes := (json_eq_iff_of_withoutAttributes_eq hhidden hsame).mp hjson
  · exact absurd hmembers (by decide)
  · exact absurd hattributes.methods (by decide)

end Report

end ClassInspect
