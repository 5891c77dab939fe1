import ClassInspect.Proofs.Json.Pretty
import ClassInspect.Report.Json
import Mathlib.Data.List.Forall2

/-!
# A complete JSON report tells the summary

With no section left out, two summaries have the same report exactly if they agree in everything but numbers of floating
point, which have to agree in their spelling only. The report's text tells its tree, and the tree has the same keys in the
same places for every summary, so it is compared member by member. A pool entry is read from its tag: the tag fixes
the kind of constant and with it the keys around it.
-/

namespace ClassInspect

/-! ### What a complete report tells -/

/-- No section is left out. -/
structure Settings.Complete (settings : Settings) : Prop where
  showPool : settings.showPool = true
  showMembers : settings.showMembers = true
  showAttributes : settings.showAttributes = true

/-- The constants are of one kind with the same fields, where numbers of floating point only have to be spelled alike. -/
def Constant.Alike : Constant → Constant → Prop
  | float bits, float other => Json.floatText (BinaryFormat.widen bits) = Json.floatText (BinaryFormat.widen other)
  | double bits, double other => Json.floatText bits = Json.floatText other
  | constant, other => constant = other

@[mk_iff] structure PoolEntry.Alike (entry other : PoolEntry) : Prop where
  index : entry.index = other.index
  constant : entry.constant.Alike other.constant

/-- The summaries agree in everything but the floating-point constants, and these are spelled alike. -/
@[mk_iff] structure ClassSummary.Alike (summary other : ClassSummary) : Prop where
  name : summary.name = other.name
  superName : summary.superName = other.superName
  version : summary.version = other.version
  access : summary.access = other.access
  interfaces : summary.interfaces = other.interfaces
  fields : summary.fields = other.fields
  methods : summary.methods = other.methods
  attributes : summary.attributes = other.attributes
  pool : List.Forall₂ PoolEntry.Alike summary.pool other.pool

theorem Constant.Alike.kindName_eq {constant other : Constant} (halike : constant.Alike other) :
    constant.kindName = other.kindName := by
  unfold Constant.Alike at halike
  split at halike
  · rfl
  · rfl
  · rw [halike]

namespace Report

/-! ### The parts of a report -/

theorem tree_strings_inj {texts others : List String} :
    (strings texts).tree = (strings others).tree ↔ texts = others := by
  have hinj : Function.Injective fun text => (Json.string text).tree := by
    intro text other heq
    simpa only [Json.tree, Json.Tree.string.injEq] using heq
  simp only [strings, Json.tree, List.map_map, Json.Tree.array.injEq]
  exact List.map_inj_right hinj

theorem tree_index_inj {value other : UInt16} : (index value).tree = (index other).tree ↔ value = other := by
  simp only [index, Json.tree, Json.Tree.token.injEq, Json.intToken_natCast_inj, UInt16.toNat_inj]

theorem tree_superName_inj {name other : Option String} : (superName name).tree = (superName other).tree ↔ name = other := by
  cases name <;> cases other <;> simp [superName, Json.tree]

theorem tree_member_inj {summary other : MemberSummary} : (member summary).tree = (member other).tree ↔ summary = other := by
  obtain ⟨name, descriptor, access, attributes, slots⟩ := summary
  obtain ⟨otherName, otherDescriptor, otherAccess, otherAttributes, otherSlots⟩ := other
  cases slots <;> cases otherSlots <;>
    simp [member, Json.tree, tree_strings_inj, Json.intToken_natCast_inj, and_assoc, and_comm, and_left_comm]

/-! ### Pool entries -/

theorem tag_mem_iff (entry : PoolEntry) (tag : Json.Tree) :
    ("tag", tag) ∈ (entryMembers entry).map (fun member => (member.1, member.2.tree)) ↔
      tag = .string entry.constant.kindName := by
  obtain ⟨index, constant⟩ := entry
  cases constant <;> simp [entryMembers, Json.tree]

theorem kindName_eq_of_tree_eq {entry other : PoolEntry}
    (heq : (Json.object (entryMembers entry)).tree = (Json.object (entryMembers other)).tree) :
    entry.constant.kindName = other.constant.kindName := by
  simp only [Json.tree, Json.Tree.object.injEq] at heq
  have htag := (tag_mem_iff entry _).mpr rfl
  rw [heq, tag_mem_iff, Json.Tree.string.injEq] at htag
  exact htag

theorem tree_entry_eq_iff_of_kindName_eq {entry other : PoolEntry}
    (hkind : entry.constant.kindName = other.constant.kindName) :
    (Json.object (entryMembers entry)).tree = (Json.object (entryMembers other)).tree ↔ entry.Alike other := by
  obtain ⟨index, constant⟩ := entry
  obtain ⟨otherIndex, otherConstant⟩ := other
  -- Only the pairs of one kind are left, and these have the same keys.
  cases constant <;> cases otherConstant <;> simp only [Constant.kindName, String.reduceEq] at hkind
  case methodHandle.methodHandle =>
    simp [entryMembers, Json.tree, PoolEntry.alike_iff, Constant.Alike, Constant.kindName, tree_index_inj,
      Json.intToken_natCast_inj, UInt8.toNat_inj, and_comm]
  all_goals
    simp [entryMembers, Json.tree, PoolEntry.alike_iff, Constant.Alike, Constant.kindName, tree_index_inj,
      Json.intToken_inj, Json.floatToken_eq_iff, Int32.toInt_inj, Int64.toInt_inj, and_assoc, and_comm,
      and_left_comm]

theorem tree_entry_eq_iff {entry other : PoolEntry} :
    (Json.object (entryMembers entry)).tree = (Json.object (entryMembers other)).tree ↔ entry.Alike other := by
  by_cases hkind : entry.constant.kindName = other.constant.kindName
  · exact tree_entry_eq_iff_of_kindName_eq hkind
  · exact iff_of_false (fun heq => hkind (kindName_eq_of_tree_eq heq)) (fun halike => hkind halike.constant.kindName_eq)

theorem tree_array_map_eq_iff {α : Type} {write : α → Json} {Alike : α → α → Prop}
    (hwrite : ∀ item other, (write item).tree = (write other).tree ↔ Alike item other) {items others : List α} :
    (Json.array (items.map write)).tree = (Json.array (others.map write)).tree ↔ List.Forall₂ Alike items others := by
  simp only [Json.tree, Json.Tree.array.injEq, List.map_map, ← List.forall₂_eq_eq_eq, List.forall₂_map_left_iff,
    List.forall₂_map_right_iff, Function.comp_apply, hwrite]

theorem tree_pool_eq_iff {pool other : List PoolEntry} :
    (Json.array (pool.map fun entry => .object (entryMembers entry))).tree =
      (Json.array (other.map fun entry => .object (entryMembers entry))).tree ↔ List.Forall₂ PoolEntry.Alike pool other :=
  tree_array_map_eq_iff fun _ _ => tree_entry_eq_iff

theorem tree_members_inj {members others : List MemberSummary} :
    (Json.array (members.map member)).tree = (Json.array (others.map member)).tree ↔ members = others := by
  rw [tree_array_map_eq_iff fun _ _ => tree_member_inj, List.forall₂_eq_eq_eq]

/-! ### The whole report -/

theorem document_of_complete {settings : Settings} (hcomplete : settings.Complete) (summary : ClassSummary) :
    document summary settings =
      .object [("access", strings summary.access), ("attributes", strings summary.attributes),
        ("constant_pool", .array (summary.pool.map fun entry => .object (entryMembers entry))),
        ("fields", .array (summary.fields.map member)), ("interfaces", strings summary.interfaces),
        ("methods", .array (summary.methods.map member)), ("name", .string summary.name),
        ("super_name", superName summary.superName), ("version", .string summary.version)] := by
  simp only [document, hcomplete.showPool, hcomplete.showMembers, hcomplete.showAttributes, if_true]
  rfl

theorem tree_document_eq_iff {settings otherSettings : Settings} (hcomplete : settings.Complete)
    (hother : otherSettings.Complete) (summary other : ClassSummary) :
    (document summary settings).tree = (document other otherSettings).tree ↔ summary.Alike other := by
  rw [document_of_complete hcomplete, document_of_complete hother, ClassSummary.alike_iff]
  simp only [Json.tree_object, Json.tree_string, List.map_cons, List.map_nil, Json.Tree.object.injEq, Json.Tree.string.injEq,
    List.cons.injEq, Prod.mk.injEq, true_and, and_true, tree_strings_inj, tree_pool_eq_iff, tree_members_inj,
    tree_superName_inj]
  tauto

/-- A complete report tells everything about a summary but the bits of its floating-point constants. Of these it tells the
spelling, which is null for infinities and NaN and for no number. -/
theorem json_eq_iff_alike {settings otherSettings : Settings} (hcomplete : settings.Complete)
    (hother : otherSettings.Complete) (summary other : ClassSummary) :
    (json summary settings = json other otherSettings ↔ summary.Alike other) ∧
      (∀ bits, Json.floatText bits = "null" ↔ (BinaryFormat.double.value bits.toNat).isFinite = false) ∧
      (∀ bits, (BinaryFormat.single.value bits.toNat).isFinite = false →
        Json.floatText (BinaryFormat.widen bits) = "null") := by
  refine ⟨?_, Json.floatText_eq_null_iff, fun bits => Json.floatText_widen_of_not_isFinite⟩
  exact Json.pretty_newline_eq_iff.trans (tree_document_eq_iff hcomplete hother summary other)

/-- A class without a super class, whose name looks like members of a report and whose pool has one `Float`. -/
def oneFloat (bits : UInt32) : ClassSummary where
  name := "A\",\n  \"super_name\": \"null"
  superName := none
  version := "52.0"
  access := ["public"]
  interfaces := []
  fields := []
  methods := [⟨"run", "()V", [], ["Code"], some 1⟩]
  attributes := []
  pool := [⟨1, .float bits⟩]

/-- Everything, as JSON. -/
def allSections : Settings := ⟨"A.class", .json, true, true, true⟩

/-- A NaN and an infinity cannot be told apart, but an absent super class can be told from one called `null`. -/
theorem json_eq_iff_alike_oneFloat :
    allSections.Complete ∧ json (oneFloat 0x7FC00000) allSections = json (oneFloat 0xFF800000) allSections ∧
      json (oneFloat 0) allSections ≠ json { oneFloat 0 with superName := some "null" } allSections := by
  have hcomplete : allSections.Complete := ⟨rfl, rfl, rfl⟩
  have hspelling : (Constant.float 0x7FC00000).Alike (Constant.float 0xFF800000) :=
    (Json.floatText_widen_of_not_isFinite (by decide)).trans (Json.floatText_widen_of_not_isFinite (by decide)).symm
  refine ⟨hcomplete, ?_, fun heq => ?_⟩
  · refine (json_eq_iff_alike hcomplete hcomplete _ _).1.mpr ⟨rfl, rfl, rfl, rfl, rfl, rfl, rfl, rfl, ?_⟩
    exact .cons ⟨rfl, hspelling⟩ .nil
  · have halike := (json_eq_iff_alike hcomplete hcomplete _ _).1.mp heq
    exact Option.some_ne_none _ halike.superName.symm

end Report

end ClassInspect
