import ClassInspect.Report.Data

/-!
# The serialization of a summary

What can keep data from becoming JSON is a key of one of its maps. All maps in the data of a summary are records, which
have the names of their fields for keys, and a text is always a key. So the failure that `Report.serialized` provides for
does not occur, and what it returns is the text of `Report.json`.
-/

namespace ClassInspect

namespace Data

theorem toJson_json (value : Json) : (json value).toJson = .ok value := by
  rw [toJson]

theorem toJson_text (value : String) : (text value).toJson = .ok (.string value) :=
  toJson_json _

theorem prettyText_json (value : Json) : (json value).prettyText = .ok value.pretty := by
  rw [prettyText, toJson_json]
  rfl

theorem toJsonItems_map {α : Type} {toData : α → Data} {value : α → Json}
    (heach : ∀ x, (toData x).toJson = .ok (value x)) (xs : List α) (done : List Json) :
    toJsonItems (xs.map toData) done = .ok (done.reverse ++ xs.map value) := by
  induction xs generalizing done with
  | nil => rw [List.map_nil, toJsonItems, List.map_nil, List.append_nil]
  | cons x xs ih =>
    rw [List.map_cons, toJsonItems, heach]
    refine (ih (value x :: done)).trans ?_
    rw [List.reverse_cons, List.append_assoc, List.map_cons, List.singleton_append]

/-- A list becomes JSON if all its items do. -/
theorem toJson_list {α : Type} {toData : α → Data} {value : α → Json} (heach : ∀ x, (toData x).toJson = .ok (value x))
    (xs : List α) : (list (xs.map toData)).toJson = .ok (.array (xs.map value)) := by
  rw [toJson, toJsonItems_map heach]
  rfl

/-- The name of a field is a text, so the field becomes a member if its data becomes JSON. -/
theorem toJsonMembers_field {data : Data} {value : Json} (hvalue : data.toJson = .ok value) (name : String)
    (fields : List (String × Data)) (done : List (String × Json)) :
    toJsonMembers (((name, data) :: fields).map fun field => (text field.1, field.2)) done =
      toJsonMembers (fields.map fun field => (text field.1, field.2)) (Json.insertMember name value done) := by
  rw [List.map_cons, toJsonMembers, hvalue]
  rfl

theorem toJsonMembers_atoms (fields done : List (String × Json)) :
    toJsonMembers ((fields.map fun field => (field.1, json field.2)).map fun field => (text field.1, field.2)) done =
      .ok (fields.foldl (fun done field => Json.insertMember field.1 field.2 done) done) := by
  induction fields generalizing done with
  | nil => rw [List.map_nil, List.map_nil, toJsonMembers, List.foldl_nil]
  | cons field fields ih => rw [List.map_cons, toJsonMembers_field (toJson_json _), ih, List.foldl_cons]

theorem toJson_record {fields : List (String × Data)} {members : List (String × Json)}
    (hmembers : toJsonMembers (fields.map fun field => (text field.1, field.2)) [] = .ok members) :
    (record fields).toJson = .ok (.object members) := by
  rw [record, toJson, hmembers]
  rfl

end Data

namespace Report

open Data

theorem toJson_textsData (texts : List String) : (textsData texts).toJson = .ok (strings texts) :=
  toJson_list toJson_text texts

theorem toJson_entryData (entry : PoolEntry) : (entryData entry).toJson = .ok (.object (entryMembers entry)) := by
  rw [entryData, toJson_record (toJsonMembers_atoms _ _)]
  obtain ⟨index, constant⟩ := entry
  cases constant <;>
    simp only [constantFields, List.foldl_cons, List.foldl_nil, Json.insertMember, String.reduceLT, String.reduceEq,
      ↓reduceIte, entryMembers]

theorem toJson_memberData (summary : MemberSummary) : (memberData summary).toJson = .ok (member summary) := by
  rw [memberData, member]
  apply toJson_record
  simp only [List.cons_append, List.nil_append]
  rw [toJsonMembers_field (toJson_text _), toJsonMembers_field (toJson_text _),
    toJsonMembers_field (toJson_textsData _), toJsonMembers_field (toJson_textsData _)]
  cases summary.argumentSlots with
  | none =>
    rw [List.map_nil, toJsonMembers]
    simp only [Json.insertMember, String.reduceLT, String.reduceEq, ↓reduceIte, List.nil_append]
  | some slots =>
    rw [toJsonMembers_field (toJson_json _), List.map_nil, toJsonMembers]
    simp only [Json.insertMember, String.reduceLT, String.reduceEq, ↓reduceIte, List.cons_append, List.nil_append]

/-- The settings with every section shown. -/
def shown (settings : Settings) : Settings :=
  { settings with showPool := true, showMembers := true, showAttributes := true }

theorem toJson_summaryData (summary : ClassSummary) (settings : Settings) :
    (summaryData summary).toJson = .ok (document summary (shown settings)) := by
  apply toJson_record
  rw [toJsonMembers_field (toJson_text _), toJsonMembers_field (toJson_json _), toJsonMembers_field (toJson_text _),
    toJsonMembers_field (toJson_textsData _), toJsonMembers_field (toJson_textsData _),
    toJsonMembers_field (toJson_list toJson_memberData _), toJsonMembers_field (toJson_list toJson_memberData _),
    toJsonMembers_field (toJson_textsData _), toJsonMembers_field (toJson_list toJson_entryData _), List.map_nil,
    toJsonMembers]
  simp only [Json.insertMember, String.reduceLT, String.reduceEq, ↓reduceIte]
  rfl

theorem document_without_hiddenKeys (summary : ClassSummary) (settings : Settings) :
    (document summary (shown settings)).without (hiddenKeys settings) = document summary settings := by
  obtain ⟨path, format, showPool, showMembers, showAttributes⟩ := settings
  cases showPool <;> cases showMembers <;> cases showAttributes <;> rfl

/-- The report as JSON is there for every class and all settings. -/
theorem serialized_eq (summary : ClassSummary) (settings : Settings) :
    serialized summary settings = .ok (json summary settings) := by
  simp only [serialized, toJson_summaryData summary settings, prettyText_json]
  rw [json, ← document_without_hiddenKeys summary settings]
  rfl

end Report

end ClassInspect
