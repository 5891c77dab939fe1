import ClassInspect.Json.Data
import ClassInspect.Report.Json

/-!
# The summary as data

The summary with its parts in the order of their declaration. `Report.serialized` makes it JSON, takes away what the
settings hide, and writes the rest; both steps of serialization can fail on data in general.
-/

namespace ClassInspect.Report

def textsData (texts : List String) : Data := .list (texts.map Data.text)

/-- The fields of a constant, none of which has parts. -/
def constantFields : Constant → List (String × Json)
  | .utf8 value => [("value", .string value)]
  | .integer value => [("value", .int value.toInt)]
  | .float bits => [("value", .float (BinaryFormat.widen bits))]
  | .long value => [("value", .int value.toInt)]
  | .double bits => [("value", .float bits)]
  | .classRef name => [("name_index", index name)]
  | .string content => [("string_index", index content)]
  | .fieldRef owner nameAndType | .methodRef owner nameAndType | .interfaceMethodRef owner nameAndType =>
    [("class_index", index owner), ("name_and_type_index", index nameAndType)]
  | .nameAndType name descriptor => [("name_index", index name), ("descriptor_index", index descriptor)]
  | .methodHandle kind reference => [("reference_kind", .int kind.toNat), ("reference_index", index reference)]
  | .methodType descriptor => [("descriptor_index", index descriptor)]
  | .invokeDynamic bootstrap nameAndType =>
    [("bootstrap_method_attr_index", index bootstrap), ("name_and_type_index", index nameAndType)]
  | .unusable => []

/-- The fields of the constant stand beside its index and its kind. -/
def entryData (entry : PoolEntry) : Data :=
  let fields := ("index", index entry.index) :: ("tag", .string entry.constant.kindName) :: constantFields entry.constant
  .record (fields.map fun field => (field.1, .json field.2))

def memberData (member : MemberSummary) : Data :=
  let slots := match member.argumentSlots with
    | some slots => [("arg_slots", Data.json (.int slots))]
    | none => []
  .record ([("name", .text member.name), ("descriptor", .text member.descriptor),
    ("access", textsData member.access), ("attributes", textsData member.attributes)] ++ slots)

def summaryData (summary : ClassSummary) : Data :=
  .record [("name", .text summary.name), ("super_name", .json (superName summary.superName)),
    ("version", .text summary.version), ("access", textsData summary.access),
    ("interfaces", textsData summary.interfaces), ("fields", .list (summary.fields.map memberData)),
    ("methods", .list (summary.methods.map memberData)), ("attributes", textsData summary.attributes),
    ("constant_pool", .list (summary.pool.map entryData))]

/-- The keys of the sections that the settings hide. -/
def hiddenKeys (settings : Settings) : List String :=
  (if settings.showPool then [] else ["constant_pool"]) ++
    (if settings.showMembers then [] else ["fields", "methods"]) ++
    (if settings.showAttributes then [] else ["attributes"])

def serialized (summary : ClassSummary) (settings : Settings) : Except SerialFailure String := do
  let value ← (summaryData summary).toJson
  let text ← (Data.json (value.without (hiddenKeys settings))).prettyText
  return text ++ "\n"

end ClassInspect.Report
