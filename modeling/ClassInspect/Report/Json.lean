import ClassInspect.ClassFile.Summary
import ClassInspect.Json.Basic
import ClassInspect.Settings.Basic

/-!
# The report as JSON

Objects have their members in ascending order of the keys. The settings leave out whole members of the
class; the members of a field or method are always complete.
-/

namespace ClassInspect.Report

def strings (texts : List String) : Json := .array (texts.map Json.string)

def index (value : UInt16) : Json := .int value.toNat

/-- The members of a pool entry. -/
def entryMembers (entry : PoolEntry) : List (String × Json) :=
  let here := ("index", index entry.index)
  let tag := ("tag", Json.string entry.constant.kindName)
  match entry.constant with
  | .utf8 value => [here, tag, ("value", .string value)]
  | .integer value => [here, tag, ("value", .int value.toInt)]
  | .float bits => [here, tag, ("value", .float (BinaryFormat.widen bits))]
  | .long value => [here, tag, ("value", .int value.toInt)]
  | .double bits => [here, tag, ("value", .float bits)]
  | .classRef name => [here, ("name_index", index name), tag]
  | .string content => [here, ("string_index", index content), tag]
  | .fieldRef owner nameAndType | .methodRef owner nameAndType | .interfaceMethodRef owner nameAndType =>
    [("class_index", index owner), here, ("name_and_type_index", index nameAndType), tag]
  | .nameAndType name descriptor => [("descriptor_index", index descriptor), here, ("name_index", index name), tag]
  | .methodHandle kind reference =>
    [here, ("reference_index", index reference), ("reference_kind", .int kind.toNat), tag]
  | .methodType descriptor => [("descriptor_index", index descriptor), here, tag]
  | .invokeDynamic bootstrap nameAndType =>
    [("bootstrap_method_attr_index", index bootstrap), here, ("name_and_type_index", index nameAndType), tag]
  | .unusable => [here, tag]

def member (summary : MemberSummary) : Json :=
  let slots := match summary.argumentSlots with
    | some slots => [("arg_slots", Json.int slots)]
    | none => []
  .object ([("access", strings summary.access)] ++ slots ++
    [("attributes", strings summary.attributes), ("descriptor", .string summary.descriptor),
      ("name", .string summary.name)])

def superName : Option String → Json
  | some name => .string name
  | none => .null

def document (summary : ClassSummary) (settings : Settings) : Json :=
  let shown (flag : Bool) (key : String) (value : Json) : List (String × Json) := if flag then [(key, value)] else []
  .object (
    [("access", strings summary.access)] ++
    shown settings.showAttributes "attributes" (strings summary.attributes) ++
    shown settings.showPool "constant_pool" (.array (summary.pool.map (.object ∘ entryMembers))) ++
    shown settings.showMembers "fields" (.array (summary.fields.map member)) ++
    [("interfaces", strings summary.interfaces)] ++
    shown settings.showMembers "methods" (.array (summary.methods.map member)) ++
    [("name", .string summary.name), ("super_name", superName summary.superName),
      ("version", .string summary.version)])

/-- The report as a JSON document that ends its last line. -/
def json (summary : ClassSummary) (settings : Settings) : String := (document summary settings).pretty ++ "\n"

end ClassInspect.Report
