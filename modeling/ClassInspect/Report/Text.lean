import ClassInspect.ClassFile.Summary
import ClassInspect.Settings.Basic

/-!
# The report as text

One line for each fact, with the sections that the settings ask for. The lines of the constant pool take
their detail from the class itself, by index.
-/

namespace ClassInspect.Report

def memberLine (showAttributes : Bool) (member : MemberSummary) : String :=
  let flags := String.join (member.access.map (· ++ " "))
  let name := match member.argumentSlots with
    | some slots => s!"{member.signature} [args={slots}]"
    | none => s!"{member.name} {member.descriptor}"
  let attributes :=
    if showAttributes && !member.attributes.isEmpty then " \x7b" ++ ", ".intercalate member.attributes ++ "\x7d" else ""
  "  " ++ flags ++ name ++ attributes

/-- The kind of constant stands in a column of this width. -/
def kindWidth : Nat := 18

def poolLine (pool : ConstantPool) (entry : PoolEntry) : String :=
  let kind := entry.constant.kindName
  let padding := String.ofList (List.replicate (kindWidth - kind.length) ' ')
  let detail := (pool.describe entry.index).getD ""
  s!"  #{entry.index} = {kind}{padding} {detail}"

def superLines (summary : ClassSummary) : List String :=
  match summary.superName with
  | some name => [s!"super class {name}"]
  | none => []

def interfaceLines (summary : ClassSummary) : List String :=
  if summary.interfaces.isEmpty then [] else ["interfaces " ++ ", ".intercalate summary.interfaces]

def memberLines (summary : ClassSummary) (settings : Settings) : List String :=
  if settings.showMembers then
    "fields" :: summary.fields.map (memberLine settings.showAttributes) ++
      "methods" :: summary.methods.map (memberLine settings.showAttributes)
  else []

def attributeLines (summary : ClassSummary) (settings : Settings) : List String :=
  if settings.showAttributes && !summary.attributes.isEmpty then
    ["attributes " ++ ", ".intercalate summary.attributes]
  else []

def poolLines (pool : ConstantPool) (summary : ClassSummary) (settings : Settings) : List String :=
  if settings.showPool then "constant pool" :: summary.pool.map (poolLine pool) else []

def lines (pool : ConstantPool) (summary : ClassSummary) (settings : Settings) : List String :=
  ["this class " ++ summary.name] ++ superLines summary ++
    ["version " ++ summary.version, "access " ++ " ".intercalate summary.access] ++
    interfaceLines summary ++ memberLines summary settings ++ attributeLines summary settings ++
    poolLines pool summary settings

/-- The report of a class with the given constant pool. -/
def text (pool : ConstantPool) (summary : ClassSummary) (settings : Settings) : String :=
  String.join ((lines pool summary settings).map (· ++ "\n"))

end ClassInspect.Report
