import ClassInspect.Toml.Reader

/-!
# TOML documents

The lines of a document build its tables. A header opens a table, to which the pairs behind it belong;
before the first header they belong to the document. Each table is opened at most once.
-/

namespace ClassInspect.Toml

/-- The header of the open table: the path to the table around it, its own key, and whether it is one of
several. -/
structure Heading where
  path : List String
  key : String
  several : Bool
deriving Repr

/-- A document while its lines are read: the finished part, and the open table. -/
structure Draft where
  root : Table
  heading : Option Heading
  current : Table
deriving Repr

namespace Draft

def start : Draft := { root := .empty .header, heading := none, current := .empty .header }

/-- The document with the open table put into its place. -/
def close (draft : Draft) : Option Table :=
  match draft.heading with
  | none => some draft.current
  | some heading =>
    Table.updateAt .implied (fun parent =>
      if heading.several then
        match parent.get? heading.key with
        | none => some (parent.set heading.key (.tables [draft.current.toValue]))
        | some (.tables items) => some (parent.set heading.key (.tables (items ++ [draft.current.toValue])))
        | some _ => none
      else some (parent.set heading.key draft.current.toValue)) heading.path draft.root

/-- What a path leads to, in the last of several tables wherever there are several. -/
def find? : List String → Table → Option Value
  | [], table => some table.toValue
  | key :: path, table =>
    match table.get? key, path with
    | some value, [] => some value
    | some (.table origin entries), path => find? path ⟨origin, entries⟩
    | some (.tables items), path =>
      match items.getLast? with
      | some (.table origin entries) => find? path ⟨origin, entries⟩
      | _ => none
    | _, _ => none

/-- Opens a table. One that exists already has to be implied by other headers. -/
def openTable (draft : Draft) (path : List String) (key : String) : Option Draft := do
  let root ← draft.close
  match find? (path ++ [key]) root with
  | none => some { root, heading := some ⟨path, key, false⟩, current := .empty .header }
  | some (.table .implied entries) => some { root, heading := some ⟨path, key, false⟩, current := ⟨.header, entries⟩ }
  | some _ => none

/-- Opens one of several tables. -/
def openOneOfSeveral (draft : Draft) (path : List String) (key : String) : Option Draft := do
  let root ← draft.close
  match find? (path ++ [key]) root with
  | none | some (.tables _) => some { root, heading := some ⟨path, key, true⟩, current := .empty .header }
  | some _ => none

def addLine (draft : Draft) : Reader.Line → Option Draft
  | .header path => do draft.openTable path.dropLast (← path.getLast?)
  | .arrayHeader path => do draft.openOneOfSeveral path.dropLast (← path.getLast?)
  | .pair path value => do
    return { draft with current := ← Table.addPair path.dropLast (← path.getLast?) value draft.current }

end Draft

/-- The table of a whole document. -/
def parse (text : String) : Option Table := do
  let lines ← Reader.lines text.toList
  let draft ← lines.foldlM Draft.addLine Draft.start
  draft.close

end ClassInspect.Toml
