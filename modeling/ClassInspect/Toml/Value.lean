/-!
# TOML values

The values of a TOML document. Numbers and times are only known to be well formed. A table remembers how
it came about, because that decides what later lines may add to it.
-/

namespace ClassInspect.Toml

/-- How a table came about. -/
inductive Origin where
  /-- The document itself, or a table with a header of its own. -/
  | header
  /-- A table that exists because a header names a table inside it. -/
  | implied
  /-- A table that exists because a dotted key names a value inside it. -/
  | dotted
  /-- A table written between braces. -/
  | inlined
deriving Repr, DecidableEq

inductive Value where
  | string (text : String)
  | boolean (value : Bool)
  | integer
  | float
  | dateTime
  | array (items : List Value)
  /-- Tables under headers in double brackets, at least one. -/
  | tables (items : List Value)
  | table (origin : Origin) (entries : List (String × Value))
deriving Repr

/-- The entries of a table in the order in which they were added. -/
structure Table where
  origin : Origin
  entries : List (String × Value)
deriving Repr

namespace Table

def empty (origin : Origin) : Table := ⟨origin, []⟩

def get? (table : Table) (key : String) : Option Value := table.entries.lookup key

/-- Gives a key a value, in place of one that it has. -/
def set (table : Table) (key : String) (value : Value) : Table :=
  { table with
    entries :=
      if (table.get? key).isSome then
        table.entries.map fun (other, present) => if other = key then (other, value) else (other, present)
      else table.entries ++ [(key, value)] }

def toValue (table : Table) : Value := .table table.origin table.entries

/-- Changes the table at the end of a path. Tables that are missing on the way are made, with the given
origin. The way leads into the last of several tables, and not into tables between braces; a dotted key
does not lead into a table that has a header of its own. -/
def updateAt (making : Origin) (change : Table → Option Table) : List String → Table → Option Table
  | [], table => change table
  | key :: path, table =>
    match table.get? key with
    | none => do
      let child ← updateAt making change path (empty making)
      return table.set key child.toValue
    | some (.table .inlined _) => none
    | some (.table origin entries) =>
      if making = .dotted && origin = .header then none
      else do
        let child ← updateAt making change path ⟨origin, entries⟩
        return table.set key child.toValue
    | some (.tables items) =>
      match items.getLast? with
      | some (.table origin entries) => do
        let child ← updateAt making change path ⟨origin, entries⟩
        return table.set key (.tables (items.dropLast ++ [child.toValue]))
      | _ => none
    | some _ => none

/-- Adds a value under a dotted key, given as the path before its last part and that part. Dotted keys add
only to tables that dotted keys have made, and no key is given twice. -/
def addPair (path : List String) (key : String) (value : Value) : Table → Option Table :=
  updateAt .dotted (fun table =>
    if (table.origin = .dotted) ≠ (path ≠ []) || (table.get? key).isSome then none
    else some (table.set key value)) path

end Table

end ClassInspect.Toml
