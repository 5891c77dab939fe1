import ClassInspect.Bytes.BigEndian
import ClassInspect.Host.Failure

/-!
# A directory of files

The files that a program can see, under paths relative to its working directory. A path is followed
component by component, so the first component that leads nowhere decides the failure. Nothing is known
of the places outside the directory but that they hold no file.
-/

namespace ClassInspect

inductive DirectoryEntry where
  | file (content : Bytes)
  | folder
deriving Repr, DecidableEq

/-- Entries under the components of their paths. A folder that holds an entry need not be listed. -/
structure Directory where
  entries : List (List String × DirectoryEntry)
deriving Repr

/-- A place that a path leads to. -/
inductive Place where
  | inside (components : List String)
  | outside
deriving Repr, DecidableEq

namespace Directory

/-- No component of a path is longer, in bytes. -/
def longestName : Nat := 255

/-- No path is longer, in bytes. -/
def longestPath : Nat := 4095

def entry? (directory : Directory) (components : List String) : Option DirectoryEntry :=
  match directory.entries.lookup components with
  | some entry => some entry
  | none =>
    if components.isEmpty || directory.entries.any fun (path, _) => components.isPrefixOf path then some .folder
    else none

def placeEntry (directory : Directory) : Place → Except HostFailure DirectoryEntry
  | .outside => .ok .folder
  | .inside components =>
    match directory.entry? components with
    | some entry => .ok entry
    | none => .error .notFound

/-- The place that one component of a path leads to from a folder. -/
def enter (place : Place) (component : String) : Except HostFailure Place :=
  if component = "" || component = "." then .ok place
  else if component = ".." then
    match place with
    | .outside | .inside [] => .ok .outside
    | .inside components => .ok (.inside components.dropLast)
  else if longestName < component.utf8ByteSize then .error .nameTooLong
  else match place with
    | .outside => .error .notFound
    | .inside components => .ok (.inside (components ++ [component]))

/-- Follows the components of a path; all but the last have to lead to folders. -/
def follow (directory : Directory) : Place → List String → Except HostFailure DirectoryEntry
  | place, [] => directory.placeEntry place
  | place, component :: rest =>
    match directory.placeEntry place with
    | .error failure => .error failure
    | .ok (.file _) => .error .notDirectory
    | .ok .folder =>
      match enter place component with
      | .error failure => .error failure
      | .ok next => directory.follow next rest

/-- The content of the file at a path. -/
def read (directory : Directory) (path : String) : Except HostFailure Bytes :=
  if path.contains '\x00' then .error .nulInPath
  else if path.isEmpty then .error .notFound
  else if longestPath < path.utf8ByteSize then .error .nameTooLong
  else
    let start : Place := if path.startsWith "/" then .outside else .inside []
    match directory.follow start (path.splitOn "/") with
    | .ok (.file content) => .ok content
    | .ok .folder => .error .isDirectory
    | .error failure => .error failure

end Directory

/-- A text file as its text. -/
def textOfBytes (content : Bytes) : Except HostFailure String :=
  match String.fromUTF8? ⟨content.toArray⟩ with
  | some text => .ok text
  | none => .error .notText

end ClassInspect
