import ClassInspect.Toml.Scalar
import ClassInspect.Toml.Text

/-!
# Reading TOML values and lines

Readers take something off the front of a text and return it with the rest, or refuse. Every list in the
language (the parts of a key, the items of an array, the members of a table between braces, the lines of
a document) is read by `rounds`, in which each round has to consume text.
-/

namespace ClassInspect.Toml.Reader

/-- What a round of reading a list leaves: the list so far, and whether another round follows. -/
structure Round (α : Type) where
  state : α
  rest : List Char
  more : Bool

/-- Rounds of reading until one is the last. A round that consumes nothing and asks for another is refused. -/
def rounds {α : Type} (round : α → List Char → Option (Round α)) (state : α) (text : List Char) :
    Option (α × List Char) :=
  match round state text with
  | none => none
  | some ⟨state, rest, false⟩ => some (state, rest)
  | some ⟨state, rest, true⟩ => if rest.length < text.length then rounds round state rest else none
termination_by text.length

def skipBlanks (text : List Char) : List Char := text.dropWhile Text.isBlank

/-- The text behind the comment at its front, if there is one. -/
def skipComment : List Char → Option (List Char)
  | '#' :: rest =>
    let content := rest.takeWhile fun char => char != '\n' && char != '\r'
    if content.all Text.isPlain then some (rest.drop content.length) else none
  | text => some text

/-- Skips blanks, comments and line ends. -/
def skipLines (text : List Char) : Option (List Char) := do
  let ((), rest) ← rounds (fun () text => do
    let rest ← skipComment (skipBlanks text)
    match Text.lineEnd? rest with
    | some rest => some ⟨(), rest, true⟩
    | none => some ⟨(), rest, false⟩) () text
  return rest

def isBare (char : Char) : Bool := char.isAlphanum || char = '_' || char = '-'

/-- One part of a key: bare, or a string on one line. -/
def keyPart (text : List Char) : Option (String × List Char) :=
  match text with
  | '"' :: '"' :: '"' :: _ | '\'' :: '\'' :: '\'' :: _ => none
  | '"' :: _ | '\'' :: _ => Text.read text
  | _ =>
    let bare := text.takeWhile isBare
    if bare.isEmpty then none else some (String.ofList bare, text.drop bare.length)

/-- A key as its parts, which points separate, and the text behind it and the blanks after it. -/
def key (text : List Char) : Option (List String × List Char) :=
  rounds (fun parts text => do
    let (part, rest) ← keyPart (skipBlanks text)
    match skipBlanks rest with
    | '.' :: rest => some ⟨parts ++ [part], rest, true⟩
    | rest => some ⟨parts ++ [part], rest, false⟩) [] text

/-- A character that ends a bare value. -/
def endsBare (char : Char) : Bool :=
  char = '=' || char = ',' || char = '[' || char = ']' || char = '\x7b' || char = '\x7d' || char = '#' ||
    char = ' ' || char = '\t' || char = '\r' || char = '\n'

/-- A bare value. One blank may stand between a date and a time. -/
def bareValue (text : List Char) : Option (Value × List Char) :=
  let word := text.takeWhile (!endsBare ·)
  let rest := text.drop word.length
  let later := rest.drop 1
  let joined := (Scalar.date word == some []) && rest.head? == some ' ' && (later.head?.map Char.isDigit).getD false
  if joined then
    let clock := later.takeWhile (!endsBare ·)
    (Scalar.value? (word ++ ' ' :: clock)).map (·, later.drop clock.length)
  else (Scalar.value? word).map (·, rest)

/-- The items of an array behind its opening bracket, each read by `item`. -/
def arrayItems (item : List Char → Option (Value × List Char)) (text : List Char) : Option (List Value × List Char) :=
  rounds (fun items text => do
    match ← skipLines text with
    | ']' :: rest => some ⟨items, rest, false⟩
    | text =>
      let (value, rest) ← item text
      match ← skipLines rest with
      | ',' :: rest => some ⟨items ++ [value], rest, true⟩
      | ']' :: rest => some ⟨items ++ [value], rest, false⟩
      | _ => none) [] text

/-- The members of a table between braces behind the opening one. Lines may end between any two signs. -/
def tableMembers (item : List Char → Option (Value × List Char)) (text : List Char) : Option (Table × List Char) :=
  rounds (fun table text => do
    match ← skipLines text with
    | '\x7d' :: rest => some ⟨table, rest, false⟩
    | text =>
      let (parts, rest) ← key text
      match parts.getLast?, ← skipLines rest with
      | some last, '=' :: rest =>
        let (value, rest) ← item (← skipLines rest)
        let table ← Table.addPair parts.dropLast last value table
        match ← skipLines rest with
        | ',' :: rest => some ⟨table, rest, true⟩
        | '\x7d' :: rest => some ⟨table, rest, false⟩
        | _ => none
      | _, _ => none) (Table.empty .inlined) text

/-- A value in which at most `depth` arrays and tables are nested. -/
def value : (depth : Nat) → List Char → Option (Value × List Char)
  | _, '"' :: rest => (Text.read ('"' :: rest)).map fun (text, rest) => (.string text, rest)
  | _, '\'' :: rest => (Text.read ('\'' :: rest)).map fun (text, rest) => (.string text, rest)
  | depth + 1, '[' :: rest => (arrayItems (value depth) rest).map fun (items, rest) => (.array items, rest)
  | depth + 1, '\x7b' :: rest => (tableMembers (value depth) rest).map fun (table, rest) => (table.toValue, rest)
  | _, text => bareValue text

/-- Arrays and tables between braces nest no deeper. -/
def deepestNesting : Nat := 80

/-- A line of a document. -/
inductive Line where
  /-- The table with this path follows. -/
  | header (path : List String)
  /-- Another one of the tables with this path follows. -/
  | arrayHeader (path : List String)
  | pair (path : List String) (value : Value)
deriving Repr

/-- A line that holds something, up to the blanks behind it. -/
def line (text : List Char) : Option (Line × List Char) :=
  match text with
  | '[' :: '[' :: rest => do
    match ← key rest with
    | (path, ']' :: ']' :: rest) => some (.arrayHeader path, rest)
    | _ => none
  | '[' :: rest => do
    match ← key rest with
    | (path, ']' :: rest) => some (.header path, rest)
    | _ => none
  | _ => do
    match ← key text with
    | (path, '=' :: rest) => do
      let (value, rest) ← value deepestNesting (skipBlanks rest)
      some (.pair path value, rest)
    | _ => none

/-- The text behind the end of a line, which comes after blanks and a comment; absent at the end of the text. -/
def finishLine (text : List Char) : Option (Option (List Char)) := do
  let rest ← skipComment (skipBlanks text)
  match rest, Text.lineEnd? rest with
  | [], _ => some none
  | _, some rest => some (some rest)
  | _, none => none

/-- The lines of a document that hold something. A byte order mark before them does not count. -/
def lines (text : List Char) : Option (List Line) := do
  let text := match text with
    | '\uFEFF' :: rest => rest
    | _ => text
  let (lines, _) ← rounds (fun lines text => do
    match ← skipLines text with
    | [] => some ⟨lines, [], false⟩
    | text =>
      let (next, rest) ← line text
      match ← finishLine rest with
      | some rest => some ⟨lines ++ [next], rest, true⟩
      | none => some ⟨lines ++ [next], [], false⟩) [] text
  return lines

end ClassInspect.Toml.Reader
