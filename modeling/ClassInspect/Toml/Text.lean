/-!
# Strings in TOML

Four kinds of strings: with escapes or literal, on one line or on several. The reader of a kind starts
behind the opening quotes and finds the closing ones; what stands between is decoded afterwards. Controls
other than the tab are refused, and a carriage return only stands before a line feed.
-/

namespace ClassInspect.Toml.Text

/-- A character that may stand in a comment or, but for quotes and backslashes, in a string. -/
def isPlain (char : Char) : Bool := char = '\t' || (0x20 ≤ char.toNat && char.toNat != 0x7F)

def isBlank (char : Char) : Bool := char = ' ' || char = '\t'

/-- The text behind the line end at its front. -/
def lineEnd? : List Char → Option (List Char)
  | '\n' :: rest => some rest
  | '\r' :: '\n' :: rest => some rest
  | _ => none

/-- The content of a literal string and the text behind it; the content read so far stands in reverse. -/
def literalAfter (done : List Char) : List Char → Option (List Char × List Char)
  | [] => none
  | '\'' :: rest => some (done.reverse, rest)
  | char :: rest => if isPlain char then literalAfter (char :: done) rest else none

/-- The content of a string with escapes, which are left as they are. -/
def basicAfter (done : List Char) : List Char → Option (List Char × List Char)
  | [] => none
  | '"' :: rest => some (done.reverse, rest)
  | '\\' :: char :: rest => basicAfter (char :: '\\' :: done) rest
  | char :: rest => if isPlain char then basicAfter (char :: done) rest else none

/-- Up to two quotes before the closing three belong to the content. -/
def closeLines (quote : Char) (done : List Char) (rest : List Char) : List Char × List Char :=
  match rest with
  | first :: second :: tail =>
    if first = quote && second = quote then ((second :: first :: done).reverse, tail)
    else if first = quote then ((first :: done).reverse, second :: tail)
    else (done.reverse, rest)
  | [first] => if first = quote then ((first :: done).reverse, []) else (done.reverse, rest)
  | [] => (done.reverse, [])

/-- The content of a literal string on several lines. -/
def literalLinesAfter (done : List Char) : List Char → Option (List Char × List Char)
  | [] => none
  | '\'' :: '\'' :: '\'' :: rest => some (closeLines '\'' done rest)
  | '\r' :: '\n' :: rest => literalLinesAfter ('\n' :: '\r' :: done) rest
  | char :: rest => if isPlain char || char = '\n' then literalLinesAfter (char :: done) rest else none

/-- The content of a string with escapes on several lines. -/
def basicLinesAfter (done : List Char) : List Char → Option (List Char × List Char)
  | [] => none
  | '"' :: '"' :: '"' :: rest => some (closeLines '"' done rest)
  | '\\' :: char :: rest => basicLinesAfter (char :: '\\' :: done) rest
  | '\r' :: '\n' :: rest => basicLinesAfter ('\n' :: '\r' :: done) rest
  | char :: rest => if isPlain char || char = '\n' then basicLinesAfter (char :: done) rest else none

def hexValue? (char : Char) : Option Nat :=
  if char.isDigit then some (char.toNat - '0'.toNat)
  else if 'a' ≤ char && char ≤ 'f' then some (char.toNat - 'a'.toNat + 10)
  else if 'A' ≤ char && char ≤ 'F' then some (char.toNat - 'A'.toNat + 10)
  else none

/-- The character whose code point is spelled by hexadecimal digits. -/
def scalar? (digits : List Char) : Option Char := do
  let code ← digits.foldlM (fun code digit => do return code * 16 + (← hexValue? digit)) 0
  if h : code.isValidChar then some (Char.ofNatAux code h) else none

def shortEscape? : Char → Option Char
  | 'b' => some '\x08'
  | 't' => some '\t'
  | 'n' => some '\n'
  | 'f' => some '\x0c'
  | 'r' => some '\r'
  | 'e' => some '\x1b'
  | '"' => some '"'
  | '\\' => some '\\'
  | _ => none

/-- Whether a line ends here, but for blanks. -/
def endsLine (text : List Char) : Bool := (lineEnd? (text.dropWhile isBlank)).isSome

/-- Decodes the escapes of a content. In a string on several lines a backslash at the end of a line takes
away the line end and all white space behind it; while that is done, `trimming` holds. -/
def unescapeAfter (lines : Bool) (trimming : Bool) (done : List Char) : List Char → Option (List Char)
  | [] => some done.reverse
  | '\\' :: 'x' :: a :: b :: rest => do
    let char ← scalar? [a, b]
    unescapeAfter lines false (char :: done) rest
  | '\\' :: 'u' :: a :: b :: c :: d :: rest => do
    let char ← scalar? [a, b, c, d]
    unescapeAfter lines false (char :: done) rest
  | '\\' :: 'U' :: a :: b :: c :: d :: e :: f :: g :: h :: rest => do
    let char ← scalar? [a, b, c, d, e, f, g, h]
    unescapeAfter lines false (char :: done) rest
  | '\\' :: char :: rest =>
    if lines && endsLine (char :: rest) then unescapeAfter lines true done rest
    else do
      let char ← shortEscape? char
      unescapeAfter lines false (char :: done) rest
  | char :: rest =>
    if trimming && (isBlank char || char = '\n' || char = '\r') then unescapeAfter lines true done rest
    else if char = '\\' then none
    else unescapeAfter lines false (char :: done) rest

def unescape (lines : Bool) (content : List Char) : Option (List Char) := unescapeAfter lines false [] content

/-- A line end directly behind the opening quotes does not count. -/
def dropLineEnd (text : List Char) : List Char := (lineEnd? text).getD text

/-- The string at the front of a text, if one starts there, and the text behind it. -/
def read (text : List Char) : Option (String × List Char) :=
  match text with
  | '"' :: '"' :: '"' :: rest => do
    let (content, after) ← basicLinesAfter [] (dropLineEnd rest)
    return (String.ofList (← unescape true content), after)
  | '\'' :: '\'' :: '\'' :: rest => do
    let (content, after) ← literalLinesAfter [] (dropLineEnd rest)
    return (String.ofList content, after)
  | '"' :: rest => do
    let (content, after) ← basicAfter [] rest
    return (String.ofList (← unescape false content), after)
  | '\'' :: rest => do
    let (content, after) ← literalAfter [] rest
    return (String.ofList content, after)
  | _ => none

end ClassInspect.Toml.Text
