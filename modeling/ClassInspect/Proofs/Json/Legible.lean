import ClassInspect.Json.Basic

/-!
# JSON text can be read in one way

Nothing here reads JSON. Instead, the text of a value is shown to determine the value: two values with the same text, each
in front of what may follow a value, are equal. What a reader sees in a text is a `Json.Tree`, in which numbers, truth
values and null are tokens, since their spelling is all that the text has of them.

The argument goes up with the form of the text. An escaped character starts no other escaped character and never looks
like the closing quote, so a string ends where it says. A token ends at the first comma or line end, because it holds
neither. A list of parts goes on behind a comma and ends at a line end, so parts that can be told apart make lists that
can be told apart.
-/

namespace ClassInspect.Json

/-! ### Escaped characters -/

/-- The letters of the short escapes with the characters they stand for. -/
def shortEscapes : List (Char × Char) :=
  [('"', '"'), ('\\', '\\'), ('n', '\n'), ('r', '\r'), ('t', '\t'), ('b', '\x08'), ('f', '\x0c')]

/-- An escaped character is a backslash with a letter, the spelling of a control, or the character itself. -/
theorem escape_cases (char : Char) :
    (∃ letter, (letter, char) ∈ shortEscapes ∧ escape char = ['\\', letter]) ∨
      (char.toNat < 0x20 ∧ escape char = codeUnit char) ∨
      (char ≠ '\\' ∧ char ≠ '"' ∧ escape char = [char]) := by
  unfold escape
  split
  · exact .inl ⟨'"', by decide, rfl⟩
  · exact .inl ⟨'\\', by decide, rfl⟩
  · exact .inl ⟨'n', by decide, rfl⟩
  · exact .inl ⟨'r', by decide, rfl⟩
  · exact .inl ⟨'t', by decide, rfl⟩
  · exact .inl ⟨'b', by decide, rfl⟩
  · exact .inl ⟨'f', by decide, rfl⟩
  · next hquote hslash _ _ _ _ _ =>
    by_cases hcontrol : char.toNat < 0x20
    · exact .inr (.inl ⟨hcontrol, by rw [if_pos hcontrol]⟩)
    · exact .inr (.inr ⟨hslash, hquote, by rw [if_neg hcontrol]⟩)

theorem codeUnit_eq {char : Char} (hcontrol : char.toNat < 0x20) :
    codeUnit char = ['\\', 'u', '0', '0', Nat.digitChar (char.toNat / 16), Nat.digitChar (char.toNat % 16)] := by
  have hall : ∀ code < 0x20, '\\' :: 'u' :: List.replicate (4 - (Nat.toDigits 16 code).length) '0' ++ Nat.toDigits 16 code =
      ['\\', 'u', '0', '0', Nat.digitChar (code / 16), Nat.digitChar (code % 16)] := by decide
  exact hall char.toNat hcontrol

theorem codeUnit_append_inj {char other : Char} {rest otherRest : List Char} (hchar : char.toNat < 0x20)
    (hother : other.toNat < 0x20) (heq : codeUnit char ++ rest = codeUnit other ++ otherRest) :
    char = other ∧ rest = otherRest := by
  have hdigits : ∀ digit < 16, ∀ other < 16, Nat.digitChar digit = Nat.digitChar other → digit = other := by decide
  rw [codeUnit_eq hchar, codeUnit_eq hother] at heq
  simp only [List.cons_append, List.nil_append, List.cons.injEq, true_and] at heq
  obtain ⟨hhigh, hlow, hrest⟩ := heq
  have hhigh := hdigits _ (by omega) _ (by omega) hhigh
  have hlow := hdigits _ (by omega) _ (by omega) hlow
  refine ⟨Char.toNat_inj.mp ?_, hrest⟩
  omega

theorem escape_append_ne_quote (char : Char) (rest more : List Char) : escape char ++ rest ≠ '"' :: more := by
  intro heq
  rcases escape_cases char with ⟨letter, -, hescape⟩ | ⟨hcontrol, hescape⟩ | ⟨-, hquote, hescape⟩
  · simp [hescape] at heq
  · simp [hescape, codeUnit_eq hcontrol] at heq
  · rw [hescape] at heq
    exact hquote (List.cons.inj heq).1

theorem escape_append_inj {char other : Char} {rest otherRest : List Char}
    (heq : escape char ++ rest = escape other ++ otherRest) : char = other ∧ rest = otherRest := by
  have hshort : ∀ pair ∈ shortEscapes, ∀ other ∈ shortEscapes, pair.1 = other.1 → pair.2 = other.2 := by decide
  have hletters : ∀ pair ∈ shortEscapes, pair.1 ≠ 'u' := by decide
  rcases escape_cases char with ⟨letter, hchar, hescape⟩ | ⟨hchar, hescape⟩ | ⟨hslash, -, hescape⟩
  · rcases escape_cases other with ⟨otherLetter, hother, hescape'⟩ | ⟨hother, hescape'⟩ | ⟨hslash, -, hescape'⟩
    · simp only [hescape, hescape', List.cons_append, List.nil_append, List.cons.injEq, true_and] at heq
      exact ⟨hshort _ hchar _ hother heq.1, heq.2⟩
    · simp only [hescape, hescape', codeUnit_eq hother, List.cons_append, List.cons.injEq, true_and] at heq
      exact absurd heq.1 (hletters _ hchar)
    · simp only [hescape, hescape', List.cons_append, List.cons.injEq] at heq
      exact absurd heq.1.symm hslash
  · rcases escape_cases other with ⟨otherLetter, hother, hescape'⟩ | ⟨hother, hescape'⟩ | ⟨hslash, -, hescape'⟩
    · simp only [hescape, hescape', codeUnit_eq hchar, List.cons_append, List.cons.injEq, true_and] at heq
      exact absurd heq.1.symm (hletters _ hother)
    · rw [hescape, hescape'] at heq
      exact codeUnit_append_inj hchar hother heq
    · simp only [hescape, hescape', codeUnit_eq hchar, List.cons_append, List.cons.injEq] at heq
      exact absurd heq.1.symm hslash
  · rcases escape_cases other with ⟨otherLetter, hother, hescape'⟩ | ⟨hother, hescape'⟩ | ⟨-, -, hescape'⟩
    · simp only [hescape, hescape', List.cons_append, List.cons.injEq] at heq
      exact absurd heq.1 hslash
    · simp only [hescape, hescape', codeUnit_eq hother, List.cons_append, List.cons.injEq] at heq
      exact absurd heq.1 hslash
    · rw [hescape, hescape'] at heq
      exact List.cons.inj heq

/-! ### Strings -/

/-- A string between its quotes. -/
def quoted (value : String) : List Char := '"' :: value.toList.flatMap escape ++ ['"']

theorem flatMap_escape_append_inj {chars others rest otherRest : List Char}
    (heq : chars.flatMap escape ++ '"' :: rest = others.flatMap escape ++ '"' :: otherRest) :
    chars = others ∧ rest = otherRest := by
  induction chars generalizing others with
  | nil =>
    cases others with
    | nil => exact ⟨rfl, (List.cons.inj heq).2⟩
    | cons other others =>
      rw [List.flatMap_cons, List.append_assoc] at heq
      exact absurd heq.symm (escape_append_ne_quote _ _ _)
  | cons char chars ih =>
    cases others with
    | nil =>
      rw [List.flatMap_cons, List.append_assoc] at heq
      exact absurd heq (escape_append_ne_quote _ _ _)
    | cons other others =>
      rw [List.flatMap_cons, List.flatMap_cons, List.append_assoc, List.append_assoc] at heq
      obtain ⟨rfl, hrest⟩ := escape_append_inj heq
      obtain ⟨rfl, hbehind⟩ := ih hrest
      exact ⟨rfl, hbehind⟩

theorem quoted_append_inj {value other : String} {rest otherRest : List Char}
    (heq : quoted value ++ rest = quoted other ++ otherRest) : value = other ∧ rest = otherRest := by
  simp only [quoted, List.cons_append, List.append_assoc, List.nil_append, List.cons.injEq, true_and] at heq
  obtain ⟨hchars, hrest⟩ := flatMap_escape_append_inj heq
  exact ⟨String.toList_inj.mp hchars, hrest⟩

/-! ### Tokens -/

/-- The characters of numbers and of the words `true`, `false` and `null`. -/
def isTokenChar (char : Char) : Bool := char.isAlphanum || char == '+' || char == '-' || char == '.'

def Plain (text : List Char) : Prop := ∀ char ∈ text, isTokenChar char = true

instance (text : List Char) : Decidable (Plain text) :=
  List.decidableBAll (fun char => isTokenChar char = true) text

/-- A number, a truth value or null, as it is spelled. -/
@[ext] structure Token where
  text : List Char
  plain : Plain text
  nonempty : text ≠ []

/-- What may follow a value: a comma or the end of the line. -/
def Follows (rest : List Char) : Prop := ∃ more, rest = ',' :: more ∨ rest = '\n' :: more

theorem follows_comma (more : List Char) : Follows (',' :: more) := ⟨more, .inl rfl⟩

theorem follows_newline (more : List Char) : Follows ('\n' :: more) := ⟨more, .inr rfl⟩

theorem Follows.takeWhile_isTokenChar {rest : List Char} (hrest : Follows rest) : rest.takeWhile isTokenChar = [] := by
  obtain ⟨more, rfl | rfl⟩ := hrest <;> rfl

theorem Token.takeWhile_append (token : Token) {rest : List Char} (hrest : Follows rest) :
    (token.text ++ rest).takeWhile isTokenChar = token.text := by
  rw [List.takeWhile_append_of_pos token.plain, hrest.takeWhile_isTokenChar, List.append_nil]

theorem Token.append_inj {token other : Token} {rest otherRest : List Char} (hrest : Follows rest)
    (hother : Follows otherRest) (heq : token.text ++ rest = other.text ++ otherRest) :
    token = other ∧ rest = otherRest := by
  have htext : token.text = other.text := by
    rw [← token.takeWhile_append hrest, heq, other.takeWhile_append hother]
  rw [htext] at heq
  exact ⟨Token.ext htext, List.append_cancel_left heq⟩

/-! ### Lists of parts -/

/-- The text of the value can be told from the text of any other, in front of what may follow a value. -/
def Legible {α : Type} (write : α → List Char) (value : α) : Prop :=
  ∀ other rest otherRest, Follows rest → Follows otherRest → write value ++ rest = write other ++ otherRest →
    value = other ∧ rest = otherRest

/-- The end of a line and the indentation of the next one. -/
def line (level : Nat) : List Char := '\n' :: List.replicate (2 * level) ' '

/-- A part on a line of its own, behind other parts. -/
def nextPart (level : Nat) (part : List Char) : List Char := ',' :: line level ++ part

/-- Parts between brackets, each on a line of its own. -/
def block (level : Nat) (opening closing : Char) : List (List Char) → List Char
  | [] => [opening, closing]
  | part :: parts =>
    opening :: line (level + 1) ++ part ++ parts.flatMap (nextPart (level + 1)) ++ line level ++ [closing]

section Parts

variable {α : Type} {write : α → List Char} {level : Nat} {items others : List α} {rest otherRest : List Char}

theorem follows_nextParts : Follows ((items.map write).flatMap (nextPart level) ++ '\n' :: rest) := by
  cases items with
  | nil => exact follows_newline _
  | cons item items => exact follows_comma _

theorem nextParts_append_inj (hitems : ∀ item ∈ items, Legible write item)
    (heq : (items.map write).flatMap (nextPart level) ++ '\n' :: rest =
      (others.map write).flatMap (nextPart level) ++ '\n' :: otherRest) :
    items = others ∧ rest = otherRest := by
  induction items generalizing others with
  | nil =>
    cases others with
    | nil => exact ⟨rfl, (List.cons.inj heq).2⟩
    | cons other others => simp [nextPart] at heq
  | cons item items ih =>
    cases others with
    | nil => simp [nextPart] at heq
    | cons other others =>
      simp only [List.map_cons, List.flatMap_cons, nextPart, List.cons_append, List.append_assoc, List.cons.injEq,
        true_and, List.append_cancel_left_eq] at heq
      obtain ⟨hitem, hbehind⟩ := List.forall_mem_cons.mp hitems
      obtain ⟨rfl, hrest⟩ := hitem _ _ _ follows_nextParts follows_nextParts heq
      obtain ⟨rfl, hend⟩ := ih hbehind hrest
      exact ⟨rfl, hend⟩

theorem block_append_inj {opening closing : Char} (hclosing : closing ≠ '\n')
    (hitems : ∀ item ∈ items, Legible write item)
    (heq : block level opening closing (items.map write) ++ rest =
      block level opening closing (others.map write) ++ otherRest) :
    items = others ∧ rest = otherRest := by
  cases items with
  | nil =>
    cases others with
    | nil =>
      simp only [List.map_nil, block, List.cons_append, List.nil_append, List.cons.injEq, true_and] at heq
      exact ⟨rfl, heq⟩
    -- a block without parts closes where any other one ends its first line
    | cons other others =>
      simp only [List.map_nil, List.map_cons, block, line, List.cons_append, List.append_assoc, List.cons.injEq] at heq
      exact absurd heq.2.1 hclosing
  | cons item items =>
    cases others with
    | nil =>
      simp only [List.map_nil, List.map_cons, block, line, List.cons_append, List.append_assoc, List.cons.injEq] at heq
      exact absurd heq.2.1.symm hclosing
    | cons other others =>
      simp only [List.map_cons, block, line, List.cons_append, List.append_assoc, List.cons.injEq, true_and,
        List.append_cancel_left_eq] at heq
      obtain ⟨hitem, hbehind⟩ := List.forall_mem_cons.mp hitems
      obtain ⟨rfl, hparts⟩ := hitem _ _ _ follows_nextParts follows_nextParts heq
      obtain ⟨rfl, hend⟩ := nextParts_append_inj hbehind hparts
      exact ⟨rfl, (List.cons.inj (List.append_cancel_left hend)).2⟩

end Parts

/-! ### Trees -/

/-- What a reader sees in a JSON text. -/
inductive Tree where
  | token (spelled : Token)
  | string (value : String)
  | array (items : List Tree)
  | object (members : List (String × Tree))

namespace Tree

theorem sizeOf_lt_array {item : Tree} {items : List Tree} (hitem : item ∈ items) :
    sizeOf item < sizeOf (Tree.array items) := by
  have := List.sizeOf_lt_of_mem hitem
  simp only [Tree.array.sizeOf_spec]
  omega

theorem sizeOf_lt_object {member : String × Tree} {members : List (String × Tree)} (hmember : member ∈ members) :
    sizeOf member.2 < sizeOf (Tree.object members) := by
  have := List.sizeOf_lt_of_mem hmember
  obtain ⟨key, value⟩ := member
  simp only [Tree.object.sizeOf_spec, Prod.mk.sizeOf_spec] at this ⊢
  omega

/-- Induction with the parts of arrays and objects at hand. -/
@[elab_as_elim]
theorem induction {motive : Tree → Prop} (token : ∀ spelled, motive (.token spelled))
    (string : ∀ value, motive (.string value))
    (array : ∀ items, (∀ item ∈ items, motive item) → motive (.array items))
    (object : ∀ members, (∀ member ∈ members, motive member.2) → motive (.object members)) :
    (tree : Tree) → motive tree
  | .token spelled => token spelled
  | .string value => string value
  | .array items => array items fun item _ => induction token string array object item
  | .object members => object members fun member _ => induction token string array object member.2
termination_by tree => sizeOf tree
decreasing_by
  · exact sizeOf_lt_array ‹_›
  · exact sizeOf_lt_object ‹_›

/-- The text of a tree; `level` is the level of the line on which it starts. -/
def text (level : Nat) : Tree → List Char
  | .token spelled => spelled.text
  | .string value => quoted value
  | .array items => block level '[' ']' (items.map fun item => item.text (level + 1))
  | .object members =>
    block level '\x7b' '\x7d' (members.map fun member => quoted member.1 ++ ':' :: ' ' :: member.2.text (level + 1))
termination_by tree => sizeOf tree
decreasing_by
  · exact sizeOf_lt_array ‹_›
  · exact sizeOf_lt_object ‹_›

/-- The character that tells which kind of tree a text shows, unless it shows a token. -/
def mark : Tree → Option Char
  | .token _ => none
  | .string _ => some '"'
  | .array _ => some '['
  | .object _ => some '\x7b'

theorem exists_text_eq_cons (level : Nat) (tree : Tree) :
    ∃ first more, tree.text level = first :: more ∧
      tree.mark = if isTokenChar first then none else some first := by
  cases tree with
  | token spelled =>
    obtain ⟨first, more, htext⟩ := List.exists_cons_of_ne_nil spelled.nonempty
    have hplain : isTokenChar first = true := spelled.plain first (by rw [htext]; exact List.mem_cons_self)
    exact ⟨first, more, by rw [text, htext], by rw [mark, if_pos hplain]⟩
  | string value => exact ⟨'"', _, by rw [text, quoted, List.cons_append], rfl⟩
  | array items =>
    rw [text]
    cases items with
    | nil => exact ⟨'[', _, rfl, rfl⟩
    | cons item items => exact ⟨'[', _, rfl, rfl⟩
  | object members =>
    rw [text]
    cases members with
    | nil => exact ⟨'\x7b', _, rfl, rfl⟩
    | cons member members => exact ⟨'\x7b', _, rfl, rfl⟩

theorem mark_eq_of_text_append_eq {tree other : Tree} {level : Nat} {rest otherRest : List Char}
    (heq : tree.text level ++ rest = other.text level ++ otherRest) : tree.mark = other.mark := by
  obtain ⟨first, more, htext, hmark⟩ := tree.exists_text_eq_cons level
  obtain ⟨otherFirst, otherMore, hotherText, hotherMark⟩ := other.exists_text_eq_cons level
  rw [htext, hotherText] at heq
  rw [hmark, hotherMark, (List.cons.inj heq).1]

/-- The text of a tree is the text of no other tree. -/
theorem legible (tree : Tree) (level : Nat) : Legible (text level) tree := by
  induction tree using Tree.induction generalizing level with
  | token spelled =>
    intro other rest otherRest hrest hother heq
    have hmark := mark_eq_of_text_append_eq heq
    cases other with
    | token own =>
      simp only [text] at heq
      obtain ⟨rfl, hbehind⟩ := Token.append_inj hrest hother heq
      exact ⟨rfl, hbehind⟩
    | string _ | array _ | object _ => simp [mark] at hmark
  | string value =>
    intro other rest otherRest hrest hother heq
    have hmark := mark_eq_of_text_append_eq heq
    cases other with
    | string own =>
      simp only [text] at heq
      obtain ⟨rfl, hbehind⟩ := quoted_append_inj heq
      exact ⟨rfl, hbehind⟩
    | token _ | array _ | object _ => simp [mark] at hmark
  | array items ih =>
    intro other rest otherRest hrest hother heq
    have hmark := mark_eq_of_text_append_eq heq
    cases other with
    | array own =>
      simp only [text] at heq
      obtain ⟨rfl, hbehind⟩ := block_append_inj (by decide) (fun item hitem => ih item hitem (level + 1)) heq
      exact ⟨rfl, hbehind⟩
    | token _ | string _ | object _ => simp [mark] at hmark
  | object members ih =>
    intro other rest otherRest hrest hother heq
    have hmark := mark_eq_of_text_append_eq heq
    cases other with
    | object own =>
      simp only [text] at heq
      -- a key is a string, so its end can be seen before the value is looked at
      have hmembers : ∀ member ∈ members,
          Legible (fun member => quoted member.1 ++ ':' :: ' ' :: text (level + 1) member.2) member := by
        intro member hmember own rest otherRest hrest hother heq
        simp only [List.append_assoc, List.cons_append] at heq
        obtain ⟨hkey, hvalue⟩ := quoted_append_inj heq
        simp only [List.cons.injEq, true_and] at hvalue
        obtain ⟨htree, hbehind⟩ := ih member hmember (level + 1) own.2 rest otherRest hrest hother hvalue
        exact ⟨Prod.ext hkey htree, hbehind⟩
      obtain ⟨rfl, hbehind⟩ := block_append_inj (by decide) hmembers heq
      exact ⟨rfl, hbehind⟩
    | token _ | string _ | array _ => simp [mark] at hmark

end Tree

end ClassInspect.Json
