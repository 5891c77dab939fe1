import ClassInspect.Proofs.Json.Legible

/-!
# What a pretty text tells about its value

The writer appends to a growing text and treats empty arrays and objects apart. Here its text is the plain text of a tree,
so a pretty text tells the tree of its value and nothing more. A number has only its spelling in the tree. For whole
numbers that is the number itself. For doubles it is less: every double that is not finite is spelled as null.
-/

namespace ClassInspect

def BinaryValue.isFinite : BinaryValue → Bool
  | finite .. => true
  | _ => false

namespace Json

/-! ### The spelling of numbers -/

def isNumeralChar (char : Char) : Bool := char.isDigit || char == '.' || char == 'e' || char == '+' || char == '-'

/-- The text has only the characters of numbers. -/
def Numeral (text : List Char) : Prop := ∀ char ∈ text, isNumeralChar char = true

instance (text : List Char) : Decidable (Numeral text) :=
  List.decidableBAll (fun char => isNumeralChar char = true) text

theorem Numeral.plain {text : List Char} (htext : Numeral text) : Plain text := by
  intro char hchar
  have hnumeral := htext char hchar
  simp only [isNumeralChar, Bool.or_eq_true, beq_iff_eq] at hnumeral
  rcases hnumeral with (((hdigit | rfl) | rfl) | rfl) | rfl
  · simp [isTokenChar, Char.isAlphanum, hdigit]
  all_goals decide

theorem Numeral.cons {char : Char} {text : List Char} (hchar : isNumeralChar char = true) (htext : Numeral text) :
    Numeral (char :: text) := List.forall_mem_cons.mpr ⟨hchar, htext⟩

theorem Numeral.append {text more : List Char} (htext : Numeral text) (hmore : Numeral more) : Numeral (text ++ more) :=
  List.forall_mem_append.mpr ⟨htext, hmore⟩

theorem numeral_toDigits (number : Nat) : Numeral (Nat.toDigits 10 number) := by
  intro char hchar
  have hdigit : char.isDigit = true := Nat.isDigit_of_mem_toDigits (by decide) (by decide) hchar
  simp [isNumeralChar, hdigit]

theorem numeral_zeros (n : Nat) : Numeral (FloatStyle.zeros n) := by
  intro char hchar
  rw [List.eq_of_mem_replicate hchar]
  decide

theorem numeral_positionalText {digits : List Char} (hdigits : Numeral digits) (style : FloatStyle) (exponent : Int) :
    Numeral (style.positionalText digits exponent) := by
  have hend : Numeral (if style.pointZero then ['.', '0'] else []) := by split <;> decide
  have htake (n : Nat) : Numeral (digits.take n) := fun char hchar => hdigits char (List.mem_of_mem_take hchar)
  have hdrop (n : Nat) : Numeral (digits.drop n) := fun char hchar => hdigits char (List.mem_of_mem_drop hchar)
  simp only [FloatStyle.positionalText]
  split
  · exact (hdigits.append (numeral_zeros _)).append hend
  · split
    · exact (htake _).append ((hdrop _).cons (by decide))
    · exact (((numeral_zeros _).append hdigits).cons (by decide)).cons (by decide)

theorem numeral_scientificText {digits : List Char} (hdigits : Numeral digits) (leading : Int) :
    Numeral (FloatStyle.scientificText digits leading) := by
  have hsign : isNumeralChar (if leading < 0 then '-' else '+') = true := by split <;> decide
  have hmark : isNumeralChar 'e' = true := by decide
  have hexponent := ((numeral_toDigits leading.natAbs).cons hsign).cons hmark
  match digits with
  | [] => exact hexponent
  | [digit] => exact hdigits.append hexponent
  | digit :: next :: rest =>
    obtain ⟨hdigit, hrest⟩ := List.forall_mem_cons.mp hdigits
    exact ((Numeral.cons (by decide) hrest).cons hdigit).append hexponent

theorem numeral_decimalText (style : FloatStyle) (number : Decimal) : Numeral (style.decimalText number) := by
  have hdigits := numeral_toDigits number.digits
  simp only [FloatStyle.decimalText]
  split
  · exact numeral_positionalText hdigits style _
  · split
    · exact numeral_positionalText hdigits style _
    · exact numeral_scientificText hdigits _

theorem positionalText_ne_nil {digits : List Char} (hdigits : digits ≠ []) (style : FloatStyle) (exponent : Int) :
    style.positionalText digits exponent ≠ [] := by
  simp only [FloatStyle.positionalText]
  split
  · simp [hdigits]
  · split <;> simp

theorem decimalText_ne_nil (style : FloatStyle) (number : Decimal) : style.decimalText number ≠ [] := by
  have hdigits : Nat.toDigits 10 number.digits ≠ [] := Nat.toDigits_ne_nil
  simp only [FloatStyle.decimalText]
  split
  · exact positionalText_ne_nil hdigits style _
  · split
    · exact positionalText_ne_nil hdigits style _
    · simp [FloatStyle.scientificText]

theorem numeral_finiteText (style : FloatStyle) (format : BinaryFormat) (negative : Bool) (significand : Nat)
    (exponent : Int) : Numeral (style.finiteText format negative significand exponent).toList := by
  have htext := numeral_decimalText style (Shortest.decimal format style.tie significand exponent)
  simp only [FloatStyle.finiteText, String.toList_ofList]
  cases negative with
  | false => exact htext
  | true => exact htext.cons (by decide)

theorem toList_finiteText_ne_nil (style : FloatStyle) (format : BinaryFormat) (negative : Bool) (significand : Nat)
    (exponent : Int) : (style.finiteText format negative significand exponent).toList ≠ [] := by
  have htext := decimalText_ne_nil style (Shortest.decimal format style.tie significand exponent)
  simp only [FloatStyle.finiteText, String.toList_ofList]
  cases negative with
  | false => exact htext
  | true => exact List.cons_ne_nil _ _

/-- The spelling of a whole number: its digits, behind a minus sign if it is negative. -/
theorem toList_toString (value : Int) :
    (toString value).toList =
      if 0 ≤ value then Nat.toDigits 10 value.toNat else '-' :: Nat.toDigits 10 (-value).toNat := by
  rw [Int.toString_eq_repr, Int.repr_eq_if]
  split <;> simp

theorem numeral_toString (value : Int) : Numeral (toString value).toList := by
  rw [toList_toString]
  split
  · exact numeral_toDigits _
  · exact (numeral_toDigits _).cons (by decide)

theorem toDigits_inj {number other : Nat} (heq : Nat.toDigits 10 number = Nat.toDigits 10 other) : number = other := by
  rw [← @Nat.ofDigitChars_ten_toDigits number, heq, Nat.ofDigitChars_ten_toDigits]

theorem toDigits_ne_minus (number : Nat) (rest : List Char) : Nat.toDigits 10 number ≠ '-' :: rest := by
  intro heq
  have hdigit : '-'.isDigit = true :=
    Nat.isDigit_of_mem_toDigits (by decide) (by decide) (heq ▸ List.mem_cons_self)
  exact absurd hdigit (by decide)

/-! ### The tokens of a value -/

def nullToken : Token := ⟨['n', 'u', 'l', 'l'], by decide, by decide⟩

def boolToken (value : Bool) : Token :=
  ⟨if value then ['t', 'r', 'u', 'e'] else ['f', 'a', 'l', 's', 'e'], by cases value <;> decide, by cases value <;> decide⟩

def intToken (value : Int) : Token where
  text := (toString value).toList
  plain := (numeral_toString value).plain
  nonempty := by
    rw [toList_toString]
    split
    · exact Nat.toDigits_ne_nil
    · exact List.cons_ne_nil _ _

def floatToken (bits : UInt64) : Token where
  text := (floatText bits).toList
  plain := by
    unfold floatText
    split
    · exact (numeral_finiteText _ _ _ _ _).plain
    · exact nullToken.plain
  nonempty := by
    unfold floatText
    split
    · exact toList_finiteText_ne_nil _ _ _ _ _
    · exact nullToken.nonempty

theorem intToken_inj {value other : Int} : intToken value = intToken other ↔ value = other := by
  refine ⟨fun heq => ?_, fun heq => by rw [heq]⟩
  have htext : (toString value).toList = (toString other).toList := congrArg Token.text heq
  rw [toList_toString, toList_toString] at htext
  split at htext <;> split at htext
  · have := toDigits_inj htext
    omega
  · exact absurd htext (toDigits_ne_minus _ _)
  · exact absurd htext.symm (toDigits_ne_minus _ _)
  · have := toDigits_inj (List.cons.inj htext).2
    omega

theorem intToken_natCast_inj {value other : Nat} : intToken value = intToken other ↔ value = other := by
  rw [intToken_inj, Int.natCast_inj]

theorem floatToken_eq_iff {bits other : UInt64} :
    floatToken bits = floatToken other ↔ floatText bits = floatText other := by
  rw [Token.ext_iff]
  exact String.toList_inj

/-- Infinities and NaN are spelled as null, and no number is. -/
theorem floatText_eq_null_iff (bits : UInt64) :
    floatText bits = "null" ↔ (BinaryFormat.double.value bits.toNat).isFinite = false := by
  unfold floatText
  cases BinaryFormat.double.value bits.toNat with
  | nan => exact ⟨fun _ => rfl, fun _ => rfl⟩
  | infinite negative => exact ⟨fun _ => rfl, fun _ => rfl⟩
  | finite negative significand exponent =>
    refine iff_of_false (fun htext => ?_) (by simp [BinaryValue.isFinite])
    have hnumeral : Numeral "null".toList := htext ▸ numeral_finiteText _ _ _ _ _
    exact absurd hnumeral (by decide)

theorem floatText_widen_of_not_isFinite {bits : UInt32} (hvalue : (BinaryFormat.single.value bits.toNat).isFinite = false) :
    floatText (BinaryFormat.widen bits) = "null" := by
  rw [floatText_eq_null_iff]
  unfold BinaryFormat.widen
  cases hsingle : BinaryFormat.single.value bits.toNat with
  | nan => rfl
  | infinite negative => cases negative <;> rfl
  | finite negative significand exponent => simp [hsingle, BinaryValue.isFinite] at hvalue

/-! ### The tree of a value -/

theorem sizeOf_lt_array {item : Json} {items : List Json} (hitem : item ∈ items) :
    sizeOf item < sizeOf (Json.array items) := by
  have := List.sizeOf_lt_of_mem hitem
  simp only [Json.array.sizeOf_spec]
  omega

theorem sizeOf_lt_object {member : String × Json} {members : List (String × Json)} (hmember : member ∈ members) :
    sizeOf member.2 < sizeOf (Json.object members) := by
  have := List.sizeOf_lt_of_mem hmember
  obtain ⟨key, value⟩ := member
  simp only [Json.object.sizeOf_spec, Prod.mk.sizeOf_spec] at this ⊢
  omega

/-- What is left of a value when each number is its spelling. -/
def tree : Json → Tree
  | null => .token nullToken
  | bool value => .token (boolToken value)
  | int value => .token (intToken value)
  | float bits => .token (floatToken bits)
  | string value => .string value
  | array items => .array (items.map fun item => item.tree)
  | object members => .object (members.map fun member => (member.1, member.2.tree))
termination_by value => sizeOf value
decreasing_by
  · exact sizeOf_lt_array ‹_›
  · exact sizeOf_lt_object ‹_›

theorem tree_string (value : String) : (string value).tree = .string value := by rw [tree]

theorem tree_object (members : List (String × Json)) :
    (object members).tree = .object (members.map fun member => (member.1, member.2.tree)) := by rw [tree]

/-! ### The writer -/

theorem toList_stringText (value : String) : (stringText value).toList = quoted value := String.toList_ofList

theorem toList_newline (level : Nat) : (newline level).toList = line level := String.toList_ofList

/-- At every level the writer appends the text of the tree. -/
def WritesTree (value : Json) : Prop :=
  ∀ level text, (prettyAfter level text value).toList = text.toList ++ value.tree.text level

theorem toList_prettyItems {items : List Json} (hitems : ∀ item ∈ items, WritesTree item) (level : Nat) (text : String) :
    (prettyItems level items text).toList =
      text.toList ++ ((items.map tree).map (Tree.text level)).flatMap (nextPart level) := by
  induction items generalizing text with
  | nil => simp [prettyItems]
  | cons item items ih =>
    obtain ⟨hitem, hbehind⟩ := List.forall_mem_cons.mp hitems
    rw [prettyItems, ih hbehind, hitem]
    simp [toList_newline, nextPart]

theorem toList_prettyMembers {members : List (String × Json)} (hmembers : ∀ member ∈ members, WritesTree member.2)
    (level : Nat) (text : String) :
    (prettyMembers level members text).toList =
      text.toList ++ ((members.map fun member => (member.1, member.2.tree)).map fun member =>
        quoted member.1 ++ ':' :: ' ' :: member.2.text level).flatMap (nextPart level) := by
  induction members generalizing text with
  | nil => simp [prettyMembers]
  | cons member members ih =>
    obtain ⟨hmember, hbehind⟩ := List.forall_mem_cons.mp hmembers
    rw [prettyMembers, ih hbehind, hmember]
    simp [toList_newline, toList_stringText, nextPart]

-- The recursion is the writer's own: the first part, then those behind it.
theorem writesTree : (value : Json) → WritesTree value
  | null => by
    intro level text
    simp [prettyAfter, atomText, tree, Tree.text, nullToken]
  | bool value => by
    intro level text
    cases value <;> simp [prettyAfter, atomText, tree, Tree.text, boolToken]
  | int value => by
    intro level text
    simp [prettyAfter, atomText, tree, Tree.text, intToken]
  | float bits => by
    intro level text
    simp [prettyAfter, atomText, tree, Tree.text, floatToken]
  | string value => by
    intro level text
    simp [prettyAfter, atomText, tree, Tree.text, toList_stringText]
  | array [] => by
    intro level text
    simp [prettyAfter, atomText, tree, Tree.text, block]
  | array (item :: items) => by
    intro level text
    have hitem : WritesTree item := writesTree item
    have hitems : ∀ next ∈ items, WritesTree next := fun next _ => writesTree next
    rw [prettyAfter]
    simp [toList_prettyItems hitems, hitem (level + 1), tree, Tree.text, block, toList_newline]
  | object [] => by
    intro level text
    simp [prettyAfter, atomText, tree, Tree.text, block]
  | object ((key, value) :: members) => by
    intro level text
    have hvalue : WritesTree value := writesTree value
    have hmembers : ∀ next ∈ members, WritesTree next.2 := fun next _ => writesTree next.2
    rw [prettyAfter]
    simp [toList_prettyMembers hmembers, hvalue (level + 1), tree, Tree.text, block, toList_newline, toList_stringText]
termination_by value => sizeOf value
decreasing_by
  · exact sizeOf_lt_array List.mem_cons_self
  · exact sizeOf_lt_array (List.mem_cons_of_mem _ ‹_›)
  · exact sizeOf_lt_object (@List.mem_cons_self _ (key, value) members)
  · exact sizeOf_lt_object (List.mem_cons_of_mem _ ‹_›)

/-- Two pretty texts that end their last line are the same exactly for the same tree. -/
theorem pretty_newline_eq_iff {value other : Json} :
    value.pretty ++ "\n" = other.pretty ++ "\n" ↔ value.tree = other.tree := by
  have htext (value : Json) : (value.pretty ++ "\n").toList = value.tree.text 0 ++ ['\n'] := by
    simp [pretty, writesTree value 0]
  rw [← String.toList_inj, htext, htext]
  refine ⟨fun heq => ?_, fun htree => by rw [htree]⟩
  exact (value.tree.legible 0 _ _ _ (follows_newline []) (follows_newline []) heq).1

end Json

end ClassInspect
