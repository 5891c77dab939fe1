import ClassInspect.Descriptor.Reader

/-!
# The grammar of descriptors

Reading a descriptor is the inverse of writing it. What can be read back is `Spellable`: an object name may hold any
text that does not end it, so it has no semicolon and, among the parameters, no closing parenthesis, since the first
one ends them. Each reader takes exactly the text of what it returns off the front, whatever follows; with that, the
readings are unique and no text has two.
-/

namespace ClassInspect

namespace FieldType

/-- The type has at most 255 array levels and its object name, if it has one, can be told from the text around it. -/
structure Spellable (type : FieldType) : Prop where
  levels : type.dimensions ≤ 255
  name : ∀ name, type.innermost = .object name → name ≠ "" ∧ ';' ∉ name.toList

/-! ### Array levels -/

theorem nested_innermost (type : FieldType) : type.innermost.nested type.dimensions = type := by
  induction type with
  | array element ih => rw [innermost, dimensions, nested, ih]
  | _ => rfl

theorem innermost_of_dimensions_eq_zero {type : FieldType} (hflat : type.dimensions = 0) : type.innermost = type := by
  cases type with
  | array element => simp [dimensions] at hflat
  | _ => rfl

theorem dimensions_innermost (type : FieldType) : type.innermost.dimensions = 0 := by
  induction type with
  | array element ih => exact ih
  | _ => rfl

theorem innermost_nested (element : FieldType) (n : Nat) : (element.nested n).innermost = element.innermost := by
  induction n with
  | zero => rfl
  | succ n ih => exact ih

theorem dimensions_nested (element : FieldType) (n : Nat) : (element.nested n).dimensions = n + element.dimensions := by
  induction n with
  | zero => exact (Nat.zero_add _).symm
  | succ n ih => rw [nested, dimensions, ih, Nat.add_right_comm]

theorem text_nested (element : FieldType) (n : Nat) :
    (element.nested n).text = List.replicate n '[' ++ element.text := by
  induction n with
  | zero => rfl
  | succ n ih => rw [nested, text, ih, List.replicate_succ, List.cons_append]

/-- Every text starts with the marks of its array levels. -/
theorem eq_replicate_levels_append (text : List Char) :
    text = List.replicate (levels text) '[' ++ text.dropWhile (· == '[') := by
  have hmarks : text.takeWhile (· == '[') = List.replicate (levels text) '[' := by
    apply List.eq_replicate_of_mem
    intro mark hmark
    simpa using List.all_eq_true.mp List.all_takeWhile mark hmark
  rw [← hmarks, List.takeWhile_append_dropWhile]

theorem levels_replicate_append (n : Nat) {rest : List Char} (hrest : levels rest = 0) :
    levels (List.replicate n '[' ++ rest) = n := by
  induction n with
  | zero => exact hrest
  | succ n ih => simpa [levels, List.replicate_succ] using ih

theorem dropWhile_replicate_append (n : Nat) {rest : List Char} (hrest : levels rest = 0) :
    (List.replicate n '[' ++ rest).dropWhile (· == '[') = rest := by
  have hwhole := eq_replicate_levels_append (List.replicate n '[' ++ rest)
  rw [levels_replicate_append n hrest] at hwhole
  exact (List.append_cancel_left hwhole).symm

theorem levels_text_append {type : FieldType} (hflat : type.dimensions = 0) (rest : List Char) :
    levels (type.text ++ rest) = 0 := by
  cases type with
  | array element => simp [dimensions] at hflat
  | _ => rfl

/-! ### Reading a type -/

/-- An element is read from its text in front of any rest, and from nothing else. -/
theorem readElement_eq_some_iff {input rest : List Char} {type : FieldType} :
    readElement input = some (type, rest) ↔
      (type.dimensions = 0 ∧ ∀ name, type = .object name → name ≠ "" ∧ ';' ∉ name.toList) ∧
        input = type.text ++ rest := by
  apply Iff.intro
  · intro hread
    unfold readElement at hread
    split at hread
    case h_9 tail =>
      split at hread
      · simp at hread
      · simp at hread
      · next name after hempty hsplit =>
        obtain ⟨rfl, rfl⟩ := Prod.mk.inj (Option.some.inj hread)
        obtain ⟨rfl, hname⟩ := splitAtFirst_eq_some_iff.mp hsplit
        refine ⟨⟨rfl, ?_⟩, by simp [text]⟩
        intro own hown
        rw [← FieldType.object.inj hown, String.toList_ofList]
        refine ⟨?_, hname⟩
        intro hnone
        have hnil : name = [] := by simpa using congrArg String.toList hnone
        exact hempty hnil
    case h_10 => simp at hread
    -- the types without a name
    all_goals
      obtain ⟨rfl, rfl⟩ := Prod.mk.inj (Option.some.inj hread)
      exact ⟨⟨rfl, nofun⟩, rfl⟩
  · intro hspelled
    obtain ⟨⟨hflat, hname⟩, rfl⟩ := hspelled
    cases type with
    | array element => simp [dimensions] at hflat
    | object name =>
      obtain ⟨hsome, hsemicolon⟩ := hname name rfl
      have hsplit : splitAtFirst ';' (name.toList ++ ';' :: rest) = some (name.toList, rest) :=
        splitAtFirst_eq_some_iff.mpr ⟨rfl, hsemicolon⟩
      obtain ⟨first, others, hcons⟩ : ∃ first others, name.toList = first :: others := by
        apply List.exists_cons_of_ne_nil
        simpa using hsome
      have htext : (object name).text ++ rest = 'L' :: (name.toList ++ ';' :: rest) := by simp [text]
      rw [htext, readElement, hsplit, hcons]
      simp [← hcons]
    | _ => rfl

theorem read_eq_some_iff {input rest : List Char} {type : FieldType} :
    read input = some (type, rest) ↔ type.Spellable ∧ input = type.text ++ rest := by
  apply Iff.intro
  · intro hread
    unfold read at hread
    split at hread
    · simp at hread
    · next hlevels =>
      split at hread
      · simp at hread
      · next element after helement =>
        obtain ⟨rfl, rfl⟩ := Prod.mk.inj (Option.some.inj hread)
        obtain ⟨⟨hflat, hname⟩, hafter⟩ := readElement_eq_some_iff.mp helement
        refine ⟨⟨?_, ?_⟩, ?_⟩
        · rw [dimensions_nested, hflat]
          exact Nat.le_of_not_lt hlevels
        · rw [innermost_nested, innermost_of_dimensions_eq_zero hflat]
          exact hname
        · rw [text_nested, List.append_assoc, ← hafter, ← eq_replicate_levels_append]
  · intro hspelled
    obtain ⟨hspellable, rfl⟩ := hspelled
    -- the text is that of the innermost type behind the marks of all levels
    have hflat := dimensions_innermost type
    have hlevels := levels_text_append hflat rest
    have helement : readElement (type.innermost.text ++ rest) = some (type.innermost, rest) :=
      readElement_eq_some_iff.mpr ⟨⟨hflat, hspellable.name⟩, rfl⟩
    have htext : type.text ++ rest = List.replicate type.dimensions '[' ++ (type.innermost.text ++ rest) := by
      rw [← List.append_assoc, ← text_nested, nested_innermost]
    rw [read, htext, levels_replicate_append _ hlevels, dropWhile_replicate_append _ hlevels, helement,
      if_neg (show ¬ mostDimensions < type.dimensions from Nat.not_lt_of_le hspellable.levels)]
    simp only [nested_innermost]

theorem read_text {type : FieldType} (htype : type.Spellable) : read type.text = some (type, []) :=
  read_eq_some_iff.mpr ⟨htype, (List.append_nil _).symm⟩

theorem text_ne_nil (type : FieldType) : type.text ≠ [] := by
  cases type <;> simp [text]

theorem text_ne_void (type : FieldType) : type.text ≠ ['V'] := by
  cases type <;> simp [text]

/-- A closing parenthesis in the text of a type stands in its object name. -/
theorem closing_mem_text_iff {type : FieldType} :
    ')' ∈ type.text ↔ ∃ name, type.innermost = .object name ∧ ')' ∈ name.toList := by
  induction type with
  | array element ih => simp [text, innermost, ih]
  | object name => simp [text, innermost]
  | _ => simp [text, innermost]

end FieldType

namespace MethodDescriptor

/-! ### Reading a descriptor -/

/-- All types can be spelled, and no parameter has a name that would end the parameters. -/
structure Spellable (descriptor : MethodDescriptor) : Prop where
  params : ∀ type ∈ descriptor.params, type.Spellable ∧ ∀ name, type.innermost = .object name → ')' ∉ name.toList
  result : ∀ type, descriptor.result = some type → type.Spellable

theorem readParamsAfter_of_none {head : Char} {tail : List Char} (hread : FieldType.read (head :: tail) = none)
    (done : List FieldType) : readParamsAfter (head :: tail) done = none := by
  rw [readParamsAfter]
  split
  · rfl
  · next hsome => simp [hread] at hsome

theorem readParamsAfter_of_some {head : Char} {tail rest : List Char} {type : FieldType}
    (hread : FieldType.read (head :: tail) = some (type, rest)) (done : List FieldType) :
    readParamsAfter (head :: tail) done = readParamsAfter rest (type :: done) := by
  rw [readParamsAfter]
  split
  · next hnone => simp [hread] at hnone
  · next hsome =>
    rw [hread] at hsome
    obtain ⟨rfl, rfl⟩ := Prod.mk.inj (Option.some.inj hsome)
    rfl

/-- Types that spell a text which is not empty: the first of them is read off its front. -/
theorem read_of_eq_flatMap {head : Char} {tail : List Char} {items : List FieldType}
    (hitems : ∀ type ∈ items, FieldType.Spellable type) (hinput : head :: tail = items.flatMap FieldType.text) :
    ∃ type others, items = type :: others ∧
      FieldType.read (head :: tail) = some (type, others.flatMap FieldType.text) := by
  cases items with
  | nil => simp at hinput
  | cons type others =>
    refine ⟨type, others, rfl, FieldType.read_eq_some_iff.mpr ⟨hitems type List.mem_cons_self, ?_⟩⟩
    rw [hinput, List.flatMap_cons]

theorem readParamsAfter_eq_some_iff {input : List Char} {done types : List FieldType} :
    readParamsAfter input done = some types ↔
      ∃ items, (∀ type ∈ items, FieldType.Spellable type) ∧ input = items.flatMap FieldType.text ∧
        types = done.reverse ++ items := by
  induction input, done using readParamsAfter.induct with
  | case1 done =>
    rw [readParamsAfter, Option.some.injEq]
    apply Iff.intro
    · intro htypes
      exact ⟨[], by simp, rfl, by simp [← htypes]⟩
    · intro hitems
      obtain ⟨items, -, hinput, rfl⟩ := hitems
      cases items with
      | nil => simp
      | cons type items => simp [FieldType.text_ne_nil] at hinput
  | case2 done head tail hread =>
    rw [readParamsAfter_of_none hread]
    refine iff_of_false nofun ?_
    intro hitems
    obtain ⟨items, hspellable, hinput, -⟩ := hitems
    obtain ⟨type, others, -, hfirst⟩ := read_of_eq_flatMap hspellable hinput
    simp [hread] at hfirst
  | case3 done head tail type rest hread _ ih =>
    rw [readParamsAfter_of_some hread, ih]
    obtain ⟨htype, hinput⟩ := FieldType.read_eq_some_iff.mp hread
    apply Iff.intro
    · intro hitems
      obtain ⟨items, hspellable, rfl, rfl⟩ := hitems
      exact ⟨type :: items, List.forall_mem_cons.mpr ⟨htype, hspellable⟩, by rw [hinput, List.flatMap_cons], by simp⟩
    · intro hitems
      obtain ⟨items, hspellable, hwhole, rfl⟩ := hitems
      obtain ⟨first, others, rfl, hfirst⟩ := read_of_eq_flatMap hspellable hwhole
      rw [hread] at hfirst
      obtain ⟨rfl, rfl⟩ := Prod.mk.inj (Option.some.inj hfirst)
      exact ⟨others, (List.forall_mem_cons.mp hspellable).2, rfl, by simp⟩

theorem readParams_eq_some_iff {input : List Char} {types : List FieldType} :
    readParams input = some types ↔
      (∀ type ∈ types, FieldType.Spellable type) ∧ input = types.flatMap FieldType.text := by
  rw [readParams, readParamsAfter_eq_some_iff]
  apply Iff.intro
  · intro hitems
    obtain ⟨items, hspellable, hinput, rfl⟩ := hitems
    exact ⟨hspellable, hinput⟩
  · intro hspelled
    exact ⟨types, hspelled.1, hspelled.2, rfl⟩

theorem readResult_eq_some_iff {input : List Char} {result : Option FieldType} :
    readResult input = some result ↔
      (∀ type, result = some type → type.Spellable) ∧ input = resultText result := by
  unfold readResult
  split
  · next hvoid =>
    cases result with
    | none => simpa [resultText] using hvoid
    | some type =>
      refine iff_of_false nofun ?_
      intro hspelled
      exact type.text_ne_void (hspelled.2.symm.trans hvoid)
  · next hvoid =>
    split
    · next type hread =>
      obtain ⟨htype, hinput⟩ := FieldType.read_eq_some_iff.mp hread
      apply Iff.intro
      · intro hresult
        rw [← Option.some.inj hresult]
        refine ⟨fun own hown => Option.some.inj hown ▸ htype, ?_⟩
        rw [hinput, List.append_nil, resultText]
      · intro hspelled
        cases result with
        | none => exact absurd hspelled.2 hvoid
        | some own =>
          have hown := FieldType.read_text (hspelled.1 own rfl)
          rw [← show input = own.text from hspelled.2, hread] at hown
          rw [(Prod.mk.inj (Option.some.inj hown)).1]
    · next hread =>
      refine iff_of_false nofun ?_
      intro hspelled
      cases result with
      | none => exact hvoid hspelled.2
      | some type =>
        apply hread type
        rw [show input = type.text from hspelled.2]
        exact FieldType.read_text (hspelled.1 type rfl)

theorem closing_not_mem_flatMap_iff {types : List FieldType} :
    ')' ∉ types.flatMap FieldType.text ↔
      ∀ type ∈ types, ∀ name, type.innermost = .object name → ')' ∉ name.toList := by
  simp [List.mem_flatMap, FieldType.closing_mem_text_iff]

/-- The text between the parentheses and the text behind them are read on their own. -/
theorem read?_cons_eq_some_iff {input : List Char} {descriptor : MethodDescriptor} :
    read? ('(' :: input) = some descriptor ↔
      ∃ params result, splitAtFirst ')' input = some (params, result) ∧ readParams params = some descriptor.params ∧
        readResult result = some descriptor.result := by
  rw [read?]
  cases hsplit : splitAtFirst ')' input with
  | none => simp
  | some parts =>
    simp only [Option.bind_eq_bind, Option.bind_eq_some_iff, Option.pure_def, Option.some.injEq]
    apply Iff.intro
    · intro hread
      obtain ⟨types, hparams, own, hresult, rfl⟩ := hread
      exact ⟨parts.1, parts.2, rfl, hparams, hresult⟩
    · intro hread
      obtain ⟨params, result, rfl, hparams, hresult⟩ := hread
      exact ⟨descriptor.params, hparams, descriptor.result, hresult, rfl⟩

theorem exists_eq_cons_of_read? {input : List Char} {descriptor : MethodDescriptor}
    (hread : read? input = some descriptor) : ∃ tail, input = '(' :: tail := by
  unfold read? at hread
  split at hread
  · exact ⟨_, rfl⟩
  · simp at hread

theorem read?_eq_some_iff {input : List Char} {descriptor : MethodDescriptor} :
    read? input = some descriptor ↔ input = descriptor.text ∧ descriptor.Spellable := by
  apply Iff.intro
  · intro hread
    obtain ⟨tail, rfl⟩ := exists_eq_cons_of_read? hread
    obtain ⟨params, result, hsplit, hparams, hresult⟩ := read?_cons_eq_some_iff.mp hread
    obtain ⟨rfl, hclosing⟩ := splitAtFirst_eq_some_iff.mp hsplit
    obtain ⟨hspellable, rfl⟩ := readParams_eq_some_iff.mp hparams
    obtain ⟨hspellableResult, rfl⟩ := readResult_eq_some_iff.mp hresult
    have hunclosed := closing_not_mem_flatMap_iff.mp hclosing
    exact ⟨rfl, fun type htype => ⟨hspellable type htype, hunclosed type htype⟩, hspellableResult⟩
  · intro hspelled
    obtain ⟨rfl, hspellable⟩ := hspelled
    apply read?_cons_eq_some_iff.mpr
    refine ⟨descriptor.params.flatMap FieldType.text, resultText descriptor.result, ?_, ?_, ?_⟩
    · apply splitAtFirst_eq_some_iff.mpr
      exact ⟨rfl, closing_not_mem_flatMap_iff.mpr fun type htype => (hspellable.params type htype).2⟩
    · apply readParams_eq_some_iff.mpr
      exact ⟨fun type htype => (hspellable.params type htype).1, rfl⟩
    · exact readResult_eq_some_iff.mpr ⟨hspellable.result, rfl⟩

theorem parse_eq_ok_iff_read? {input : String} {descriptor : MethodDescriptor} :
    parse input = .ok descriptor ↔ read? input.toList = some descriptor := by
  unfold parse
  split
  · next found hfound => rw [hfound, Except.ok.injEq, Option.some.injEq]
  · next hnone => simp [hnone]

theorem parse_eq_error_iff_read? {input : String} {fault : Fault} :
    parse input = .error fault ↔ fault = .invalidDescriptor input ∧ read? input.toList = none := by
  unfold parse
  split
  · next found hfound => simp [hfound]
  · next hnone => rw [Except.error.injEq, eq_comm, and_iff_left hnone]

theorem parse_eq_ok_iff {input : String} {descriptor : MethodDescriptor} :
    parse input = .ok descriptor ↔ input = String.ofList descriptor.text ∧ descriptor.Spellable := by
  have htext : input.toList = descriptor.text ↔ input = String.ofList descriptor.text := by
    rw [← String.toList_inj, String.toList_ofList]
  rw [parse_eq_ok_iff_read?, read?_eq_some_iff, htext]

/-- A text is read as a descriptor exactly if it is the text of this descriptor and the descriptor can be spelled; every
other text is refused and named as it stands. -/
theorem parse_inverts_text (input : String) :
    (∀ descriptor, parse input = .ok descriptor ↔ input = String.ofList descriptor.text ∧ descriptor.Spellable) ∧
    ∀ fault, parse input = .error fault ↔
      fault = .invalidDescriptor input ∧
        ¬ ∃ descriptor : MethodDescriptor, input = String.ofList descriptor.text ∧ descriptor.Spellable := by
  refine ⟨fun descriptor => parse_eq_ok_iff, fun fault => ?_⟩
  simp only [← parse_eq_ok_iff, parse_eq_ok_iff_read?, parse_eq_error_iff_read?, Option.eq_none_iff_forall_ne_some,
    not_exists, ne_eq]

/-- A parenthesis is part of the result's name, and ends the parameters inside the name of one of them. -/
example : parse "(L([;J)[L);" = .ok ⟨[.object "([", .long], some (.array (.object ")"))⟩ ∧
    parse "(L);)V" = .error (.invalidDescriptor "(L);)V") := by cbv

end MethodDescriptor

end ClassInspect
