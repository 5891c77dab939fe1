import ClassInspect.Proofs.Descriptor.Grammar
import Mathlib.Algebra.Ring.Nat

/-!
# Argument slots add up

The parameters of a method are read one behind the other, so a text of parameters that is complete in itself is read in
the same way whatever comes behind it: an array mark or an object name that it opens is closed inside it. Descriptors can
therefore be put together from parts, and the slots of the parts add up. How many slots a parameter takes can be seen from
its whole text, and from the whole text only: a mark for an array in front of a wide type makes it narrow.
-/

namespace ClassInspect

theorem FieldType.slots_eq_ite_text (type : FieldType) :
    type.slots = if type.text = ['J'] ∨ type.text = ['D'] then 2 else 1 := by
  cases type with
  | array element => simp [slots, text]
  | object name => simp [slots, text]
  | _ => rfl

namespace MethodDescriptor

/-- A text of parameters between parentheses, in front of the text of a result. -/
def joined (params result : String) : String := "(" ++ params ++ ")" ++ result

theorem toList_joined (params result : String) :
    (joined params result).toList = '(' :: (params.toList ++ ')' :: result.toList) := by
  simp [joined]

/-- The parenthesis behind the parameters is the first one, so both parts are read on their own. -/
theorem parse_joined_eq_ok_iff {params result : String} (hparams : ')' ∉ params.toList) {descriptor : MethodDescriptor} :
    parse (joined params result) = .ok descriptor ↔
      readParams params.toList = some descriptor.params ∧ readResult result.toList = some descriptor.result := by
  have hsplit : splitAtFirst ')' (params.toList ++ ')' :: result.toList) = some (params.toList, result.toList) :=
    splitAtFirst_eq_some_iff.mpr ⟨rfl, hparams⟩
  rw [parse_eq_ok_iff_read?, toList_joined, read?_cons_eq_some_iff, hsplit]
  apply Iff.intro
  · intro hread
    obtain ⟨_, _, hparts, hread⟩ := hread
    obtain ⟨rfl, rfl⟩ := Prod.mk.inj (Option.some.inj hparts)
    exact hread
  · intro hread
    exact ⟨_, _, rfl, hread⟩

theorem readParams_append {first second : List Char} {types more : List FieldType}
    (hfirst : readParams first = some types) (hsecond : readParams second = some more) :
    readParams (first ++ second) = some (types ++ more) := by
  rw [readParams_eq_some_iff] at hfirst hsecond ⊢
  obtain ⟨htypes, rfl⟩ := hfirst
  obtain ⟨hmore, rfl⟩ := hsecond
  exact ⟨List.forall_mem_append.mpr ⟨htypes, hmore⟩, List.flatMap_append.symm⟩

theorem parse_joined_append {first second result : String} {front back : MethodDescriptor}
    (hfirst : ')' ∉ first.toList) (hsecond : ')' ∉ second.toList) (hfront : parse (joined first result) = .ok front)
    (hback : parse (joined second result) = .ok back) :
    parse (joined (first ++ second) result) = .ok ⟨front.params ++ back.params, front.result⟩ := by
  have hclosing : ')' ∉ (first ++ second).toList := by
    simp [hfirst, hsecond]
  obtain ⟨hfrontParams, hresult⟩ := (parse_joined_eq_ok_iff hfirst).mp hfront
  obtain ⟨hbackParams, -⟩ := (parse_joined_eq_ok_iff hsecond).mp hback
  apply (parse_joined_eq_ok_iff hclosing).mpr
  rw [String.toList_append]
  exact ⟨readParams_append hfrontParams hbackParams, hresult⟩

theorem params_eq_of_parse_joined {params result other : String} {descriptor free : MethodDescriptor}
    (hparams : ')' ∉ params.toList) (hdescriptor : parse (joined params result) = .ok descriptor)
    (hfree : parse (joined params other) = .ok free) : descriptor.params = free.params := by
  have hown := ((parse_joined_eq_ok_iff hparams).mp hdescriptor).1
  have hother := ((parse_joined_eq_ok_iff hparams).mp hfree).1
  exact Option.some.inj (hown.symm.trans hother)

/-! ### Counting slots -/

theorem paramSlots_eq_sum (descriptor : MethodDescriptor) :
    descriptor.paramSlots = (descriptor.params.map FieldType.slots).sum := by
  rw [paramSlots, List.sum, List.foldr_map]

theorem argumentSlots_of_parse {input : String} {descriptor : MethodDescriptor} (hparse : parse input = .ok descriptor)
    (isStatic : Bool) : ClassInspect.argumentSlots input isStatic = .ok (descriptor.argumentSlots isStatic) := by
  rw [ClassInspect.argumentSlots, hparse]
  rfl

/-- Two texts of parameters that can be read in front of one result can be read one behind the other; the parameters are
then those of the first followed by those of the second, and the slots add up. The result has no say in the slots, and a
receiver is one slot more. The text of a descriptor is cut into the texts of its parameters, each of which adds two
slots if it is just `J` or `D` and one slot otherwise. -/
theorem argumentSlots_compositional :
    (∀ (first second result other : String) (front back free : MethodDescriptor),
      ')' ∉ first.toList → ')' ∉ second.toList → parse (joined first result) = .ok front →
      parse (joined second result) = .ok back → parse (joined first other) = .ok free →
      (∃ whole, parse (joined (first ++ second) result) = .ok whole ∧ whole.params = front.params ++ back.params) ∧
      (∃ m n, ClassInspect.argumentSlots (joined first result) true = .ok m ∧
        ClassInspect.argumentSlots (joined second result) true = .ok n ∧
        ClassInspect.argumentSlots (joined (first ++ second) result) true = .ok (m + n)) ∧
      ∀ isStatic, ∃ n, ClassInspect.argumentSlots (joined first result) isStatic = .ok n ∧
        ClassInspect.argumentSlots (joined first other) isStatic = .ok n) ∧
    ∀ (input : String) (descriptor : MethodDescriptor), parse input = .ok descriptor →
      input.toList = '(' :: descriptor.params.flatMap FieldType.text ++ ')' :: resultText descriptor.result ∧
      ∃ n, ClassInspect.argumentSlots input true = .ok n ∧ ClassInspect.argumentSlots input false = .ok (n + 1) ∧
        n = (descriptor.params.map fun type => if type.text = ['J'] ∨ type.text = ['D'] then 2 else 1).sum := by
  refine ⟨?_, ?_⟩
  · intro first second result other front back free hfirst hsecond hfront hback hfree
    have hwhole := parse_joined_append hfirst hsecond hfront hback
    have hsame := params_eq_of_parse_joined hfirst hfront hfree
    refine ⟨⟨_, hwhole, rfl⟩, ⟨_, _, argumentSlots_of_parse hfront true, argumentSlots_of_parse hback true, ?_⟩, ?_⟩
    · rw [argumentSlots_of_parse hwhole]
      simp [argumentSlots, paramSlots_eq_sum]
    · intro isStatic
      refine ⟨_, argumentSlots_of_parse hfront isStatic, ?_⟩
      rw [argumentSlots_of_parse hfree, argumentSlots, argumentSlots, paramSlots, paramSlots, hsame]
  · intro input descriptor hparse
    have htext := (read?_eq_some_iff.mp (parse_eq_ok_iff_read?.mp hparse)).1
    refine ⟨htext, _, argumentSlots_of_parse hparse true, argumentSlots_of_parse hparse false, ?_⟩
    simp only [argumentSlots, paramSlots_eq_sum, ← FieldType.slots_eq_ite_text]
    rfl

/-- A text that ends in an array of `double` in front of one that starts with an array of `long`; the second result has a
parenthesis in its name. -/
theorem argumentSlots_compositional_arrays :
    parse (joined "J[D" "V") = .ok ⟨[.long, .array .double], none⟩ ∧
      parse (joined "[[JLa;D" "V") = .ok ⟨[.array (.array .long), .object "a", .double], none⟩ ∧
      parse (joined "J[D" "L);") = .ok ⟨[.long, .array .double], some (.object ")")⟩ ∧
      (∃ whole, parse (joined ("J[D" ++ "[[JLa;D") "V") = .ok whole ∧
        whole.params = [.long, .array .double] ++ [.array (.array .long), .object "a", .double]) ∧
      ∃ n, ClassInspect.argumentSlots (joined "J[D" "V") false = .ok n ∧
        ClassInspect.argumentSlots (joined "J[D" "L);") false = .ok n := by
  have hfront : parse (joined "J[D" "V") = .ok ⟨[.long, .array .double], none⟩ := by cbv
  have hback : parse (joined "[[JLa;D" "V") = .ok ⟨[.array (.array .long), .object "a", .double], none⟩ := by cbv
  have hfree : parse (joined "J[D" "L);") = .ok ⟨[.long, .array .double], some (.object ")")⟩ := by cbv
  obtain ⟨hwhole, -, hresult⟩ :=
    argumentSlots_compositional.1 _ _ _ _ _ _ _ (by decide) (by decide) hfront hback hfree
  exact ⟨hfront, hback, hfree, hwhole, hresult false⟩

end MethodDescriptor

end ClassInspect
