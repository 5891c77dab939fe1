import ClassInspect.Proofs.ClassFile.Summary

/-!
# The methods that a search finds

A search for a method passes over every method whose name or descriptor leads nowhere, while a summary fails at the first
of them. Where there is a summary, the two see the same methods in the same places: texts are compared and not indices, so
two methods may have the same name and descriptor by different indices, and the first of them is found on both sides.
-/

namespace ClassInspect

/-- The property holds at this position and at no earlier one. -/
def IsFirst (holds : Nat → Prop) (position : Nat) : Prop :=
  holds position ∧ ∀ earlier < position, ¬ holds earlier

section Search

variable {α β : Type}

theorem findIdx?_eq_some_iff_isFirst {items : List α} {test : α → Bool} {position : Nat} :
    items.findIdx? test = some position ↔
      IsFirst (fun k => ∃ item, items[k]? = some item ∧ test item = true) position := by
  rw [List.findIdx?_eq_some_iff_getElem]
  apply Iff.intro
  · intro hfound
    obtain ⟨hposition, htest, hearlier⟩ := hfound
    refine ⟨⟨items[position], List.getElem?_eq_getElem hposition, htest⟩, ?_⟩
    intro earlier hlt hitem
    obtain ⟨item, hitem, htrue⟩ := hitem
    obtain ⟨_, rfl⟩ := List.getElem?_eq_some_iff.mp hitem
    exact hearlier earlier hlt htrue
  · intro hfirst
    obtain ⟨⟨item, hitem, htest⟩, hearlier⟩ := hfirst
    obtain ⟨hposition, rfl⟩ := List.getElem?_eq_some_iff.mp hitem
    refine ⟨hposition, htest, fun earlier hlt htrue => hearlier earlier hlt ⟨_, ?_, htrue⟩⟩
    exact List.getElem?_eq_getElem (Nat.lt_trans hlt hposition)

/-- Lists that correspond position by position have corresponding properties in the same places. -/
theorem exists_getElem?_iff_of_forall₂ {related : α → β → Prop} {items : List α} {others : List β}
    (hrelated : List.Forall₂ related items others) {own : α → Prop} {its : β → Prop}
    (hiff : ∀ item other, related item other → (own item ↔ its other)) (position : Nat) :
    (∃ item, items[position]? = some item ∧ own item) ↔ ∃ other, others[position]? = some other ∧ its other := by
  induction hrelated generalizing position with
  | nil => simp
  | cons hhead _ ih =>
    cases position with
    | zero => simpa using hiff _ _ hhead
    | succ position => simpa using ih position

end Search

/-- The method at this position of the summary has this name and this descriptor. -/
def ClassSummary.HasMethodAt (summary : ClassSummary) (name descriptor : String) (position : Nat) : Prop :=
  ∃ method, summary.methods[position]? = some method ∧ method.name = name ∧ method.descriptor = descriptor

theorem ClassSummary.forall_not_hasMethodAt_iff {summary : ClassSummary} {name descriptor : String} :
    (∀ position, ¬ summary.HasMethodAt name descriptor position) ↔
      ∀ method ∈ summary.methods, ¬ (method.name = name ∧ method.descriptor = descriptor) := by
  apply Iff.intro
  · intro hnone method hmethod hnamed
    obtain ⟨position, hposition⟩ := List.getElem?_of_mem hmethod
    exact hnone position ⟨method, hposition, hnamed⟩
  · intro hnone position hmethod
    obtain ⟨method, hmethod, hnamed⟩ := hmethod
    exact hnone method (List.mem_of_getElem? hmethod) hnamed

namespace ClassFile

/-- The method at this position has indices that lead to this name and to this descriptor. -/
def HasMethodAt (file : ClassFile) (name descriptor : String) (position : Nat) : Prop :=
  ∃ method, file.methods[position]? = some method ∧ file.pool.IsText method.name name ∧
    file.pool.IsText method.descriptor descriptor

variable {file : ClassFile} {name descriptor : String}

theorem isNamed_eq_true_iff {method : Member} :
    file.isNamed name descriptor method = true ↔
      file.pool.IsText method.name name ∧ file.pool.IsText method.descriptor descriptor := by
  simp only [isNamed, memberName, memberDescriptor, Bool.and_eq_true, beq_iff_eq, toOption_eq_some_iff,
    ConstantPool.utf8_eq_ok_iff, ConstantPool.IsText]

theorem findMethodIndex?_eq_some_iff {position : Nat} :
    file.findMethodIndex? name descriptor = some position ↔ IsFirst (file.HasMethodAt name descriptor) position := by
  rw [findMethodIndex?, findIdx?_eq_some_iff_isFirst]
  simp only [isNamed_eq_true_iff]
  rfl

theorem findMethod?_eq_some_iff {method : Member} :
    file.findMethod? name descriptor = some method ↔
      ∃ position, IsFirst (file.HasMethodAt name descriptor) position ∧ file.methods[position]? = some method := by
  have hposition : file.findMethod? name descriptor =
      (file.findMethodIndex? name descriptor).bind fun position => file.methods[position]? :=
    List.find?_eq_bind_findIdx?_getElem?
  simp only [hposition, Option.bind_eq_some_iff, findMethodIndex?_eq_some_iff]

theorem findMethod?_eq_none_iff :
    file.findMethod? name descriptor = none ↔ ∀ position, ¬ file.HasMethodAt name descriptor position := by
  rw [findMethod?, List.find?_eq_none]
  apply Iff.intro
  · intro hnone position hmethod
    obtain ⟨method, hmethod, hnamed⟩ := hmethod
    exact hnone method (List.mem_of_getElem? hmethod) (isNamed_eq_true_iff.mpr hnamed)
  · intro hnone method hmethod hnamed
    obtain ⟨position, hposition⟩ := List.getElem?_of_mem hmethod
    exact hnone position ⟨method, hposition, isNamed_eq_true_iff.mp hnamed⟩

/-- A summary has the methods of its class in their places. -/
theorem Resolved.hasMethodAt_iff {summary : ClassSummary} (hresolved : file.Resolved summary) (position : Nat) :
    file.HasMethodAt name descriptor position ↔ summary.HasMethodAt name descriptor position := by
  apply exists_getElem?_iff_of_forall₂ hresolved.methods
  intro method resolved hmethod
  obtain ⟨hmethod, -⟩ := hmethod
  have hname := hmethod.name
  have hdescriptor := hmethod.descriptor
  simp only [ConstantPool.IsText] at hname hdescriptor ⊢
  simp only [hname, hdescriptor, Option.some.injEq, Constant.utf8.injEq]

/-- A search finds the method at the least position whose indices lead to the name and the descriptor, and nothing
exactly if there is no such method; methods whose indices lead elsewhere do not count. If the class has a summary, that
position is the least one at which the summary has the name and the descriptor, and nothing is found exactly if no
method of the summary has them. -/
theorem method_search_finds_least (file : ClassFile) (name descriptor : String) :
    (∀ method, file.findMethod? name descriptor = some method ↔
      ∃ position, IsFirst (file.HasMethodAt name descriptor) position ∧ file.methods[position]? = some method) ∧
    (∀ position, file.findMethodIndex? name descriptor = some position ↔
      IsFirst (file.HasMethodAt name descriptor) position) ∧
    (file.findMethod? name descriptor = none ↔ ∀ position, ¬ file.HasMethodAt name descriptor position) ∧
    ∀ summary, file.summary = .ok summary →
      (∀ position, file.findMethodIndex? name descriptor = some position ↔
        IsFirst (summary.HasMethodAt name descriptor) position) ∧
      (file.findMethod? name descriptor = none ↔
        ∀ method ∈ summary.methods, ¬ (method.name = name ∧ method.descriptor = descriptor)) := by
  refine ⟨fun method => findMethod?_eq_some_iff, fun position => findMethodIndex?_eq_some_iff, findMethod?_eq_none_iff, ?_⟩
  intro summary hsummary
  have hsame : file.HasMethodAt name descriptor = summary.HasMethodAt name descriptor := by
    funext position
    exact propext ((summary_eq_ok_iff.mp hsummary).hasMethodAt_iff position)
  rw [findMethod?_eq_none_iff, hsame, ClassSummary.forall_not_hasMethodAt_iff, ← hsame]
  exact ⟨fun position => findMethodIndex?_eq_some_iff, Iff.rfl⟩

/-- Three methods called `run`, the first with another descriptor and the other two alike by different indices. -/
def overloaded : ClassFile where
  minorVersion := 0
  majorVersion := 52
  pool := ⟨#[.utf8 "run", .classRef 1, .utf8 "()V", .utf8 "(J)V", .utf8 "run"]⟩
  access := ⟨0⟩
  thisClass := 2
  superClass := 0
  interfaces := []
  fields := []
  methods := [⟨⟨0⟩, 1, 4, []⟩, ⟨⟨0⟩, 5, 3, []⟩, ⟨⟨0⟩, 1, 3, []⟩]
  attributes := []

theorem method_search_finds_least_overloaded :
    ∃ summary, overloaded.summary = .ok summary ∧
      summary.methods.map MemberSummary.signature = ["run(J)V", "run()V", "run()V"] ∧
      overloaded.findMethodIndex? "run" "()V" = some 1 ∧ IsFirst (summary.HasMethodAt "run" "()V") 1 := by
  have hsummary : overloaded.summary = .ok {
      name := "run", superName := none, version := "52.0", access := [], interfaces := [], fields := []
      methods := [⟨"run", "(J)V", [], [], some 3⟩, ⟨"run", "()V", [], [], some 1⟩, ⟨"run", "()V", [], [], some 1⟩]
      attributes := []
      pool := [⟨1, .utf8 "run"⟩, ⟨2, .classRef 1⟩, ⟨3, .utf8 "()V"⟩, ⟨4, .utf8 "(J)V"⟩, ⟨5, .utf8 "run"⟩] } := by
    have hwide : argumentSlots "(J)V" false = .ok 3 := by cbv
    have hnone : argumentSlots "()V" false = .ok 1 := by cbv
    refine summary_eq_ok_iff.mpr ⟨⟨1, rfl, rfl⟩, .inl ⟨rfl, rfl⟩, rfl, rfl, .nil, .nil, ?_, .nil, rfl⟩
    exact .cons ⟨⟨rfl, rfl, rfl, .nil⟩, 3, hwide, rfl⟩ (.cons ⟨⟨rfl, rfl, rfl, .nil⟩, 1, hnone, rfl⟩
      (.cons ⟨⟨rfl, rfl, rfl, .nil⟩, 1, hnone, rfl⟩ .nil))
  have hfound : overloaded.findMethodIndex? "run" "()V" = some 1 := by decide
  exact ⟨_, hsummary, rfl, hfound, (((method_search_finds_least overloaded _ _).2.2.2 _ hsummary).1 1).mp hfound⟩

/-- A method whose name leads nowhere is passed over. -/
example : { overloaded with methods := ⟨⟨0⟩, 9, 3, []⟩ :: overloaded.methods }.findMethodIndex? "run" "()V" = some 2 := by
  decide

end ClassFile

end ClassInspect
