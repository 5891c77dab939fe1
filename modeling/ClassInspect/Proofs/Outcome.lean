import Mathlib.Data.List.Forall2

/-!
# Computations that may fail

What a sequence of steps yields, and for which reason it fails. `Fails` says of a computation that its failures are the
first of some defects that is there; it has one law for steps in sequence, so the order of the defects is read off the
order of the steps.
-/

namespace ClassInspect

variable {α β ε : Type}

theorem bind_eq_ok_iff {first : Except ε α} {next : α → Except ε β} {result : β} :
    first >>= next = .ok result ↔ ∃ value, first = .ok value ∧ next value = .ok result := by
  cases first with
  | error fault => simp [bind, Except.bind]
  | ok value => simp [bind, Except.bind]

theorem bind_eq_error_iff {first : Except ε α} {next : α → Except ε β} {fault : ε} :
    first >>= next = .error fault ↔ first = .error fault ∨ ∃ value, first = .ok value ∧ next value = .error fault := by
  cases first with
  | error own => simp [bind, Except.bind]
  | ok value => simp [bind, Except.bind]

theorem pure_eq_ok_iff {value result : α} : (pure value : Except ε α) = .ok result ↔ result = value := by
  simp [pure, Except.pure, eq_comm]

theorem toOption_eq_some_iff {outcome : Except ε α} {value : α} : outcome.toOption = some value ↔ outcome = .ok value := by
  cases outcome <;> simp [Except.toOption]

theorem map_eq_bind_pure (outcome : Except ε α) (make : α → β) :
    outcome.map make = outcome >>= fun value => pure (make value) := by
  cases outcome <;> rfl

theorem mapM_eq_ok_iff {step : α → Except ε β} {items : List α} {results : List β} :
    items.mapM step = .ok results ↔ List.Forall₂ (fun item result => step item = .ok result) items results := by
  induction items generalizing results with
  | nil => simp [pure_eq_ok_iff]
  | cons item items ih =>
    simp only [List.mapM_cons, bind_eq_ok_iff, pure_eq_ok_iff, ih, List.forall₂_cons_left_iff]
    apply Iff.intro
    · intro hresults
      obtain ⟨first, hfirst, others, hothers, rfl⟩ := hresults
      exact ⟨first, others, hfirst, hothers, rfl⟩
    · intro hresults
      obtain ⟨first, others, hfirst, hothers, rfl⟩ := hresults
      exact ⟨first, hfirst, others, hothers, rfl⟩

/-! ### The first defect -/

/-- The cause is a defect of the list, and none in front of it is there. -/
inductive FirstDefect : List (ε → Prop) → ε → Prop
  | here {defect : ε → Prop} {later : List (ε → Prop)} {cause : ε} (hdefect : defect cause) :
      FirstDefect (defect :: later) cause
  | later {defect : ε → Prop} {later : List (ε → Prop)} {cause : ε} (hnone : ∀ other, ¬ defect other)
      (hlater : FirstDefect later cause) : FirstDefect (defect :: later) cause

theorem not_firstDefect_nil (cause : ε) : ¬ FirstDefect [] cause := nofun

theorem firstDefect_cons_iff {defect : ε → Prop} {later : List (ε → Prop)} {cause : ε} :
    FirstDefect (defect :: later) cause ↔ defect cause ∨ (∀ other, ¬ defect other) ∧ FirstDefect later cause := by
  apply Iff.intro
  · intro hfirst
    cases hfirst with
    | here hdefect => exact .inl hdefect
    | later hnone hlater => exact .inr ⟨hnone, hlater⟩
  · intro hfirst
    rcases hfirst with hdefect | ⟨hnone, hlater⟩
    · exact .here hdefect
    · exact .later hnone hlater

theorem firstDefect_singleton_iff {defect : ε → Prop} {cause : ε} : FirstDefect [defect] cause ↔ defect cause := by
  rw [firstDefect_cons_iff]
  exact or_iff_left fun hlater => not_firstDefect_nil cause hlater.2

/-- Where a defect is there, one of them is the first. -/
theorem forall_not_firstDefect_iff {defects : List (ε → Prop)} :
    (∀ cause, ¬ FirstDefect defects cause) ↔ ∀ defect ∈ defects, ∀ cause, ¬ defect cause := by
  induction defects with
  | nil => exact iff_of_true not_firstDefect_nil nofun
  | cons defect later ih =>
    rw [List.forall_mem_cons, ← ih]
    apply Iff.intro
    · intro hnone
      have hhere : ∀ cause, ¬ defect cause := fun cause hdefect => hnone cause (.here hdefect)
      exact ⟨hhere, fun cause hlater => hnone cause (.later hhere hlater)⟩
    · intro hnone cause hfirst
      cases hfirst with
      | here hdefect => exact hnone.1 cause hdefect
      | later _ hlater => exact hnone.2 cause hlater

theorem firstDefect_append_iff {earlier later : List (ε → Prop)} {cause : ε} :
    FirstDefect (earlier ++ later) cause ↔
      FirstDefect earlier cause ∨ (∀ other, ¬ FirstDefect earlier other) ∧ FirstDefect later cause := by
  rw [forall_not_firstDefect_iff]
  induction earlier with
  | nil => simp [not_firstDefect_nil]
  | cons defect earlier ih =>
    rw [List.cons_append, firstDefect_cons_iff, firstDefect_cons_iff, ih, List.forall_mem_cons]
    tauto

/-- The computation fails exactly if a defect is there, and then with the first of them. -/
def Fails (outcome : Except ε α) (defects : List (ε → Prop)) : Prop :=
  ∀ cause, outcome = .error cause ↔ FirstDefect defects cause

namespace Fails

variable {outcome first : Except ε α} {next : α → Except ε β} {defects earlier later : List (ε → Prop)}

theorem ok (hnone : ∀ defect ∈ defects, ∀ cause, ¬ defect cause) (value : α) : Fails (.ok value) defects := by
  intro cause
  exact iff_of_false nofun (forall_not_firstDefect_iff.mpr hnone cause)

theorem of_iff {defect : ε → Prop} (hdefect : ∀ cause, outcome = .error cause ↔ defect cause) :
    Fails outcome [defect] := by
  intro cause
  rw [hdefect, firstDefect_singleton_iff]

theorem exists_ok_iff (hfails : Fails outcome defects) :
    (∃ value, outcome = .ok value) ↔ ∀ defect ∈ defects, ∀ cause, ¬ defect cause := by
  rw [← forall_not_firstDefect_iff]
  apply Iff.intro
  · intro hok cause hcause
    obtain ⟨value, hok⟩ := hok
    cases hok.symm.trans ((hfails cause).mpr hcause)
  · intro hnone
    cases outcome with
    | ok value => exact ⟨value, rfl⟩
    | error cause => exact absurd ((hfails cause).mp rfl) (hnone cause)

theorem bind (hfirst : Fails first earlier) (hnext : ∀ value, first = .ok value → Fails (next value) later) :
    Fails (first >>= next) (earlier ++ later) := by
  intro cause
  rw [firstDefect_append_iff, bind_eq_error_iff, hfirst cause]
  apply or_congr_right
  rw [forall_not_firstDefect_iff, ← hfirst.exists_ok_iff]
  apply Iff.intro
  · intro hlater
    obtain ⟨value, hok, hcause⟩ := hlater
    exact ⟨⟨value, hok⟩, (hnext value hok cause).mp hcause⟩
  · intro hlater
    obtain ⟨⟨value, hok⟩, hcause⟩ := hlater
    exact ⟨value, hok, (hnext value hok cause).mpr hcause⟩

/-- Defects that are not there need not be looked for. -/
theorem head {defect : ε → Prop} (hfails : Fails outcome (defect :: later))
    (hnone : ∀ other ∈ later, ∀ cause, ¬ other cause) : Fails outcome [defect] := by
  apply of_iff
  intro cause
  rw [hfails cause, firstDefect_cons_iff]
  exact or_iff_left fun hlater => forall_not_firstDefect_iff.mpr hnone cause hlater.2

end Fails

end ClassInspect
