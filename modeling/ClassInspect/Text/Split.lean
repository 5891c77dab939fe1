/-!
# Splitting text at a mark
-/

namespace ClassInspect

/-- The text before and behind the first `mark`; absent if there is none. -/
def splitAtFirst (mark : Char) (text : List Char) : Option (List Char × List Char) :=
  match text.dropWhile (· != mark) with
  | [] => none
  | _ :: rest => some (text.takeWhile (· != mark), rest)

theorem length_dropWhile_le {α : Type} (p : α → Bool) (l : List α) : (l.dropWhile p).length ≤ l.length :=
  (List.dropWhile_sublist p).length_le

theorem length_splitAtFirst_lt {mark : Char} {text before after : List Char}
    (hsplit : splitAtFirst mark text = some (before, after)) : after.length < text.length := by
  have hle := length_dropWhile_le (· != mark) text
  unfold splitAtFirst at hsplit
  split at hsplit
  · simp at hsplit
  · rename_i hdrop
    rw [hdrop, List.length_cons] at hle
    obtain ⟨-, rfl⟩ := Prod.mk.inj (Option.some.inj hsplit)
    exact hle

theorem splitAtFirst_cons (mark head : Char) (tail : List Char) :
    splitAtFirst mark (head :: tail) =
      if head = mark then some ([], tail)
      else (splitAtFirst mark tail).map fun parts => (head :: parts.1, parts.2) := by
  by_cases hhead : head = mark
  · simp [splitAtFirst, hhead]
  · unfold splitAtFirst
    cases hdrop : tail.dropWhile (· != mark) <;> simp [hhead, hdrop]

/-- The mark that splits a text is its first one, so nothing before it is the mark. -/
theorem splitAtFirst_eq_some_iff {mark : Char} {text before after : List Char} :
    splitAtFirst mark text = some (before, after) ↔ text = before ++ mark :: after ∧ mark ∉ before := by
  induction text generalizing before with
  | nil => simp [splitAtFirst]
  | cons head tail ih =>
    rw [splitAtFirst_cons]
    by_cases hhead : head = mark
    · cases before <;> simp_all
    · rw [if_neg hhead, Option.map_eq_some_iff]
      apply Iff.intro
      · intro hsplit
        obtain ⟨parts, hparts, hwhole⟩ := hsplit
        obtain ⟨rfl, rfl⟩ := Prod.mk.inj hwhole
        obtain ⟨htail, hfirst⟩ := ih.mp hparts
        simp [← htail, hfirst, Ne.symm hhead]
      · intro htext
        obtain ⟨htext, hfirst⟩ := htext
        cases before with
        | nil => simp [hhead] at htext
        | cons first others =>
          obtain ⟨rfl, rfl⟩ := List.cons.inj htext
          exact ⟨(others, after), ih.mpr ⟨rfl, fun hmark => hfirst (List.mem_cons_of_mem _ hmark)⟩, rfl⟩

end ClassInspect
