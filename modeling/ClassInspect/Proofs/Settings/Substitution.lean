import ClassInspect.Settings.Substitution
import Mathlib.Data.List.Basic
import Mathlib.Data.Nat.Find

/-!
# One pass over the placeholders

Replacement and the search for names walk over a text in the same way, and what they meet does not depend on the
environment. `pieces` is that walk alone: the characters that stand as they are and the placeholders, from left to right.
The environment only fills in the placeholders afterwards, so a value is never searched, and a variable that no
placeholder names cannot matter. The walk is tied to the text by the position of its leftmost placeholder.
-/

namespace ClassInspect.Substitution

/-- The text starts with a placeholder of the name. -/
structure StartsWith (text name after : List Char) : Prop where
  spelled : text = '$' :: openBrace :: (name ++ closeBrace :: after)
  named : name ≠ []
  /-- It ends at the first closing brace. -/
  closed : closeBrace ∉ name

/-- A placeholder of the name stands between the two parts of the text. -/
def Occurs (text before name after : List Char) : Prop := ∃ rest, text = before ++ rest ∧ StartsWith rest name after

structure OccursFirst (text before name after : List Char) : Prop where
  occurs : Occurs text before name after
  leftmost : ∀ earlier other further, Occurs text earlier other further → before.length ≤ earlier.length

/-- What a text is made of. -/
inductive Piece where
  | plain (char : Char)
  | placeholder (name : String)

namespace Piece

def source : Piece → List Char
  | plain char => [char]
  | placeholder name => '$' :: openBrace :: (name.toList ++ [closeBrace])

/-- The value of a variable is taken as it is. -/
def value (environment : Environment) : Piece → List Char
  | plain char => [char]
  | placeholder name =>
    match environment name with
    | some value => value.toList
    | none => (placeholder name).source

def name? : Piece → Option String
  | plain _ => none
  | placeholder name => some name

theorem name?_plain (char : Char) : (plain char).name? = none := rfl

theorem name?_placeholder (name : String) : (placeholder name).name? = some name := rfl

end Piece

def pieces : List Char → List Piece
  | [] => []
  | char :: rest =>
    if char = '$' then
      match hfound : placeholder? rest with
      | some (name, after) =>
        have := length_placeholder?_lt hfound
        .placeholder (String.ofList name) :: pieces after
      | none => .plain char :: pieces rest
    else .plain char :: pieces rest
termination_by text => text.length

/-! ### The walk -/

theorem placeholder?_eq_some_iff {text name after : List Char} :
    placeholder? text = some (name, after) ↔ StartsWith ('$' :: text) name after := by
  unfold placeholder?
  apply Iff.intro
  · intro hfound
    split at hfound
    · cases hfound
    · next brace rest =>
      split at hfound
      · next hbrace =>
        split at hfound
        · cases hfound
        · cases hfound
        · next own further hnonempty hsplit =>
          cases hfound
          obtain ⟨hrest, hclosed⟩ := splitAtFirst_eq_some_iff.mp hsplit
          exact ⟨by rw [hbrace, hrest], hnonempty, hclosed⟩
      · cases hfound
  · intro hstarts
    obtain ⟨hspelled, hnamed, hclosed⟩ := hstarts
    obtain rfl := (List.cons.inj hspelled).2
    have hsplit : splitAtFirst closeBrace (name ++ closeBrace :: after) = some (name, after) :=
      splitAtFirst_eq_some_iff.mpr ⟨rfl, hclosed⟩
    cases name with
    | nil => exact absurd rfl hnamed
    | cons first others => simp only [if_pos, hsplit]

theorem startsWith_cons_iff {char : Char} {rest name after : List Char} :
    StartsWith (char :: rest) name after ↔ char = '$' ∧ placeholder? rest = some (name, after) := by
  rw [placeholder?_eq_some_iff]
  apply Iff.intro
  · intro hstarts
    obtain rfl := (List.cons.inj hstarts.spelled).1
    exact ⟨rfl, hstarts⟩
  · intro hstarts
    obtain ⟨rfl, hstarts⟩ := hstarts
    exact hstarts

theorem pieces_of_startsWith {text name after : List Char} (hstarts : StartsWith text name after) :
    pieces text = .placeholder (String.ofList name) :: pieces after := by
  cases text with
  | nil => cases hstarts.spelled
  | cons char rest =>
    obtain ⟨rfl, hfound⟩ := startsWith_cons_iff.mp hstarts
    rw [pieces, if_pos rfl]
    split
    · next own further hown =>
      cases hfound.symm.trans hown
      rfl
    · next hnone => cases hfound.symm.trans hnone

theorem pieces_cons {char : Char} {rest : List Char} (hplain : ∀ name after, ¬ StartsWith (char :: rest) name after) :
    pieces (char :: rest) = .plain char :: pieces rest := by
  rw [pieces]
  split
  · next hdollar =>
    split
    · next name after hfound => exact absurd (startsWith_cons_iff.mpr ⟨hdollar, hfound⟩) (hplain name after)
    · rfl
  · rfl

theorem value_placeholder (environment : Environment) (name : List Char) :
    (Piece.placeholder (String.ofList name)).value environment = expansion environment name := by
  rw [Piece.value, expansion, Piece.source, String.toList_ofList]
  rfl

theorem replaceAfter_eq (environment : Environment) (text done : List Char) :
    replaceAfter environment text done = done.reverse ++ (pieces text).flatMap (Piece.value environment) := by
  fun_induction replaceAfter environment text done with
  | case1 done => rw [pieces, List.flatMap_nil, List.append_nil]
  | case2 rest done name after hfound _ ih =>
    rw [ih, pieces_of_startsWith (startsWith_cons_iff.mpr ⟨rfl, hfound⟩), List.flatMap_cons, value_placeholder,
      List.reverse_append, List.reverse_reverse, List.append_assoc]
  | case3 rest done hnone ih =>
    rw [ih, pieces_cons (by simp [startsWith_cons_iff, hnone]), List.flatMap_cons, List.reverse_cons, List.append_assoc]
    rfl
  | case4 char rest done hchar ih =>
    rw [ih, pieces_cons (by simp [startsWith_cons_iff, hchar]), List.flatMap_cons, List.reverse_cons, List.append_assoc]
    rfl

theorem namesAfter_eq (text : List Char) (done : List String) :
    namesAfter text done = done.reverse ++ (pieces text).filterMap Piece.name? := by
  fun_induction namesAfter text done with
  | case1 done => rw [pieces, List.filterMap_nil, List.append_nil]
  | case2 rest done name after hfound _ ih =>
    rw [ih, pieces_of_startsWith (startsWith_cons_iff.mpr ⟨rfl, hfound⟩),
      List.filterMap_cons_some (Piece.name?_placeholder _), List.reverse_cons, List.append_assoc, List.singleton_append]
  | case3 rest done hnone ih =>
    rw [ih, pieces_cons (by simp [startsWith_cons_iff, hnone]), List.filterMap_cons_none (Piece.name?_plain _)]
  | case4 char rest done hchar ih =>
    rw [ih, pieces_cons (by simp [startsWith_cons_iff, hchar]), List.filterMap_cons_none (Piece.name?_plain _)]

theorem replace_eq (environment : Environment) (text : String) :
    replace environment text = String.ofList ((pieces text.toList).flatMap (Piece.value environment)) := by
  rw [replace, replaceAfter_eq, List.reverse_nil, List.nil_append]

theorem names_eq (text : String) : names text = (pieces text.toList).filterMap Piece.name? := by
  rw [names, namesAfter_eq, List.reverse_nil, List.nil_append]

theorem flatMap_source_pieces (text : List Char) : (pieces text).flatMap Piece.source = text := by
  fun_induction pieces text with
  | case1 => rfl
  | case2 rest name after hfound _ ih =>
    rw [List.flatMap_cons, ih, (startsWith_cons_iff.mpr ⟨rfl, hfound⟩).spelled, Piece.source, String.toList_ofList]
    simp
  | case3 rest _ ih => rw [List.flatMap_cons, ih]; rfl
  | case4 char rest _ ih => rw [List.flatMap_cons, ih]; rfl

/-! ### The leftmost placeholder -/

theorem StartsWith.occurs {text name after : List Char} (hstarts : StartsWith text name after) :
    Occurs text [] name after := ⟨text, rfl, hstarts⟩

theorem Occurs.cons {text before name after : List Char} (hoccurs : Occurs text before name after) (char : Char) :
    Occurs (char :: text) (char :: before) name after := by
  obtain ⟨rest, rfl, hstarts⟩ := hoccurs
  exact ⟨rest, rfl, hstarts⟩

/-- Characters in front of every placeholder stand as they are. -/
theorem pieces_append {before rest : List Char}
    (hclear : ∀ earlier name after, Occurs (before ++ rest) earlier name after → before.length ≤ earlier.length) :
    pieces (before ++ rest) = before.map .plain ++ pieces rest := by
  induction before with
  | nil => rfl
  | cons char before ih =>
    have hplain : ∀ name after, ¬ StartsWith (char :: (before ++ rest)) name after := by
      intro name after hstarts
      exact absurd (hclear [] name after hstarts.occurs) (by simp)
    have hlater : ∀ earlier name after, Occurs (before ++ rest) earlier name after → before.length ≤ earlier.length := by
      intro earlier name after hoccurs
      exact Nat.le_of_succ_le_succ (hclear (char :: earlier) name after (hoccurs.cons char))
    rw [List.cons_append, pieces_cons hplain, ih hlater, List.map_cons, List.cons_append]

theorem pieces_of_not_occurs {text : List Char} (hclear : ∀ before name after, ¬ Occurs text before name after) :
    pieces text = text.map .plain := by
  have hall : ∀ earlier name after, Occurs (text ++ []) earlier name after → text.length ≤ earlier.length := by
    intro earlier name after hoccurs
    rw [List.append_nil] at hoccurs
    exact absurd hoccurs (hclear earlier name after)
  have hpieces := pieces_append hall
  rwa [List.append_nil, pieces, List.append_nil] at hpieces

theorem OccursFirst.pieces_eq {text before name after : List Char} (hfirst : OccursFirst text before name after) :
    pieces text = before.map .plain ++ .placeholder (String.ofList name) :: pieces after := by
  obtain ⟨rest, rfl, hstarts⟩ := hfirst.occurs
  rw [pieces_append hfirst.leftmost, pieces_of_startsWith hstarts]

theorem exists_occursFirst {text : List Char} (hoccurs : ∃ before name after, Occurs text before name after) :
    ∃ before name after, OccursFirst text before name after := by
  classical
  have hlength : ∃ length before name after, Occurs text before name after ∧ before.length = length := by
    obtain ⟨before, name, after, hown⟩ := hoccurs
    exact ⟨_, before, name, after, hown, rfl⟩
  obtain ⟨before, name, after, hown, hleast⟩ := Nat.find_spec hlength
  refine ⟨before, name, after, hown, fun earlier other further hearlier => ?_⟩
  rw [hleast]
  exact Nat.find_min' hlength ⟨earlier, other, further, hearlier, rfl⟩

/-! ### What is replaced -/

theorem flatMap_value_plain (environment : Environment) (text : List Char) :
    (text.map Piece.plain).flatMap (Piece.value environment) = text := by
  rw [List.flatMap_map]
  exact List.flatMap_singleton' text

theorem ofList_value_placeholder (environment : Environment) (name : String) :
    String.ofList ((Piece.placeholder name).value environment) =
      (environment name).getD ("$\x7b" ++ name ++ "\x7d") := by
  rw [Piece.value]
  cases environment name with
  | some value => exact String.ofList_toList
  | none =>
    rw [Option.getD_none, ← String.toList_inj, String.toList_ofList, String.toList_append, String.toList_append,
      Piece.source]
    rfl

theorem filterMap_name?_plain (text : List Char) : (text.map Piece.plain).filterMap Piece.name? = [] := by
  simp [Piece.name?]

theorem value_none (piece : Piece) : piece.value (fun _ => none) = piece.source := by
  cases piece <;> rfl

theorem value_congr {environment other : Environment} {piece : Piece}
    (hagree : ∀ name, piece.name? = some name → environment name = other name) :
    piece.value environment = piece.value other := by
  cases piece with
  | plain char => rfl
  | placeholder name => rw [Piece.value, Piece.value, hagree name rfl]

theorem replace_congr {environment other : Environment} {text : String}
    (hagree : ∀ name ∈ names text, environment name = other name) : replace environment text = replace other text := by
  have hvalues : ∀ piece ∈ pieces text.toList, piece.value environment = piece.value other := by
    intro piece hpiece
    apply value_congr
    intro name hname
    apply hagree
    rw [names_eq]
    exact List.mem_filterMap.mpr ⟨piece, hpiece, hname⟩
  rw [replace_eq, replace_eq, List.flatMap_congr hvalues]

theorem replace_none (text : String) : replace (fun _ => none) text = text := by
  rw [replace_eq, List.flatMap_congr fun piece _ => value_none piece, flatMap_source_pieces, String.ofList_toList]

theorem names_of_not_occurs {text : String} (hclear : ∀ before name after, ¬ Occurs text.toList before name after) :
    names text = [] := by
  rw [names_eq, pieces_of_not_occurs hclear, filterMap_name?_plain]

theorem replace_of_not_occurs {text : String} (hclear : ∀ before name after, ¬ Occurs text.toList before name after)
    (environment : Environment) : replace environment text = text := by
  rw [replace_eq, pieces_of_not_occurs hclear, flatMap_value_plain, String.ofList_toList]

theorem names_of_occursFirst {text before name after : String}
    (hfirst : OccursFirst text.toList before.toList name.toList after.toList) : names text = name :: names after := by
  rw [names_eq, hfirst.pieces_eq, List.filterMap_append, filterMap_name?_plain, List.nil_append,
    List.filterMap_cons_some (Piece.name?_placeholder _), String.ofList_toList, ← names_eq]

theorem replace_of_occursFirst {text before name after : String}
    (hfirst : OccursFirst text.toList before.toList name.toList after.toList) (environment : Environment) :
    replace environment text =
      before ++ (environment name).getD ("$\x7b" ++ name ++ "\x7d") ++ replace environment after := by
  rw [replace_eq, hfirst.pieces_eq, List.flatMap_append, flatMap_value_plain, List.flatMap_cons, String.ofList_append,
    String.ofList_append, String.ofList_toList, String.ofList_toList, ofList_value_placeholder, ← replace_eq]
  exact String.append_assoc.symm

/-- A text without a placeholder stays as it is. Otherwise the leftmost placeholder is replaced by the value of its
variable, or by itself if the variable is not set; what is in front of it stays, and replacement goes on behind it. So a
text falls into pieces that do not depend on the environment, into which the values are put as they are; it stays as it
is if no variable that it names is set; and environments that agree on the names in it cannot be told apart. -/
theorem replace_single_pass (text : String) :
    ((∀ before name after, ¬ Occurs text.toList before name after) →
      names text = [] ∧ ∀ environment, replace environment text = text) ∧
    (∀ before name after : String, OccursFirst text.toList before.toList name.toList after.toList →
      names text = name :: names after ∧
      ∀ environment, replace environment text =
        before ++ (environment name).getD ("$\x7b" ++ name ++ "\x7d") ++ replace environment after) ∧
    ((∃ before name after, Occurs text.toList before name after) →
      ∃ before name after, OccursFirst text.toList before name after) ∧
    (∃ parts : List Piece, parts.flatMap Piece.source = text.toList ∧ parts.filterMap Piece.name? = names text ∧
      ∀ environment, (replace environment text).toList = parts.flatMap (Piece.value environment)) ∧
    (∀ environment, (∀ name ∈ names text, environment name = none) → replace environment text = text) ∧
    ∀ environment other : Environment, (∀ name ∈ names text, environment name = other name) →
      replace environment text = replace other text := by
  refine ⟨fun hclear => ⟨names_of_not_occurs hclear, replace_of_not_occurs hclear⟩,
    fun before name after hfirst => ⟨names_of_occursFirst hfirst, replace_of_occursFirst hfirst⟩, exists_occursFirst,
    ?_, ?_, fun environment other => replace_congr⟩
  · refine ⟨pieces text.toList, flatMap_source_pieces _, (names_eq text).symm, fun environment => ?_⟩
    rw [replace_eq, String.toList_ofList]
  · intro environment hunset
    rw [replace_congr hunset, replace_none]

/-- A pair of braces is no placeholder, a name runs to the first closing brace, and its value is not searched. -/
example : replace (fun name => if name = "$\x7bA" then some "$\x7bB\x7d" else some "") "$\x7b\x7d$\x7b$\x7bA\x7d\x7d" =
    "$\x7b\x7d$\x7bB\x7d\x7d" := by decide +kernel

end ClassInspect.Substitution
