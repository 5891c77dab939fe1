import ClassInspect.Host.Environment
import ClassInspect.Text.Split

/-!
# Variables in configuration text

A placeholder is `$`, an opening brace, a name of at least one character, and the first closing brace
behind it. Placeholders of variables that are set are replaced by the value, in one pass from left to
right: values are not searched again, and everything else stays as it is.
-/

namespace ClassInspect.Substitution

def openBrace : Char := '\x7b'

def closeBrace : Char := '\x7d'

/-- The name of the placeholder whose text starts behind `$`, and the text behind the placeholder. -/
def placeholder? (text : List Char) : Option (List Char × List Char) :=
  match text with
  | [] => none
  | brace :: rest =>
    if brace = openBrace then
      match splitAtFirst closeBrace rest with
      | none | some ([], _) => none
      | some (name, after) => some (name, after)
    else none

theorem length_placeholder?_lt {text name after : List Char} (hfound : placeholder? text = some (name, after)) :
    after.length < text.length := by
  unfold placeholder? at hfound
  split at hfound
  · simp at hfound
  · split at hfound
    · split at hfound
      · simp at hfound
      · simp at hfound
      · rename_i hsplit
        obtain ⟨-, rfl⟩ := Prod.mk.inj (Option.some.inj hfound)
        exact Nat.lt_succ_of_lt (length_splitAtFirst_lt hsplit)
    · simp at hfound

/-- The characters that stand for a placeholder: the value of the variable, or the placeholder itself. -/
def expansion (environment : Environment) (name : List Char) : List Char :=
  match environment (String.ofList name) with
  | some value => value.toList
  | none => '$' :: openBrace :: name ++ [closeBrace]

/-- Replaces the placeholders in a text, behind what is already replaced, which stands in reverse. -/
def replaceAfter (environment : Environment) : List Char → List Char → List Char
  | [], done => done.reverse
  | char :: rest, done =>
    if char = '$' then
      match hfound : placeholder? rest with
      | some (name, after) =>
        have := length_placeholder?_lt hfound
        replaceAfter environment after ((expansion environment name).reverse ++ done)
      | none => replaceAfter environment rest (char :: done)
    else replaceAfter environment rest (char :: done)
termination_by text => text.length

/-- The text with the placeholders of all set variables replaced. -/
def replace (environment : Environment) (text : String) : String :=
  String.ofList (replaceAfter environment text.toList [])

/-- The names of the placeholders in a text, behind those already found, which stand in reverse. -/
def namesAfter : List Char → List String → List String
  | [], done => done.reverse
  | char :: rest, done =>
    if char = '$' then
      match hfound : placeholder? rest with
      | some (name, after) =>
        have := length_placeholder?_lt hfound
        namesAfter after (String.ofList name :: done)
      | none => namesAfter rest done
    else namesAfter rest done
termination_by text => text.length

/-- The names of the placeholders in a text, from left to right. -/
def names (text : String) : List String := namesAfter text.toList []

end ClassInspect.Substitution
